import Chip8.Display
import Chip8.Picture

/-!
# `Chip8.Proofs.Picture`: a picture shows its display

A picture of a display has one line a row and one character a pixel, so
nothing of the display is lost in it. The lines of a text are what
`List.splitOn` gives (`Picture.lines_eq_splitOn`), and with a line feed
between the rows these are the rows again (`Picture.splitOn_render`). This
needs marks that are not line feeds. If the marks for lit and dark pixels
differ as well, every character stands for one pixel, and reading a text
is the other way round of setting a picture:

* `Picture.read?_eq_some_iff` for rows of pixels;
* `Display.ofRows?_eq_some_iff` for the display that has given rows;
* `Display.read?_eq_some_iff` for both in a row.

The main statement, `Display.render_readBack`, also says which character
stands where.
-/

set_option autoImplicit false

namespace Chip8

/-- If `f` reads what `g` writes and nothing else, this is so for lists. -/
theorem mapM_eq_some_iff_map {α β : Type} {f : α → Option β} {g : β → α}
    (h : ∀ a b, f a = some b ↔ a = g b) (as : List α) (bs : List β) :
    as.mapM f = some bs ↔ as = bs.map g := by
  induction as generalizing bs with
  | nil => cases bs <;> simp
  | cons a as ih =>
    cases bs with
    | nil => simp [Option.bind_eq_some_iff]
    | cons b bs => simp [Option.bind_eq_some_iff, h, ih]

namespace Picture

variable {on off : Char}

/-! ### The lines of a text -/

theorem lines_eq_splitOn (cs : List Char) : lines cs = cs.splitOn '\n' := by
  induction cs with
  | nil => rfl
  | cons c cs ih =>
    rw [List.splitOn] at ih
    rw [lines, ih, List.splitOn, List.splitOnP_cons_eq_if_modifyHead]
    simp only [beq_iff_eq]
    split
    · rfl
    · cases hlines : cs.splitOnP (· == '\n') with
      | nil => exact absurd hlines (List.splitOnP_ne_nil _ _)
      | cons l ls => rfl

/-- The character that stands for a pixel. -/
def mark (on off : Char) (lit : Bool) : Char := if lit then on else off

theorem mark_ne_newline (hon : on ≠ '\n') (hoff : off ≠ '\n') (lit : Bool) :
    mark on off lit ≠ '\n' := by
  cases lit
  · exact hoff
  · exact hon

theorem mark_eq_iff (hne : on ≠ off) (lit : Bool) :
    (mark on off lit = on ↔ lit = true) ∧ (mark on off lit = off ↔ lit = false) := by
  cases lit <;> simp [mark, hne, hne.symm]

theorem toList_renderRow (row : List Bool) :
    (renderRow (String.singleton on) (String.singleton off) row).toList
      = row.map (mark on off) := by
  induction row with
  | nil => rfl
  | cons lit row ih =>
    rw [renderRow, String.toList_join] at ih ⊢
    rw [List.map_cons, List.flatMap_cons, ih]
    cases lit <;> simp [mark]

theorem toList_render (p : Picture) :
    (render (String.singleton on) (String.singleton off) p).toList
      = ['\n'].intercalate (p.map (List.map (mark on off))) := by
  have hrows : String.toList ∘ renderRow (String.singleton on) (String.singleton off)
      = List.map (mark on off) := funext toList_renderRow
  rw [render, String.toList_intercalate, List.map_map, hrows]
  rfl

/-- The lines of a picture are its rows. -/
theorem splitOn_render (hon : on ≠ '\n') (hoff : off ≠ '\n') {p : Picture} (hp : p ≠ []) :
    (render (String.singleton on) (String.singleton off) p).toList.splitOn '\n'
      = p.map (List.map (mark on off)) := by
  rw [toList_render]
  refine List.splitOn_intercalate '\n' ?_ (by simpa using hp)
  intro line hline hnewline
  obtain ⟨row, -, rfl⟩ := List.mem_map.1 hline
  obtain ⟨lit, -, hlit⟩ := List.mem_map.1 hnewline
  exact mark_ne_newline hon hoff lit hlit

/-! ### Reading -/

theorem pixel?_eq_some_iff (hne : on ≠ off) (c : Char) (lit : Bool) :
    pixel? on off c = some lit ↔ c = mark on off lit := by
  rw [pixel?]
  by_cases hc : c = on
  · cases lit <;> simp [hc, mark, hne]
  · by_cases hc' : c = off
    · cases lit <;> simp [hc', mark, hne.symm]
    · cases lit <;> simp [hc, hc', mark]

/-- The texts that show a picture are the one that it is set as. -/
theorem read?_eq_some_iff (hne : on ≠ off) (hon : on ≠ '\n') (hoff : off ≠ '\n') {p : Picture}
    (hp : p ≠ []) (s : String) :
    read? on off s = some p ↔ s = render (String.singleton on) (String.singleton off) p := by
  have hlines := mapM_eq_some_iff_map (mapM_eq_some_iff_map (pixel?_eq_some_iff hne))
  rw [read?, lines_eq_splitOn, hlines]
  constructor
  · intro h
    rw [← String.toList_inj, toList_render, ← h, List.intercalate_splitOn]
  · rintro rfl
    exact splitOn_render hon hoff hp

/-- The pixel in column `x` of row `y`, dark where there is none. -/
def pixel (p : Picture) (x y : Nat) : Bool := (p[y]?.getD [])[x]?.getD false

end Picture

namespace Display

/-! ### The rows of a display -/

/-- The rows of a display: 32 of them, and 64 pixels in each. -/
abbrev HasShape (p : Picture) : Prop := p.length = 32 ∧ ∀ row ∈ p, row.length = 64

/-- The display with the given pixels. -/
def ofRows (p : Picture) : Display where
  rows := Vector.ofFn fun y =>
    (BitVec.ofBoolListBE ((List.range 64).map fun x => p.pixel x y)).cast (by simp)

/-- The display with the given rows, if they are the rows of a display. -/
def ofRows? (p : Picture) : Option Display := if HasShape p then some (ofRows p) else none

/-- The display that a text shows, if it shows one. -/
def read? (on off : Char) (s : String) : Option Display := (Picture.read? on off s).bind ofRows?

theorem hasShape_toRows (d : Display) : HasShape d.toRows := by
  refine ⟨by rw [toRows, List.length_map, List.length_range], fun row hrow => ?_⟩
  obtain ⟨y, -, rfl⟩ := List.mem_map.1 hrow
  rw [List.length_map, List.length_range]

theorem pixel_toRows (d : Display) {x y : Nat} (hx : x < 64) (hy : y < 32) :
    Picture.pixel d.toRows x y = d.pixel x y := by
  simp [Picture.pixel, toRows, hx, hy]

theorem pixel_ofRows (p : Picture) {x y : Nat} (hx : x < 64) (hy : y < 32) :
    (ofRows p).pixel x y = p.pixel x y := by
  simp [pixel, ofRows, hx, hy]

theorem ofRows_toRows (d : Display) : ofRows d.toRows = d :=
  ext_pixel fun x y hx hy => by rw [pixel_ofRows _ hx hy, pixel_toRows d hx hy]

/-- Rows of the right shape are the rows of a display. -/
theorem toRows_ofRows {p : Picture} (h : HasShape p) : (ofRows p).toRows = p := by
  have hshape := (ofRows p).hasShape_toRows
  refine List.ext_getElem (by rw [hshape.1, h.1]) fun y hy hy' => ?_
  have hrow := h.2 _ (List.getElem_mem hy')
  refine List.ext_getElem (by rw [hshape.2 _ (List.getElem_mem hy), hrow]) fun x hx hx' => ?_
  have hpixel : p.pixel x y = p[y][x] := by simp [Picture.pixel, hy', hx']
  rw [← hpixel, ← pixel_ofRows p (hrow ▸ hx') (h.1 ▸ hy')]
  simp [toRows]

theorem ofRows?_eq_some_iff {p : Picture} {d : Display} : ofRows? p = some d ↔ p = d.toRows := by
  rw [ofRows?]
  by_cases hshape : HasShape p
  · rw [if_pos hshape, Option.some_inj]
    constructor
    · intro h
      rw [← h, toRows_ofRows hshape]
    · intro h
      rw [h, ofRows_toRows]
  · rw [if_neg hshape]
    refine iff_of_false (Option.some_ne_none d).symm fun h => hshape ?_
    rw [h]
    exact d.hasShape_toRows

/-- The texts that show a display are the one that it is set as. -/
theorem read?_eq_some_iff {on off : Char} (hne : on ≠ off) (hon : on ≠ '\n') (hoff : off ≠ '\n')
    (d : Display) (s : String) :
    read? on off s = some d
      ↔ s = Picture.render (String.singleton on) (String.singleton off) d.toRows := by
  have hrows : d.toRows ≠ [] := List.ne_nil_of_length_pos (by rw [d.hasShape_toRows.1]; decide)
  rw [← Picture.read?_eq_some_iff hne hon hoff hrows, read?, Option.bind_eq_some_iff]
  constructor
  · rintro ⟨p, hp, hd⟩
    rw [hp, ofRows?_eq_some_iff.1 hd]
  · intro h
    exact ⟨d.toRows, h, ofRows?_eq_some_iff.2 rfl⟩

/-- Take two different characters other than the line feed as the marks
for lit and dark pixels. The picture of a display then has 32 lines of 64
characters. The character in column `x` of line `y` is the mark for lit
pixels just if this pixel is lit, and the mark for dark ones just if it is
dark. Reading a text gives the display just if the text is its picture, so
the display can be read back, and displays with the same picture are the
same. -/
theorem render_readBack (on off : Char) (hne : on ≠ off) (hon : on ≠ '\n') (hoff : off ≠ '\n')
    (d : Display) :
    let text := fun e : Display =>
      Picture.render (String.singleton on) (String.singleton off) e.toRows
    let lines := (text d).toList.splitOn '\n'
    lines.length = 32 ∧ (∀ line ∈ lines, line.length = 64) ∧
      (∀ x y, x < 64 → y < 32 → ∃ cs c, lines[y]? = some cs ∧ cs[x]? = some c ∧
        (c = on ↔ d.pixel x y = true) ∧ (c = off ↔ d.pixel x y = false)) ∧
      (∀ s, read? on off s = some d ↔ s = text d) ∧
      ∀ e, text d = text e ↔ d = e := by
  intro text lines
  have hread := read?_eq_some_iff hne hon hoff
  have hshape := d.hasShape_toRows
  have hrows : d.toRows ≠ [] := List.ne_nil_of_length_pos (by rw [hshape.1]; decide)
  have hlines : lines = d.toRows.map (List.map (Picture.mark on off)) :=
    Picture.splitOn_render hon hoff hrows
  refine ⟨?_, ?_, ?_, hread d, ?_⟩
  · rw [hlines, List.length_map, hshape.1]
  · intro line hline
    rw [hlines] at hline
    obtain ⟨row, hrow, rfl⟩ := List.mem_map.1 hline
    rw [List.length_map, hshape.2 row hrow]
  · intro x y hx hy
    refine ⟨(List.range 64).map fun x => Picture.mark on off (d.pixel x y),
      Picture.mark on off (d.pixel x y), ?_, ?_, Picture.mark_eq_iff hne _⟩
    · simp [hlines, toRows, hy]
    · simp [hx]
  · intro e
    constructor
    · intro htext
      have hd : read? on off (text d) = some d := (hread d _).2 rfl
      have he : read? on off (text d) = some e := (hread e _).2 htext
      exact Option.some.inj (hd.symm.trans he)
    · rintro rfl
      rfl

/-- One pixel is lit, the second one of the first row. -/
theorem render_readBack_pixel :
    let d := ofSprite 1 0 [0x80]
    let text := Picture.render (String.singleton '#') (String.singleton '.') d.toRows
    '#' ≠ '.' ∧ '#' ≠ '\n' ∧ '.' ≠ '\n' ∧ read? '#' '.' text = some d ∧
      ∃ cs, (text.toList.splitOn '\n')[0]? = some cs ∧ cs[1]? = some '#' := by
  intro d text
  obtain ⟨-, -, hpixels, hread, -⟩ :=
    render_readBack '#' '.' (by decide) (by decide) (by decide) d
  obtain ⟨cs, c, hcs, hc, hlit, -⟩ := hpixels 1 0 (by decide) (by decide)
  have hpixel : d.pixel 1 0 = true := by decide +kernel
  refine ⟨by decide, by decide, by decide, (hread text).2 rfl, cs, hcs, ?_⟩
  rw [hc, hlit.2 hpixel]

end Display

end Chip8
