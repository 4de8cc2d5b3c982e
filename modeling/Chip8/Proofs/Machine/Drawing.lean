import Chip8.Proofs.Machine.Decode
import Chip8.Proofs.Machine.Within

/-!
# `Chip8.Proofs.Machine.Drawing`: a sprite is drawn bit by bit

The machine draws a sprite in one go, as the exclusive or of two displays.
The plain way to draw it is a loop over the rows of the sprite and the
bits of each row, which flips one pixel for each set bit and notes whether
the pixel was lit before (`Canvas.plot`). A bit that falls off the screen
is passed over.

The loop visits each pixel once at most. So what it finds at a pixel is
what was there at the start, and this is why the note is the same.
`Canvas.Plotted` says of two canvases that the one is the other with some
pixels flipped, each of them once. `plotted_flip` is the step of the loop,
and `Plotted.append` puts two parts of the loop together that share no
pixel. From these follow a row (`plotted_row`) and a sprite
(`plotted_sprite`), by induction on the bits and on the rows.

The main statement is `execute_draw_plot`. It gives the pixels one by one
as well, for every place on the screen and every height that memory has
the bytes for.
-/

set_option autoImplicit false

namespace Chip8

/-! ### The plain loop -/

/-- A picture that is drawn on pixel by pixel, with a note of whether a
lit pixel has been erased so far. -/
structure Canvas where
  /-- Whether the pixel in a column of a row is lit. -/
  lit : Nat → Nat → Bool
  /-- Whether a lit pixel has been erased. -/
  erased : Bool

namespace Canvas

/-- Flips the pixel in column `x` of row `y`. Outside the screen there is
nothing to flip. -/
def flip (c : Canvas) (x y : Nat) : Canvas :=
  if x < Display.width ∧ y < Display.height then
    { lit := fun i j => if i = x ∧ j = y then !c.lit i j else c.lit i j
      erased := c.erased || c.lit x y }
  else c

/-- Draws the leftmost `bits` bits of a row of a sprite, the first one in
column `ox`. -/
def plotRow (c : Canvas) (ox y : Nat) (row : UInt8) (bits : Nat) : Canvas :=
  (List.range bits).foldl
    (fun c k => if row.toNat.testBit (7 - k) then c.flip (ox + k) y else c) c

/-- Draws a sprite of `height` rows with its top left corner in column
`ox` of row `oy`. -/
def plot (c : Canvas) (ox oy height : Nat) (row : Nat → UInt8) : Canvas :=
  (List.range height).foldl (fun c r => c.plotRow ox (oy + r) (row r) 8) c

/-- The canvas `c'` is `c` with the pixels of `marks` flipped, and a pixel
has been erased if one of them was lit. -/
structure Plotted (c : Canvas) (marks : Nat → Nat → Bool) (c' : Canvas) : Prop where
  lit : ∀ x y, c'.lit x y = (c.lit x y ^^ marks x y)
  erased : c'.erased = true ↔ c.erased = true ∨ ∃ x y, marks x y = true ∧ c.lit x y = true

variable {c c' c'' : Canvas} {m m' m'' : Nat → Nat → Bool}

theorem plotted_none (hm : ∀ x y, m x y = false) : Plotted c m c where
  lit x y := by simp [hm]
  erased := by simp [hm]

/-- Flipping one pixel of the screen. -/
theorem plotted_flip (c : Canvas) (x y : Nat) :
    Plotted c (fun i j => decide (i < 64 ∧ j < 32 ∧ i = x ∧ j = y)) (c.flip x y) := by
  by_cases hin : x < Display.width ∧ y < Display.height
  · have hx : x < 64 := hin.1
    have hy : y < 32 := hin.2
    rw [flip, if_pos hin]
    refine ⟨fun i j => ?_, ?_⟩
    · by_cases hij : i = x ∧ j = y
      · simp [hij, hx, hy]
      · simp [hij]
    · simp only [Bool.or_eq_true, decide_eq_true_eq]
      refine or_congr_right ⟨fun hlit => ⟨x, y, ⟨hx, hy, rfl, rfl⟩, hlit⟩, ?_⟩
      rintro ⟨_, _, ⟨-, -, rfl, rfl⟩, hlit⟩
      exact hlit
  · rw [flip, if_neg hin]
    refine plotted_none fun i j => ?_
    have hout : ¬ (x < 64 ∧ y < 32) := hin
    simp only [decide_eq_false_iff_not]
    omega

/-- Two parts of a drawing that share no pixel. The second part finds its
pixels as they were at the start. -/
theorem Plotted.append (h : Plotted c m c') (h' : Plotted c' m' c'')
    (hdisjoint : ∀ x y, m x y = true → m' x y = false)
    (hm : ∀ x y, m'' x y = (m x y || m' x y)) : Plotted c m'' c'' where
  lit x y := by
    have hdis := hdisjoint x y
    rw [h'.lit, h.lit, hm]
    cases hx : m x y with
    | false => simp
    | true => simp [hdis hx]
  erased := by
    have hfound : (∃ x y, m' x y = true ∧ c'.lit x y = true)
        ↔ ∃ x y, m' x y = true ∧ c.lit x y = true := by
      refine exists_congr fun x => exists_congr fun y => and_congr_right fun hx' => ?_
      have hx : m x y = false := by
        rw [← Bool.not_eq_true]
        intro hx
        rw [hdisjoint x y hx] at hx'
        cases hx'
      rw [h.lit, hx, Bool.xor_false]
    rw [h'.erased, h.erased, hfound]
    simp only [hm, Bool.or_eq_true, or_and_right, exists_or, or_assoc]

/-- The canvas that is left is determined by the marks. -/
theorem Plotted.unique (h : Plotted c m c') (h' : Plotted c m c'') : c' = c'' := by
  obtain ⟨lit, erased⟩ := c'
  obtain ⟨lit', erased'⟩ := c''
  have hlit : lit = lit' := by
    funext x y
    exact (h.lit x y).trans (h'.lit x y).symm
  have herased : erased = erased' := Bool.eq_iff_iff.2 (h.erased.trans h'.erased.symm)
  rw [hlit, herased]

/-- The pixels of the screen at the set bits among the first `bits` of a
row. -/
def rowMarks (ox y : Nat) (row : UInt8) (bits i j : Nat) : Bool :=
  decide (i < 64 ∧ j < 32 ∧ j = y ∧ ox ≤ i ∧ i < ox + bits) && row.toNat.testBit (7 - (i - ox))

/-- The pixels of the screen at the set bits of a sprite. -/
def spriteMarks (ox oy height : Nat) (row : Nat → UInt8) (i j : Nat) : Bool :=
  decide (i < 64 ∧ j < 32 ∧ ox ≤ i ∧ i < ox + 8 ∧ oy ≤ j ∧ j < oy + height) &&
    (row (j - oy)).toNat.testBit (7 - (i - ox))

/-- A row is drawn with one flip for each set bit. -/
theorem plotted_row (c : Canvas) (ox y : Nat) (row : UInt8) (bits : Nat) :
    Plotted c (rowMarks ox y row bits) (c.plotRow ox y row bits) := by
  -- The induction is on the bits; each bit is in a column of its own.
  induction bits with
  | zero =>
    refine plotted_none fun i j => ?_
    simp only [rowMarks, Bool.and_eq_false_imp, decide_eq_true_eq]
    omega
  | succ k ih =>
    rw [plotRow, List.range_succ, List.foldl_append]
    show Plotted c _ (if row.toNat.testBit (7 - k) then (c.plotRow ox y row k).flip (ox + k) y
      else c.plotRow ox y row k)
    cases hbit : row.toNat.testBit (7 - k) with
    | true =>
      refine ih.append (plotted_flip _ (ox + k) y) (fun i j hij => ?_) fun i j => ?_
      · simp only [rowMarks, Bool.and_eq_true, decide_eq_true_eq] at hij
        simp only [decide_eq_false_iff_not]
        omega
      · grind [rowMarks]
    | false =>
      refine ih.append (plotted_none (m := fun _ _ => false) fun _ _ => rfl) (fun _ _ _ => rfl)
        fun i j => ?_
      grind [rowMarks]

/-- A sprite is drawn row by row. -/
theorem plotted_sprite (c : Canvas) (ox oy height : Nat) (row : Nat → UInt8) :
    Plotted c (spriteMarks ox oy height row) (c.plot ox oy height row) := by
  induction height with
  | zero =>
    refine plotted_none fun i j => ?_
    simp only [spriteMarks, Bool.and_eq_false_imp, decide_eq_true_eq]
    omega
  | succ r ih =>
    rw [plot, List.range_succ, List.foldl_append]
    refine ih.append (plotted_row _ ox (oy + r) (row r) 8) (fun i j hij => ?_) fun i j => ?_
    · simp only [spriteMarks, Bool.and_eq_true, decide_eq_true_eq] at hij
      simp only [rowMarks, Bool.and_eq_false_imp, decide_eq_true_eq]
      omega
    · grind [rowMarks, spriteMarks]

/-- A pixel of the screen after a sprite has been drawn. -/
theorem xor_spriteMarks {ox oy height i j : Nat} {row : Nat → UInt8} (b : Bool) (hi : i < 64)
    (hj : j < 32) : (b ^^ spriteMarks ox oy height row i j)
      = if ox ≤ i ∧ i < ox + 8 ∧ oy ≤ j ∧ j < oy + height then
          b ^^ (row (j - oy)).toNat.testBit (7 - (i - ox))
        else b := by
  simp only [spriteMarks, hi, hj, true_and]
  split <;> simp [*]

/-- The set bits of a sprite as they come out when the whole screen is
looked up at once. Every pixel reads a byte, also one outside the sprite,
with its offsets clipped to what a sprite may have, and what is read
outside is masked. -/
def gatherMarks (ox oy height : Nat) (fetch : Nat → UInt8) (i j : Nat) : Bool :=
  decide (ox ≤ i ∧ i < ox + 8 ∧ oy ≤ j ∧ j < oy + height) &&
    (fetch (min (j - oy) 15)).toNat.testBit (7 - min (i - ox) 7)

/-- The bytes behind the sprite do not matter to the whole screen. -/
theorem gatherMarks_eq {ox oy height i j : Nat} {row fetch : Nat → UInt8} (hheight : height ≤ 16)
    (hrow : ∀ r < height, fetch r = row r) (hi : i < 64) (hj : j < 32) :
    gatherMarks ox oy height fetch i j = spriteMarks ox oy height row i j := by
  simp only [gatherMarks, spriteMarks, hi, hj, true_and]
  by_cases hin : ox ≤ i ∧ i < ox + 8 ∧ oy ≤ j ∧ j < oy + height
  · have hr : min (j - oy) 15 = j - oy := by omega
    have hk : min (i - ox) 7 = i - ox := by omega
    rw [hr, hk, hrow _ (by omega)]
  · simp [hin]

end Canvas

/-! ### The instruction -/

namespace Display

variable {d e : Display} {x y : Nat}

theorem lt_of_pixel (h : d.pixel x y = true) : x < 64 ∧ y < 32 := by
  refine Classical.byContradiction fun hout => ?_
  rw [pixel_of_le (by omega)] at h
  cases h

/-- Two displays overlap where a pixel of the one is erased by the
other. -/
theorem overlaps_iff_erased : d.overlaps e = true ↔
    ∃ x y, x < 64 ∧ y < 32 ∧ d.pixel x y = true ∧ (d.xor e).pixel x y = false := by
  rw [overlaps_iff]
  refine exists_congr fun x => exists_congr fun y => ?_
  rw [pixel_xor]
  constructor
  · intro h
    obtain ⟨hx, hy⟩ := lt_of_pixel h.1
    simp [h, hx, hy]
  · intro ⟨_, _, hlit, hxor⟩
    simpa [hlit] using hxor

end Display

theorem Memory.getD_readBlock (m : Memory) (a length k : Nat) :
    (m.readBlock a length)[k]?.getD 0 = if k < length then m.read (a + k) else 0 := by
  rw [readBlock, List.getElem?_map]
  by_cases hk : k < length <;> simp [hk]

/-- The pixels of a sprite that lies in memory. -/
theorem Memory.pixel_ofSprite_readBlock (m : Memory) (a ox oy height i j : Nat) :
    (Display.ofSprite ox oy (m.readBlock a height)).pixel i j
      = Canvas.spriteMarks ox oy height (fun r => m.read (a + r)) i j := by
  by_cases hon : i < 64 ∧ j < 32
  · rw [Display.pixel_ofSprite hon.1 hon.2, getD_readBlock, Canvas.spriteMarks]
    by_cases hj : j - oy < height
    · rw [if_pos hj]
      congr 1
      simp only [decide_eq_decide]
      omega
    · have hout : ¬ (i < 64 ∧ j < 32 ∧ ox ≤ i ∧ i < ox + 8 ∧ oy ≤ j ∧ j < oy + height) := by
        omega
      simp [hj, hout]
  · rw [Display.pixel_of_le (by omega), eq_comm, Canvas.spriteMarks, Bool.and_eq_false_imp,
      decide_eq_true_eq]
    omega

theorem bit_eq_one_iff {b : Bool} : bit b = 1 ↔ b = true := by
  cases b <;> decide

theorem bit_eq_zero_iff {b : Bool} : bit b = 0 ↔ b = false := by
  cases b <;> decide

namespace Machine

/-- Drawing succeeds if the sprite lies in memory. It touches the display,
the flag register and the frame flag. -/
theorem execute_draw {s : Machine} {x y height : Fin 16} (hin : s.index.toNat + height ≤ 4096) :
    s.execute (.draw x y height) = .ok { s with
      display := s.display.xor (s.sprite x y height)
      registers := s.registers.set Registers.flag (bit (s.display.overlaps (s.sprite x y height)))
      frameReady := true } := by
  have haccess : s.checkAccess height = .ok () := if_pos hin
  rw [execute, perform, haccess]
  rfl

/-- The pixels of the sprite that is drawn are those that the plain loop
flips. -/
theorem pixel_sprite (s : Machine) (x y height : Fin 16) (i j : Nat) :
    (s.sprite x y height).pixel i j
      = Canvas.spriteMarks ((s.registers.get x).toNat % 64) ((s.registers.get y).toNat % 32) height
          (fun r => s.memory.read (s.index.toNat + r)) i j :=
  Memory.pixel_ofSprite_readBlock ..

/-- The plain loop ends with the display and the flag that the instruction
leaves. -/
theorem plot_eq (s : Machine) (x y height : Fin 16) :
    Canvas.plot ⟨s.display.pixel, false⟩ ((s.registers.get x).toNat % 64)
        ((s.registers.get y).toNat % 32) height (fun r => s.memory.read (s.index.toNat + r))
      = ⟨(s.display.xor (s.sprite x y height)).pixel,
          s.display.overlaps (s.sprite x y height)⟩ := by
  refine (Canvas.plotted_sprite _ _ _ _ _).unique ⟨fun i j => ?_, ?_⟩
  · show (s.display.xor _).pixel i j = (s.display.pixel i j ^^ _)
    rw [Display.pixel_xor, pixel_sprite]
  · simp only [Display.overlaps_iff, pixel_sprite, Bool.false_eq_true, false_or]
    exact exists_congr fun i => exists_congr fun j => and_comm

/-- Drawing a sprite that lies in memory flips the pixels of its set bits,
one after the other, and the flag says whether a lit pixel was erased. The
corner is read from the registers before the flag is written, also if one
of them is the flag register. A pixel of the screen inside the sprite is
flipped if its bit is set, and every other pixel stays: nothing comes back
at the opposite edge. Apart from the flag register and the frame flag
nothing else changes.

A look-up of the whole screen at once comes to the same, whatever it finds
behind the end of memory. -/
theorem execute_draw_plot (s : Machine) (x y height : Fin 16)
    (hin : s.index.toNat + height ≤ 4096) :
    let ox := (s.registers.get x).toNat % 64
    let oy := (s.registers.get y).toNat % 32
    let drawn := Canvas.plot ⟨s.display.pixel, false⟩ ox oy height
      fun r => s.memory.read (s.index.toNat + r)
    ∃ t, s.execute (.decode (.ofNibbles 0xD x y height)) = .ok t ∧
      (t.display.pixel = drawn.lit ∧ t.registers.get Registers.flag = bit drawn.erased) ∧
      (∀ px py, px < 64 → py < 32 → t.display.pixel px py =
        if ox ≤ px ∧ px < ox + 8 ∧ oy ≤ py ∧ py < oy + height then
          s.display.pixel px py ^^
            (s.memory.read (s.index.toNat + (py - oy))).toNat.testBit (7 - (px - ox))
        else s.display.pixel px py) ∧
      (t.registers.get Registers.flag = 1 ↔ ∃ px py, px < 64 ∧ py < 32 ∧
        s.display.pixel px py = true ∧ t.display.pixel px py = false) ∧
      (t.registers.get Registers.flag = 0 ↔ ¬ ∃ px py, px < 64 ∧ py < 32 ∧
        s.display.pixel px py = true ∧ t.display.pixel px py = false) ∧
      (∀ v, v ≠ Registers.flag → t.registers.get v = s.registers.get v) ∧
      t = { s with display := t.display, registers := t.registers, frameReady := true } ∧
      ∀ fetch : Nat → UInt8, (∀ a < 4096, fetch a = s.memory.read a) →
        ∀ px py, px < 64 → py < 32 → t.display.pixel px py =
          (s.display.pixel px py ^^
            Canvas.gatherMarks ox oy height (fun r => fetch (s.index.toNat + r)) px py) := by
  intro ox oy drawn
  have hdrawn : drawn = _ := plot_eq s x y height
  have hflag : ∀ b, (s.registers.set Registers.flag b).get Registers.flag = b :=
    fun b => Registers.get_set.trans (if_pos rfl)
  rw [Instruction.decode_draw, execute_draw hin]
  refine ⟨_, rfl, ⟨?_, ?_⟩, fun px py hx hy => ?_, ?_, ?_, fun v hv => ?_, rfl,
    fun fetch hfetch px py hx hy => ?_⟩
  · rw [hdrawn]
  · rw [hdrawn, hflag]
  · rw [Display.pixel_xor, pixel_sprite, Canvas.xor_spriteMarks _ hx hy]
  · rw [hflag, bit_eq_one_iff, Display.overlaps_iff_erased]
  · rw [hflag, bit_eq_zero_iff, ← Display.overlaps_iff_erased, Bool.not_eq_true]
  · exact Registers.get_set_of_ne (beq_eq_false_iff_ne.2 hv)
  · have hgather : Canvas.gatherMarks ox oy height (fun r => fetch (s.index.toNat + r)) px py
        = Canvas.spriteMarks ox oy height (fun r => s.memory.read (s.index.toNat + r)) px py :=
      Canvas.gatherMarks_eq (Nat.le_of_lt height.isLt) (fun r hr => hfetch _ (by omega)) hx hy
    rw [hgather, Display.pixel_xor, pixel_sprite]

/-- A sprite in the last two bytes of memory is drawn at the right edge,
with its column in the flag register. The pixel that was lit there is
erased, the one beside it is lit, and the left edge stays dark. -/
theorem execute_draw_plot_edge :
    let s : Machine := { boot ⟨0, 0⟩ with
      memory := Memory.zero.writeBlock 0xFFE [0xFF, 0x81]
      registers := Registers.zero.set Registers.flag 0xFE
      index := 0xFFE
      display := .ofSprite 62 0 [0x80] }
    s.index.toNat + 15 ≥ 4096 ∧
    ∃ t, s.execute (.decode (.ofNibbles 0xD 0xF 0x0 2)) = .ok t ∧
      t.display.pixel 62 0 = false ∧ t.display.pixel 63 0 = true ∧ t.display.pixel 62 1 = true ∧
      t.display.pixel 0 0 = false ∧ t.registers.get Registers.flag = 1 := by
  intro s
  obtain ⟨t, ht, -, hpixel, hflag, -⟩ := execute_draw_plot s 0xF 0x0 2 (by decide)
  have herased : t.display.pixel 62 0 = false :=
    (hpixel 62 0 (by decide) (by decide)).trans (by decide +kernel)
  refine ⟨by decide, t, ht, herased, ?_, ?_, ?_, hflag.2 ⟨62, 0, ?_⟩⟩
  · exact (hpixel 63 0 (by decide) (by decide)).trans (by decide +kernel)
  · exact (hpixel 62 1 (by decide) (by decide)).trans (by decide +kernel)
  · exact (hpixel 0 0 (by decide) (by decide)).trans (by decide +kernel)
  · exact ⟨by decide, by decide, by decide +kernel, herased⟩

end Machine

end Chip8
