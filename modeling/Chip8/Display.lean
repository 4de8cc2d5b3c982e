/-!
# `Chip8.Display`: the screen of 64 by 32 pixels

A display is kept as 32 rows of 64 bits, the topmost bit of a row being
its leftmost pixel, and is observed through `Display.pixel`. Displays
are combined pixel by pixel: a sprite is itself a display, lit where
the sprite is, and drawing is the exclusive or of the two.

* `pixel_ofSprite` gives the pixels of a sprite. The sprite is clipped
  at the right and bottom edges, nothing wraps.
* `pixel_xor` gives the pixels after drawing. Drawings may change places
  (`xor_right_comm`), and what is drawn twice is gone (`xor_xor_self`).
* `overlaps_iff` says when two displays have a lit pixel in common.
-/

set_option autoImplicit false

namespace Chip8

/-- The screen: 32 rows of 64 pixels. -/
structure Display where
  /-- The rows from top to bottom, leftmost pixel in the topmost bit. -/
  rows : Vector (BitVec 64) 32
deriving DecidableEq

namespace Display

/-- The number of columns. -/
def width : Nat := 64

/-- The number of rows. -/
def height : Nat := 32

/-- Whether the pixel in column `x` of row `y` is lit; outside the
screen nothing is. -/
def pixel (d : Display) (x y : Nat) : Bool := if h : y < 32 then d.rows[y].getMsbD x else false

/-- The dark screen. -/
def blank : Display := ⟨Vector.replicate 32 0⟩

/-- The display that is lit where exactly one of the two is. -/
def xor (d e : Display) : Display := ⟨Vector.ofFn fun y => d.rows[y] ^^^ e.rows[y]⟩

/-- Whether some pixel is lit in both displays. -/
def overlaps (d e : Display) : Bool :=
  (List.finRange 32).any fun y => d.rows[y] &&& e.rows[y] != 0

/-- The eight pixels of a sprite row, its leftmost pixel in column
`ox`. -/
def spriteRow (ox : Nat) (b : UInt8) : BitVec 64 := (b.toBitVec.setWidth 64 <<< 56) >>> ox

/-- The sprite with the given rows, its top left corner in column `ox`
of row `oy`. -/
def ofSprite (ox oy : Nat) (sprite : List UInt8) : Display :=
  ⟨Vector.ofFn fun y => if oy ≤ y then spriteRow ox (sprite[y - oy]?.getD 0) else 0⟩

/-- The rows of pixels, top to bottom, each from left to right. -/
def toRows (d : Display) : List (List Bool) :=
  (List.range 32).map fun y => (List.range 64).map fun x => d.pixel x y

variable {d e : Display} {x y : Nat}

theorem pixel_of_le (h : 64 ≤ x ∨ 32 ≤ y) : d.pixel x y = false := by
  simp only [pixel]
  split
  · exact BitVec.getMsbD_of_ge _ _ (by omega)
  · rfl

theorem ext_pixel (h : ∀ x y, x < 64 → y < 32 → d.pixel x y = e.pixel x y) : d = e := by
  obtain ⟨r⟩ := d
  obtain ⟨s⟩ := e
  congr 1
  ext1 y hy
  refine BitVec.eq_of_getMsbD_eq fun x hx => ?_
  simpa [pixel, hy] using h x y hx hy

@[simp] theorem pixel_blank : blank.pixel x y = false := by
  simp [pixel, blank]

@[simp] theorem pixel_xor : (d.xor e).pixel x y = (d.pixel x y ^^ e.pixel x y) := by
  simp only [pixel, xor]
  split <;> simp

/-- The order of two drawings does not matter. -/
theorem xor_right_comm (d e f : Display) : (d.xor e).xor f = (d.xor f).xor e := by
  refine ext_pixel fun x y _ _ => ?_
  rw [pixel_xor, pixel_xor, pixel_xor, pixel_xor, Bool.xor_right_comm]

/-- What is drawn twice is gone. -/
@[simp] theorem xor_xor_self (d e : Display) : (d.xor e).xor e = d := by
  refine ext_pixel fun x y _ _ => ?_
  rw [pixel_xor, pixel_xor, Bool.xor_assoc, Bool.xor_self, Bool.xor_false]

theorem overlaps_iff : d.overlaps e = true ↔ ∃ x y, d.pixel x y = true ∧ e.pixel x y = true := by
  simp only [overlaps, List.any_eq_true, List.mem_finRange, true_and, bne_iff_ne, pixel]
  constructor
  · rintro ⟨y, hne⟩
    obtain ⟨x, hx, hbit⟩ : ∃ x, ∃ _ : x < 64, (d.rows[y] &&& e.rows[y]).getMsbD x = true := by
      refine Classical.byContradiction fun hno => hne (BitVec.eq_of_getMsbD_eq fun i hi => ?_)
      simp only [BitVec.ofNat_eq_ofNat, BitVec.getMsbD_zero]
      exact Bool.eq_false_iff.mpr fun ht => hno ⟨i, hi, ht⟩
    simp only [Fin.getElem_fin, BitVec.getMsbD_and, Bool.and_eq_true] at hbit
    exact ⟨x, y, by simpa [y.isLt] using hbit.1, by simpa [y.isLt] using hbit.2⟩
  · rintro ⟨x, y, hd, he⟩
    by_cases hy : y < 32
    · simp only [hy, dite_true] at hd he
      refine ⟨⟨y, hy⟩, fun hzero => ?_⟩
      have := congrArg (·.getMsbD x) hzero
      simp [hd, he] at this
    · simp [hy] at hd

theorem getMsbD_spriteRow {ox : Nat} {b : UInt8} (hx : x < 64) :
    (spriteRow ox b).getMsbD x
      = (decide (ox ≤ x ∧ x < ox + 8) && b.toNat.testBit (7 - (x - ox))) := by
  simp only [spriteRow, BitVec.getMsbD_ushiftRight, BitVec.getMsbD_shiftLeft,
    BitVec.getMsbD_setWidth, hx, decide_true, Bool.true_and]
  by_cases hox : ox ≤ x
  · by_cases hx8 : x < ox + 8
    · have h : x - ox < 8 := by omega
      simp [hox, hx8, h, BitVec.getMsbD, BitVec.getLsbD, Nat.not_lt.mpr hox]
    · have h := BitVec.getMsbD_of_ge b.toBitVec (x - ox) (by omega)
      simp [hox, hx8, h]
  · simp [hox]

/-- A sprite is lit at the set bits of its rows, as far as it lies on
the screen. -/
theorem pixel_ofSprite {ox oy : Nat} {sprite : List UInt8} (hx : x < 64) (hy : y < 32) :
    (ofSprite ox oy sprite).pixel x y
      = (decide (ox ≤ x ∧ x < ox + 8 ∧ oy ≤ y)
        && (sprite[y - oy]?.getD 0).toNat.testBit (7 - (x - ox))) := by
  simp only [pixel, ofSprite, hy, dite_true, Vector.getElem_ofFn]
  by_cases hoy : oy ≤ y
  · simp [hoy, getMsbD_spriteRow hx]
  · simp [hoy]

end Display

end Chip8
