/-!
# `Chip8.Word`: instruction words and their fields

An instruction is one 16-bit word. Its four nibbles are, from the top,
the `group`, the register numbers `x` and `y`, and the small operand
`n`; the low byte is `kk`, the low twelve bits are `nnn`.

* `Word.ofInt` reduces any integer to a word, two's complement.
* `Word.ofInt?` accepts only the integers that are words already.
* `Word.ofBytes` joins two bytes, the first one on top.
-/

set_option autoImplicit false

namespace Chip8

/-- An instruction word. -/
abbrev Word := UInt16

/-- A memory address that a word can name: twelve bits. -/
abbrev Address := Fin 4096

/-- The word that holds an address. -/
def Address.toWord (a : Address) : Word := UInt16.ofNat a.val

theorem Address.toNat_toWord (a : Address) : a.toWord.toNat = a.val := by
  have := a.isLt
  rw [toWord, UInt16.toNat_ofNat']
  omega

namespace Word

/-- The low sixteen bits of an integer, negative ones in two's
complement. -/
def ofInt (w : Int) : Word := UInt16.ofNat (w % 65536).toNat

/-- The word with the value `w`, for `w` in `0 .. 65535`. -/
def ofInt? (w : Int) : Option Word :=
  if 0 ≤ w ∧ w < 65536 then some (ofInt w) else none

/-- Two bytes as one word, `high` on top. -/
def ofBytes (high low : UInt8) : Word := UInt16.ofNat (256 * high.toNat + low.toNat)

/-- The top nibble, which selects the group of instructions. -/
def group (w : Word) : Fin 16 := ⟨w.toNat / 4096, by have := w.toNat_lt; omega⟩

/-- The second nibble, the number of the register `VX`. -/
def x (w : Word) : Fin 16 := ⟨w.toNat / 256 % 16, by omega⟩

/-- The third nibble, the number of the register `VY`. -/
def y (w : Word) : Fin 16 := ⟨w.toNat / 16 % 16, by omega⟩

/-- The lowest nibble. -/
def n (w : Word) : Fin 16 := ⟨w.toNat % 16, by omega⟩

/-- The low byte. -/
def kk (w : Word) : UInt8 := UInt8.ofNat (w.toNat % 256)

/-- The low twelve bits. -/
def nnn (w : Word) : Address := ⟨w.toNat % 4096, by omega⟩

@[simp] theorem toNat_ofBytes (high low : UInt8) :
    (ofBytes high low).toNat = 256 * high.toNat + low.toNat := by
  have := high.toNat_lt
  have := low.toNat_lt
  simp only [ofBytes, UInt16.toNat_ofNat']
  omega

@[simp] theorem toNat_kk (w : Word) : (kk w).toNat = w.toNat % 256 := by
  simp only [kk, UInt8.toNat_ofNat']
  omega

@[simp] theorem toNat_ofInt (w : Int) : ((ofInt w).toNat : Int) = w % 65536 := by
  simp only [ofInt, UInt16.toNat_ofNat']
  omega

theorem ofInt_toNat (w : Word) : ofInt w.toNat = w := by
  refine UInt16.toNat_inj.1 ?_
  have := w.toNat_lt
  have := toNat_ofInt w.toNat
  omega

theorem ofInt_eq_ofInt_iff {v w : Int} : ofInt v = ofInt w ↔ v % 65536 = w % 65536 := by
  rw [← UInt16.toNat_inj, ← toNat_ofInt v, ← toNat_ofInt w, Int.natCast_inj]

/-- The nibbles and the fields that overlap them agree. -/
theorem toNat_eq_group_nnn (w : Word) : w.toNat = 4096 * (group w).val + (nnn w).val := by
  simp only [group, nnn]
  omega

theorem nnn_eq_x_kk (w : Word) : (nnn w).val = 256 * (x w).val + (kk w).toNat := by
  simp only [nnn, x, toNat_kk]
  omega

theorem kk_eq_y_n (w : Word) : (kk w).toNat = 16 * (y w).val + (n w).val := by
  simp only [toNat_kk, y, n]
  omega

end Word

end Chip8
