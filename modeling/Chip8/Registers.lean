/-!
# `Chip8.Registers`: the sixteen general registers

`Registers` is observed through `Registers.get`. The last register,
`Registers.flag`, doubles as the flag of arithmetic and drawing.
-/

set_option autoImplicit false

namespace Chip8

/-- The general registers `V0` to `VF`. -/
structure Registers where
  /-- The byte in each register. -/
  cells : Vector UInt8 16
deriving DecidableEq

namespace Registers

/-- The register that receives carries, borrows and collisions. -/
def flag : Fin 16 := 15

/-- The register that a jump with an offset adds to its target. -/
def offset : Fin 16 := 0

/-- All registers zero. -/
def zero : Registers := ⟨Vector.replicate 16 0⟩

/-- The byte in register `x`. -/
def get (r : Registers) (x : Fin 16) : UInt8 := r.cells[x]

/-- Puts `b` into register `x`. -/
def set (r : Registers) (x : Fin 16) (b : UInt8) : Registers := ⟨r.cells.set x b⟩

/-- Puts `read 0` to `read x` into the registers `0` to `x`. -/
def loadUpTo (r : Registers) (x : Fin 16) (read : Nat → UInt8) : Registers :=
  ⟨Vector.ofFn fun i => if i ≤ x then read i else r.get i⟩

/-- The bytes in the registers `0` to `x`. -/
def upTo (r : Registers) (x : Fin 16) : List UInt8 := r.cells.toList.take (x + 1)

variable {r : Registers} {x i : Fin 16} {b : UInt8}

theorem ext_get {r₁ r₂ : Registers} (h : ∀ x, r₁.get x = r₂.get x) : r₁ = r₂ := by
  obtain ⟨c₁⟩ := r₁
  obtain ⟨c₂⟩ := r₂
  congr 1
  exact Vector.ext fun i hi => h ⟨i, hi⟩

@[simp] theorem get_zero : zero.get x = 0 := by
  simp [get, zero]

theorem get_set : (r.set x b).get i = if i = x then b else r.get i := by
  simp only [get, set, Fin.getElem_fin, Vector.getElem_set]
  by_cases h : i = x
  · subst h
    simp
  · have : ¬x.val = i.val := fun hv => h (Fin.ext hv.symm)
    simp [h, this]

theorem get_loadUpTo {read : Nat → UInt8} :
    (r.loadUpTo x read).get i = if i ≤ x then read i else r.get i := by
  simp [get, loadUpTo]

@[simp] theorem length_upTo : (r.upTo x).length = x + 1 := by
  simp only [upTo, List.length_take, Vector.length_toList]
  omega

theorem getElem_upTo {j : Nat} (h : j < (r.upTo x).length) :
    (r.upTo x)[j] = r.get ⟨j, by rw [length_upTo] at h; omega⟩ := by
  simp [upTo, get]

end Registers

end Chip8
