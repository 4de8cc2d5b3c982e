/-!
# `Chip8.Memory`: the 4096 bytes of the machine

`Memory` is observed one byte at a time through `Memory.read`. Two
memories are equal when they read alike (`Memory.ext_read`), and each
operation says what it does to a later read: `read_write` for one byte,
`read_writeBlock` for a run of bytes. Addresses are natural numbers; a
read past the end gives zero and a write past the end is dropped, so
both are total.
-/

set_option autoImplicit false

namespace Chip8

/-- The memory: one byte for each address below `Memory.size`. -/
structure Memory where
  /-- The byte at each address. -/
  cells : Vector UInt8 4096
deriving DecidableEq

namespace Memory

/-- The number of bytes. -/
def size : Nat := 4096

/-- The memory that holds zero everywhere. -/
def zero : Memory := ⟨Vector.replicate 4096 0⟩

/-- The byte at address `a`, zero past the end. -/
def read (m : Memory) (a : Nat) : UInt8 := if h : a < 4096 then m.cells[a] else 0

/-- Puts `b` at address `a`. -/
def write (m : Memory) (a : Nat) (b : UInt8) : Memory := ⟨m.cells.setIfInBounds a b⟩

/-- The `length` bytes from address `a` on. -/
def readBlock (m : Memory) (a length : Nat) : List UInt8 :=
  (List.range length).map fun i => m.read (a + i)

/-- Puts the bytes of a list at address `a` and the addresses that
follow it. -/
def writeBlock (m : Memory) (a : Nat) : List UInt8 → Memory
  | [] => m
  | b :: bs => (m.write a b).writeBlock (a + 1) bs

variable {m : Memory} {a i : Nat} {b : UInt8}

theorem ext_read {m₁ m₂ : Memory} (h : ∀ a, a < 4096 → m₁.read a = m₂.read a) : m₁ = m₂ := by
  obtain ⟨c₁⟩ := m₁
  obtain ⟨c₂⟩ := m₂
  congr 1
  refine Vector.ext fun a ha => ?_
  simpa [read, ha] using h a ha

@[simp] theorem read_zero : zero.read a = 0 := by
  simp only [read, zero]
  split <;> simp

theorem read_of_size_le (h : 4096 ≤ a) : m.read a = 0 := by
  simp only [read, dif_neg (Nat.not_lt.mpr h)]

/-- A byte reads back where it was written, and nothing else changes. -/
theorem read_write : (m.write a b).read i = if i = a ∧ a < 4096 then b else m.read i := by
  simp only [read, write]
  by_cases hi : i < 4096
  · simp only [hi, dite_true, Vector.getElem_setIfInBounds]
    by_cases hia : i = a
    · subst hia
      simp [hi]
    · simp [hia, Ne.symm hia]
  · simp only [hi, dite_false]
    split
    · omega
    · rfl

/-- A run of bytes reads back where it was written, and nothing else
changes. -/
theorem read_writeBlock (bs : List UInt8) (m : Memory) (a i : Nat) :
    (m.writeBlock a bs).read i
      = if h : a ≤ i ∧ i < a + bs.length ∧ i < 4096 then bs[i - a] else m.read i := by
  induction bs generalizing m a with
  | nil =>
    simp only [writeBlock, List.length_nil]
    rw [dif_neg (by omega)]
  | cons b bs ih =>
    simp only [writeBlock, ih, read_write, List.length_cons]
    by_cases hia : i = a
    · subst hia
      by_cases hi : i < 4096
      · rw [dif_neg (by omega), if_pos ⟨rfl, hi⟩, dif_pos ⟨by omega, by omega, hi⟩]
        simp
      · rw [dif_neg (by omega), if_neg (by omega), dif_neg (by omega)]
    · by_cases h : a + 1 ≤ i ∧ i < a + 1 + bs.length ∧ i < 4096
      · rw [dif_pos h, dif_pos ⟨by omega, by omega, h.2.2⟩]
        have : i - a = i - (a + 1) + 1 := by omega
        simp only [this, List.getElem_cons_succ]
      · rw [dif_neg h, if_neg (by omega), dif_neg (by omega)]

@[simp] theorem length_readBlock (length : Nat) : (m.readBlock a length).length = length := by
  simp [readBlock]

@[simp] theorem getElem_readBlock {length : Nat} (h : i < (m.readBlock a length).length) :
    (m.readBlock a length)[i] = m.read (a + i) := by
  simp [readBlock]

end Memory

end Chip8
