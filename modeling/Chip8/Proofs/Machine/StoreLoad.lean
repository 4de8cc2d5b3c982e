import Chip8.Proofs.Machine.Decode
import Chip8.Proofs.Machine.Within

/-!
# `Chip8.Proofs.Machine.StoreLoad`: registers through memory and back

`FX55` puts the registers up to `VX` into memory, at the index register,
and `FX65` takes them from there. `execute_store` and `execute_load` give
the machine after each of them, whenever the bytes end in memory.

Going through memory loses nothing, in either direction. What a store has
put in is what a load of as many registers, or of fewer, takes out
(`get_loadedRegisters`); and what a load has taken out a store puts back
where it was (`storedMemory_loaded`). The main statement, `execute_store_load`,
has both, and says of everything else that it stays.
-/

set_option autoImplicit false

namespace Chip8

/-- Bytes that are written where they lie already change nothing. -/
theorem Memory.writeBlock_readBlock (m : Memory) (a length : Nat) :
    m.writeBlock a (m.readBlock a length) = m := by
  refine ext_read fun i hi => ?_
  rw [read_writeBlock]
  split
  · rename_i h
    rw [getElem_readBlock, Nat.add_sub_cancel' h.1]
  · rfl

/-- The registers that have been loaded hold the bytes that they were
loaded from. -/
theorem Registers.upTo_loadUpTo (r : Registers) (x : Fin 16) (m : Memory) (a : Nat) :
    (r.loadUpTo x fun i => m.read (a + i)).upTo x = m.readBlock a (x + 1) := by
  refine List.ext_getElem (by rw [length_upTo, Memory.length_readBlock]) fun j hj _ => ?_
  rw [getElem_upTo, get_loadUpTo, Memory.getElem_readBlock, if_pos]
  rw [length_upTo] at hj
  exact Nat.le_of_lt_succ hj

namespace Machine

variable {s t : Machine} {x y j : Fin 16}

/-! ### The two instructions -/

/-- The memory after the registers up to `VX` have been put in at the index
register. -/
def storedMemory (s : Machine) (x : Fin 16) : Memory :=
  s.memory.writeBlock s.index.toNat (s.registers.upTo x)

/-- The registers after those up to `VX` have been taken from memory, at
the index register. -/
def loadedRegisters (s : Machine) (x : Fin 16) : Registers :=
  s.registers.loadUpTo x fun i => s.memory.read (s.index.toNat + i)

/-- A store succeeds if its bytes end in memory. It touches the memory and
the frame flag. -/
theorem execute_store (hin : s.index.toNat + x ≤ 4095) :
    s.execute (.store x) = .ok { s with memory := s.storedMemory x, frameReady := false } := by
  have haccess : s.checkAccess (x + 1) = .ok () := if_pos (Nat.succ_le_succ hin)
  rw [execute, perform, haccess]
  rfl

/-- A load succeeds if its bytes end in memory. It touches the registers
and the frame flag. -/
theorem execute_load (hin : s.index.toNat + x ≤ 4095) :
    s.execute (.load x) = .ok { s with registers := s.loadedRegisters x, frameReady := false } := by
  have haccess : s.checkAccess (x + 1) = .ok () := if_pos (Nat.succ_le_succ hin)
  rw [execute, perform, haccess]
  rfl

/-! ### There and back -/

/-- A store puts each register up to `VX` at its place. -/
theorem read_storedMemory (hin : s.index.toNat + x ≤ 4095) (hj : j ≤ x) :
    (s.storedMemory x).read (s.index.toNat + j) = s.registers.get j := by
  have hjx : j.val ≤ x.val := hj
  have hlength : j.val < (s.registers.upTo x).length := by
    rw [Registers.length_upTo]
    omega
  rw [storedMemory, Memory.read_writeBlock_add hlength (by omega), Registers.getElem_upTo]

/-- A store leaves all other bytes alone. -/
theorem read_storedMemory_of_outside {a : Nat}
    (ha : a < s.index.toNat ∨ s.index.toNat + x < a) :
    (s.storedMemory x).read a = s.memory.read a := by
  refine Memory.read_writeBlock_of_outside ?_
  rw [Registers.length_upTo]
  omega

/-- A machine that finds in memory what `s` has stored there, and loads
no more registers than that, has them as `s` has them. -/
theorem get_loadedRegisters (hin : s.index.toNat + x ≤ 4095) (hy : y ≤ x)
    (hmemory : t.memory = s.storedMemory x) (hindex : t.index = s.index) :
    (t.loadedRegisters y).get j = if j ≤ y then s.registers.get j else t.registers.get j := by
  rw [loadedRegisters, Registers.get_loadUpTo]
  split
  · rename_i hj
    rw [hmemory, hindex, read_storedMemory hin (Fin.le_trans hj hy)]
  · rfl

/-- Registers that have just been loaded are stored where they came
from. -/
theorem storedMemory_loaded (s : Machine) (x : Fin 16) (ready : Bool) :
    ({ s with registers := s.loadedRegisters x, frameReady := ready } : Machine).storedMemory x
      = s.memory := by
  show s.memory.writeBlock s.index.toNat ((s.loadedRegisters x).upTo x) = s.memory
  rw [loadedRegisters, Registers.upTo_loadUpTo]
  exact Memory.writeBlock_readBlock _ _ _

/-- The bytes of the registers up to `VX` end in memory. Then `FX55`
succeeds: each of these registers lies at its place, every other byte is
what it was, and besides the memory only the frame flag is touched. Any
machine that has this memory and the same index register gets the
registers back by `FY65`, those up to `VY` for any `VY` up to `VX`, and
keeps the ones above. The other way round, `FX65` and then `FX55` leave the
memory as it was. -/
theorem execute_store_load (s : Machine) (x : Fin 16) (hin : s.index.toNat + x ≤ 4095) :
    (∃ u, s.execute (.decode (.ofNibbles 0xF x 0x5 0x5)) = .ok u ∧
      (∀ j, j ≤ x → u.memory.read (s.index.toNat + j) = s.registers.get j) ∧
      (∀ a, a < s.index.toNat ∨ s.index.toNat + x < a → u.memory.read a = s.memory.read a) ∧
      u = { s with memory := u.memory, frameReady := false } ∧
      ∀ (y : Fin 16) (t : Machine), y ≤ x → t.memory = u.memory → t.index = s.index →
        ∃ v, t.execute (.decode (.ofNibbles 0xF y 0x6 0x5)) = .ok v ∧
          (∀ j, v.registers.get j = if j ≤ y then s.registers.get j else t.registers.get j) ∧
          v = { t with registers := v.registers, frameReady := false }) ∧
    ∃ u v, s.execute (.decode (.ofNibbles 0xF x 0x6 0x5)) = .ok u ∧
      u.execute (.decode (.ofNibbles 0xF x 0x5 0x5)) = .ok v ∧ v.memory = s.memory := by
  simp only [Instruction.decode_store, Instruction.decode_load]
  constructor
  · refine ⟨_, execute_store hin, fun j => read_storedMemory hin,
      fun a => read_storedMemory_of_outside, rfl, fun y t hy hmemory hindex => ?_⟩
    have hyx : y.val ≤ x.val := hy
    have hin' : t.index.toNat + y ≤ 4095 := by
      rw [hindex]
      omega
    exact ⟨_, execute_load hin', fun j => get_loadedRegisters hin hy hmemory hindex, rfl⟩
  · refine ⟨_, _, execute_load hin, execute_store hin, ?_⟩
    -- The store finds the registers as the load has left them.
    dsimp only
    exact storedMemory_loaded s x false

/-- Two registers are stored in the last two bytes of memory, and another
machine loads the first of them. Its second register is its own. -/
theorem execute_store_load_edge :
    let s : Machine := { boot (.ofSeed 0) with
      index := 0xFFE, registers := (Registers.zero.set 0 7).set 1 9 }
    s.index.toNat + (1 : Fin 16) ≤ 4095 ∧
    ∃ u, s.execute (.decode 0xF155) = .ok u ∧ u.memory.read 0xFFE = 7 ∧ u.memory.read 0xFFF = 9 ∧
      ∃ v, ({ u with registers := Registers.zero.set 1 5 } : Machine).execute (.decode 0xF065) = .ok v ∧
        v.registers.get 0 = 7 ∧ v.registers.get 1 = 5 := by
  intro s
  have hin : s.index.toNat + (1 : Fin 16) ≤ 4095 := by decide
  obtain ⟨⟨u, hu, hstored, -, hsame, hload⟩, -⟩ := execute_store_load s 1 hin
  have hindex : u.index = s.index := by rw [hsame]
  obtain ⟨v, hv, hloaded, -⟩ :=
    hload 0 { u with registers := Registers.zero.set 1 5 } (by decide) rfl hindex
  exact ⟨hin, u, hu, hstored 0 (by decide), hstored 1 (by decide), v, hv, hloaded 0, hloaded 1⟩

end Machine

end Chip8
