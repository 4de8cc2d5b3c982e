import Chip8.Proofs.Machine.Host

/-!
# `Chip8.Proofs.Machine.Unnoticed`: changes that a batch does not notice

Two batches that start from machines with a difference go through their
cycles side by side. As long as no instruction looks at the part that
differs, they fetch the same words, the same checks fail in both, and the
difference is carried along. This also goes for what is done after a check
has failed, which a comparison of single cycles does not come to.

A difference is a function on machines here, and `Batch.modify` makes the
one batch from the other. `Machine.Beside` says that the function leaves
alone what a fetch and a return look at. `Batch.perform_modify` and
`Batch.cycle_modify` then lift what holds of an instruction without a
failing check to the instructions and cycles of a batch. The first part
that no instruction looks at is the frame flag (`runCycles_withFrame`).
-/

set_option autoImplicit false

namespace Chip8

variable {g g' : Machine → Machine}

namespace Machine

/-- A change that leaves the memory, the call stack and the program counter
as they are, and can be made before or after the program counter is
set. -/
structure Beside (g : Machine → Machine) : Prop where
  /-- The memory stays as it is. -/
  memory_eq (s : Machine) : (g s).memory = s.memory
  /-- So does the call stack. -/
  stack_eq (s : Machine) : (g s).stack = s.stack
  /-- So does the program counter. -/
  pc_eq (s : Machine) : (g s).pc = s.pc
  /-- The program counter may be set first. -/
  setPc (s : Machine) (a : Word) : { g s with pc := a } = g { s with pc := a }

theorem Beside.fetch_eq (hg : Beside g) (s : Machine) :
    (g s).fetch = s.fetch.map fun r => (g r.1, r.2) := by
  simp only [fetch, hg.setPc]
  simp only [hg.memory_eq, hg.pc_eq]
  split <;> rfl

theorem beside_withFrame (ready : Bool) : Beside fun s => { s with frameReady := ready } :=
  ⟨fun _ => rfl, fun _ => rfl, fun _ => rfl, fun _ _ => rfl⟩

end Machine

namespace Batch

variable {b : Batch} {i : Instruction}

/-- The batch with another machine in it. -/
def modify (b : Batch) (g : Machine → Machine) : Batch := { b with machine := g b.machine }

theorem result_modify (b : Batch) (g : Machine → Machine) :
    (b.modify g).result = b.result.map g := by
  rw [result, result, modify]
  cases Failure.report? b.failures <;> rfl

/-- The instruction that the next cycle carries out, whether its word lies
inside memory or not. -/
def next (b : Batch) : Instruction := .decode b.fetch.2

theorem cycle_eq (b : Batch) : b.cycle = b.fetch.1.execute b.next := rfl

theorem fetch_modify (hg : Machine.Beside g) (b : Batch) :
    (b.modify g).fetch = (b.fetch.1.modify g, b.fetch.2) := by
  simp only [fetch, modify, hg.fetch_eq]
  cases b.machine.fetch with
  | ok r => rfl
  | error f =>
    simp only [Except.map, hg.setPc]
    simp only [hg.memory_eq, hg.pc_eq]

theorem next_modify (hg : Machine.Beside g) (b : Batch) : (b.modify g).next = b.next := by
  rw [next, fetch_modify hg, next]

/-- An instruction of a batch carries a difference along if it does so
where no check fails and where its own check fails. The return from a call
that found the stack full is done without either. -/
theorem perform_modify (hg : Machine.Beside g)
    (hperform : (g b.machine).perform i = (b.machine.perform i).map g')
    (hanyway : ∀ f, b.machine.perform i = .error f →
      (g b.machine).performAnyway i = g' (b.machine.performAnyway i))
    (hret : i = .ret → g' = g) : (b.modify g).perform i = (b.perform i).modify g' := by
  rw [perform, perform]
  by_cases hexcess : i = .ret ∧ 0 < b.excess
  · -- The address comes from the topmost slot, which is the same in both.
    have hexcess' : i = .ret ∧ 0 < (b.modify g).excess := hexcess
    have hslot := congrArg (fun stack : CallStack => stack.slots[15]) (hg.stack_eq b.machine)
    rw [if_pos hexcess', if_pos hexcess, hret hexcess.1]
    refine congrArg (fun s : Machine => { b with machine := s, excess := b.excess - 1 }) ?_
    exact (hg.setPc _ _).trans (congrArg (fun a : Word => g { b.machine with pc := a }) hslot)
  · -- Both fail in the same check or in none.
    have hexcess' : ¬ (i = .ret ∧ 0 < (b.modify g).excess) := hexcess
    rw [if_neg hexcess', if_neg hexcess]
    simp only [modify, hperform]
    cases hfail : b.machine.perform i with
    | ok s => rfl
    | error f => simp only [Except.map, hanyway f hfail]

/-- A cycle carries the difference along if its instruction does, and if
the frame flag can be set first. -/
theorem cycle_modify (hg : Machine.Beside g)
    (hframe : ∀ (s : Machine) (ready : Bool),
      { g' s with frameReady := ready } = g' { s with frameReady := ready })
    (hperform : (b.fetch.1.modify g).perform b.next = (b.fetch.1.perform b.next).modify g') :
    (b.modify g).cycle = b.cycle.modify g' := by
  rw [cycle_eq, cycle_eq, next_modify hg, fetch_modify hg, execute, execute, hperform]
  simp only [modify, hframe]

/-! ### The frame flag -/

/-- A cycle does not look at the frame flag that it finds, and sets it
anew. -/
theorem cycle_withFrame (b : Batch) (ready : Bool) :
    (b.modify fun s => { s with frameReady := ready }).cycle = b.cycle := by
  have hbeside := Machine.beside_withFrame ready
  have hperform := perform_modify (b := b.fetch.1) (i := b.next) hbeside
    (Machine.perform_withFrame _ ready _) (fun _ _ => by cases b.next <;> rfl) fun _ => rfl
  rw [cycle_eq, next_modify hbeside, fetch_modify hbeside, execute, hperform]
  rfl

end Batch

/-- A batch of at least one cycle does not look at the frame flag that it
finds. -/
theorem Machine.runCycles_withFrame {n : Int} (hn : 0 < n) (s : Machine) (ready : Bool) :
    ({ s with frameReady := ready } : Machine).runCycles n = s.runCycles n := by
  obtain ⟨k, hk⟩ : ∃ k, n.toNat = k + 1 := ⟨n.toNat - 1, by omega⟩
  have hcycle : (Batch.start { s with frameReady := ready }).cycle = (Batch.start s).cycle :=
    (Batch.start s).cycle_withFrame ready
  rw [runCycles, runCycles, hk, Batch.run, Batch.run, hcycle]

end Chip8
