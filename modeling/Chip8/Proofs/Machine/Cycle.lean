import Chip8.Machine.Run

/-!
# `Chip8.Proofs.Machine.Cycle`: what one cycle does

A cycle fetches an instruction, steps past it and carries it out.
`current?` is the instruction that the next cycle fetches: it is the one
that `word` stands for, if that word lies inside memory (`current?_eq`).
`current?_of_cycle` takes a successful cycle apart into these three parts.

The proofs about whole runs look at an instruction from one side only:
where the program goes on, and what becomes of the pending returns.
`Flow` lists the seven ways to do that. `flow_of_perform` is the one
place where all instructions are gone through for that, and it also shows
that no instruction touches the latch of the keypad.
-/

set_option autoImplicit false

namespace Chip8

section
variable {ε α β : Type} {x : Except ε α} {f : α → Except ε β}

/-- Two computations in a row succeed when both do. -/
theorem bind_eq_ok {b : β} : (x >>= f) = .ok b ↔ ∃ a, x = .ok a ∧ f a = .ok b := by
  cases x <;> simp [bind, Except.bind]

/-- Two computations in a row fail when the first does, or else the
second. -/
theorem bind_eq_error {e : ε} :
    (x >>= f) = .error e ↔ x = .error e ∨ ∃ a, x = .ok a ∧ f a = .error e := by
  cases x <;> simp [bind, Except.bind]

/-- A computation that only goes on with a plain value fails just if its
first part does. -/
theorem bind_pure_eq_error {g : α → β} {e : ε} :
    (x >>= fun a => pure (g a)) = .error e ↔ x = .error e := by
  rw [bind_eq_error]
  exact or_iff_left fun ⟨_, _, h⟩ => nomatch h

/-- Errors in other words do not turn into success. -/
theorem mapError_eq_ok {ε' : Type} {g : ε → ε'} {a : α} : x.mapError g = .ok a ↔ x = .ok a := by
  cases x with
  | error e => exact ⟨nofun, nofun⟩
  | ok b => exact ⟨fun h => congrArg _ (Except.ok.inj h), fun h => congrArg _ (Except.ok.inj h)⟩

/-- A failure in other words has been a failure in the first place. -/
theorem mapError_eq_error {ε' : Type} {g : ε → ε'} {e' : ε'} :
    x.mapError g = .error e' ↔ ∃ e, x = .error e ∧ e' = g e := by
  cases x with
  | error e =>
    constructor
    · intro h
      cases h
      exact ⟨e, rfl, rfl⟩
    · rintro ⟨e, heq, rfl⟩
      cases heq
      rfl
  | ok a => exact ⟨nofun, nofun⟩

theorem toOption_eq_some_iff {a : α} : x.toOption = some a ↔ x = .ok a := by
  cases x <;> simp [Except.toOption]

theorem toOption_map (x : Except ε α) (g : α → β) : (x.map g).toOption = x.toOption.map g := by
  cases x <;> rfl

/-- A computation that is seen to give a value with a property. -/
theorem ok_of_any {p : α → Bool} (h : x.toOption.any p = true) : ∃ a, x = .ok a ∧ p a = true := by
  cases x with
  | error e => cases h
  | ok a => exact ⟨a, rfl, h⟩

/-- The error of a computation, if it fails. -/
def error? : Except ε α → Option ε
  | .error e => some e
  | .ok _ => none

theorem error?_eq_some_iff {e : ε} : error? x = some e ↔ x = .error e := by
  cases x <;> simp [error?]

end

/-- Whether an instruction may step over the next word. -/
def Instruction.isSkip : Instruction → Bool
  | skipEqByte _ _ | skipNeByte _ _ | skipEq _ _ | skipNe _ _ | skipKey _ | skipNoKey _ => true
  | _ => false

/-- Whether an instruction puts an address on the call stack or takes one
off. -/
def Instruction.usesStack : Instruction → Bool
  | call _ | ret => true
  | _ => false

namespace Machine

variable {s t : Machine} {i : Instruction}

/-! ### The flow of control -/

/-- What an instruction, carried out by the machine `s`, makes of the
call stack and the program counter. -/
inductive Flow (s : Machine) : Instruction → CallStack → Word → Prop where
  /-- The program goes on with the next word. -/
  | next {i : Instruction} (h : i.usesStack = false) : Flow s i s.stack s.pc
  /-- A skip whose condition holds steps over the next word. -/
  | skip {i : Instruction} (h : i.isSkip = true) : Flow s i s.stack (s.pc + 2)
  /-- Without a key, waiting for one steps back. -/
  | wait {x : Fin 16} : Flow s (.waitKey x) s.stack (s.pc - 2)
  /-- A jump goes on at its target. -/
  | jump (target : Address) : Flow s (.jump target) s.stack target.toWord
  /-- A jump with an offset goes on at some address. -/
  | jumpOffset (target a : Address) : Flow s (.jumpOffset target) s.stack a.toWord
  /-- A call goes on at its target and leaves an address to return to. -/
  | call {target : Address} {stack : CallStack} (h : s.stack.push s.pc = .ok stack) :
      Flow s (.call target) stack target.toWord
  /-- A return goes on at the address that was left last. -/
  | ret {stack : CallStack} {a : Word} (h : s.stack.pop = .ok (stack, a)) : Flow s .ret stack a

/-- A skip goes on behind the next word or with it. -/
theorem flow_skipIf (c : Bool) (h : i.isSkip = true) :
    Flow s i (s.skipIf c).stack (s.skipIf c).pc := by
  cases c with
  | true => exact .skip h
  | false => exact .next (by cases i <;> first | rfl | cases h)

theorem key_skipIf (c : Bool) : (s.skipIf c).key = s.key := by
  cases c <;> rfl

/-- An instruction that succeeds moves control in one of the seven ways,
and the latch stays as it is. -/
theorem flow_of_perform (h : s.perform i = .ok t) : Flow s i t.stack t.pc ∧ t.key = s.key := by
  -- The instructions named here go on in ways of their own; all others go on with the next word.
  cases i with
  | ret =>
    obtain ⟨⟨stack, a⟩, hpop, heq⟩ := bind_eq_ok.1 h
    cases heq
    exact ⟨.ret hpop, rfl⟩
  | call target =>
    obtain ⟨stack, hpush, heq⟩ := bind_eq_ok.1 h
    cases heq
    exact ⟨.call hpush, rfl⟩
  | jump target =>
    cases h
    exact ⟨.jump target, rfl⟩
  | jumpOffset target =>
    cases h
    exact ⟨.jumpOffset target ⟨_, Nat.mod_lt _ (by decide)⟩, rfl⟩
  | skipEqByte | skipNeByte | skipEq | skipNe | skipKey | skipNoKey =>
    cases h
    exact ⟨flow_skipIf _ rfl, key_skipIf _⟩
  | waitKey x =>
    simp only [perform] at h
    split at h <;> cases h
    · exact ⟨.next rfl, rfl⟩
    · exact ⟨.wait, rfl⟩
  | alu op x y =>
    simp only [perform] at h
    split at h <;> cases h <;> exact ⟨.next rfl, rfl⟩
  | addIndex x =>
    simp only [perform] at h
    split at h <;> cases h
    exact ⟨.next rfl, rfl⟩
  | draw | decimal | store | load =>
    -- The range of the access is checked first; the rest cannot fail.
    obtain ⟨-, -, heq⟩ := bind_eq_ok.1 h
    cases heq
    exact ⟨.next rfl, rfl⟩
  | _ =>
    cases h
    exact ⟨.next rfl, rfl⟩

/-! ### The three parts of a cycle -/

/-- The machine stepped past the word at its program counter. -/
def stepped (s : Machine) : Machine := { s with pc := s.pc + 2 }

/-- The instruction that the next cycle fetches, if it lies inside
memory. -/
def current? (s : Machine) : Option Instruction :=
  match s.fetch with
  | .ok (_, w) => some (.decode w)
  | .error _ => none

/-- The word that lies at the program counter. -/
def word (s : Machine) : Word :=
  .ofBytes (s.memory.read s.pc.toNat) (s.memory.read (s.pc.toNat + 1))

theorem current?_eq (s : Machine) :
    s.current? = if s.pc.toNat + 1 < Memory.size then some (.decode s.word) else none := by
  by_cases hpc : s.pc.toNat + 1 < Memory.size
  · simp only [current?, fetch, if_pos hpc]
    rfl
  · simp only [current?, fetch, if_neg hpc]

theorem current?_eq_some_iff :
    s.current? = some i ↔ s.pc.toNat + 1 < Memory.size ∧ .decode s.word = i := by
  rw [current?_eq]
  split
  · rename_i hpc
    rw [Option.some.injEq, and_iff_right hpc]
  · rename_i hpc
    exact ⟨nofun, fun h => absurd h.1 hpc⟩

/-- A word that lies in memory is fetched and carried out. -/
theorem cycle_of_lt (hpc : s.pc.toNat + 1 < Memory.size) :
    s.cycle = s.stepped.execute (.decode s.word) := by
  rw [cycle, fetch, if_pos hpc]
  rfl

/-- There is no word to fetch at the end of memory. -/
theorem cycle_of_le (hpc : Memory.size ≤ s.pc.toNat + 1) :
    s.cycle = .error (.fetchOutOfRange s.pc.toNat) := by
  rw [cycle, fetch, if_neg (Nat.not_lt.2 hpc)]
  rfl

/-- A cycle carries out the instruction that is fetched. -/
theorem cycle_of_current? (h : s.current? = some i) : s.cycle = s.stepped.execute i := by
  obtain ⟨hpc, rfl⟩ := current?_eq_some_iff.1 h
  exact cycle_of_lt hpc

/-- What a successful instruction leaves, the frame flag noted. -/
theorem execute_eq_ok_iff :
    s.execute i = .ok t ↔
      ∃ u, s.perform i = .ok u ∧ t = { u with frameReady := i.completesFrame } := by
  rw [execute, bind_eq_ok]
  constructor
  · rintro ⟨u, hu, heq⟩
    cases heq
    exact ⟨u, hu, rfl⟩
  · rintro ⟨u, hu, rfl⟩
    exact ⟨u, hu, rfl⟩

/-- Executing an instruction fails as carrying it out does: the frame
flag is always noted. -/
theorem execute_eq_error_iff {f : Fault} : s.execute i = .error f ↔ s.perform i = .error f := by
  rw [execute]
  exact bind_pure_eq_error

/-- A cycle that succeeds has fetched an instruction and carried it
out. -/
theorem current?_of_cycle (h : s.cycle = .ok t) :
    ∃ i, s.current? = some i ∧ s.stepped.execute i = .ok t := by
  by_cases hpc : s.pc.toNat + 1 < Memory.size
  · rw [cycle_of_lt hpc] at h
    exact ⟨_, current?_eq_some_iff.2 ⟨hpc, rfl⟩, h⟩
  · rw [cycle_of_le (Nat.not_lt.1 hpc)] at h
    cases h

end Machine

end Chip8
