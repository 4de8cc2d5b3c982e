import Chip8.Proofs.Machine.Host
import Chip8.Proofs.Machine.Replay

/-!
# `Chip8.Proofs.Machine.PendingReturns`: the call stack is a list

The call stack is sixteen slots and a depth. A run of a program gives a
plainer view of it: each call that is retired adds the address behind it
to a list, and each return takes the last address off
(`Step.pending`). `CallStack.Holds` ties the two together: the slots in
use are the list, oldest first, and the slots above are zero.

`Holds` is kept by a push and a pop (`Holds.push`, `Holds.pop`), hence by
every event (`holds_apply`), hence by every run (`holds_steps`). The main
statement is `replay_pendingReturns`: after any run from a fresh machine
the call stack is the list of the calls that have not returned, a return
goes back to the last of them, and calls and returns fail exactly when
the list is full and when it is empty.
-/

set_option autoImplicit false

namespace Chip8

/-- Whether an instruction is a call. -/
def Instruction.isCall : Instruction → Bool
  | call _ => true
  | _ => false

namespace CallStack

variable {s t : CallStack} {a : Word} {pending : List Nat}

theorem length_entries (s : CallStack) : s.entries.length = s.depth := by
  have hdepth := s.depth_le
  rw [entries, List.length_take, Vector.length_toList]
  omega

theorem getElem?_entries {i : Nat} (h : i < 16) :
    s.entries[i]? = if i < s.depth then some s.slots[i] else none := by
  rw [entries, List.getElem?_take]
  split
  · rw [Vector.getElem?_toList, Vector.getElem?_eq_getElem h]
  · rfl

/-- The call stack holds the list `pending` if the slots in use are its
addresses, oldest first, and the other slots are zero. -/
structure Holds (s : CallStack) (pending : List Nat) : Prop where
  entries : s.entries.map UInt16.toNat = pending
  clear : ∀ i (h : i < 16), s.depth ≤ i → s.slots[i] = 0

theorem Holds.depth (h : s.Holds pending) : s.depth = pending.length := by
  rw [← h.entries, List.length_map, length_entries]

theorem holds_empty : empty.Holds [] where
  entries := rfl
  clear i h _ := by
    show (Vector.replicate 16 (0 : Word))[i] = 0
    rw [Vector.getElem_replicate]

/-! ### Pushing and popping -/

/-- A push succeeds below the last slot and fills the next one. -/
theorem push_eq_ok (h : s.push a = .ok t) :
    ∃ hd : s.depth < 16,
      t.slots = s.slots.set s.depth (UInt16.ofNat (a.toNat % 4096)) ∧ t.depth = s.depth + 1 := by
  rw [push] at h
  split at h
  · rename_i hd
    cases h
    exact ⟨hd, rfl, rfl⟩
  · cases h

/-- A pop succeeds above the first slot and clears the last one in use. -/
theorem pop_eq_ok (h : s.pop = .ok (t, a)) :
    ∃ hd : t.depth < 16,
      t.slots = s.slots.set t.depth 0 ∧ s.depth = t.depth + 1 ∧ a = s.slots[t.depth] := by
  have hdepth := s.depth_le
  rw [pop] at h
  split at h
  · rename_i hd
    cases h
    exact ⟨by show s.depth - 1 < 16; omega, rfl, (Nat.sub_add_cancel hd).symm, rfl⟩
  · cases h

/-- A push fails only on a full stack, and only by an overflow. -/
theorem push_eq_error_iff {f : Fault} :
    s.push a = .error f ↔ f = .stackOverflow ∧ s.depth = 16 := by
  have hdepth := s.depth_le
  rw [push]
  split
  · rename_i hd
    exact ⟨nofun, fun h => by omega⟩
  · rename_i hd
    exact ⟨fun h => by cases h; exact ⟨rfl, by omega⟩, fun h => by rw [h.1]⟩

/-- A pop fails only on an empty stack, and only by an underflow. -/
theorem pop_eq_error_iff {f : Fault} :
    s.pop = .error f ↔ f = .stackUnderflow ∧ s.depth = 0 := by
  rw [pop]
  split
  · rename_i hd
    exact ⟨nofun, fun h => by omega⟩
  · rename_i hd
    exact ⟨fun h => by cases h; exact ⟨rfl, by omega⟩, fun h => by rw [h.1]⟩

/-- The entries of a stack that differs in a slot above those in use. -/
theorem entries_set {d : Nat} (hd : d < 16) (hslots : t.slots = s.slots.set d a) :
    t.slots.toList.take d = s.slots.toList.take d := by
  rw [hslots, Vector.toList_set, List.take_set_of_le (Nat.le_refl d)]

/-- The last entry is the word in the last slot in use. -/
theorem entries_of_depth {d : Nat} (hd : d < 16) (hdepth : s.depth = d + 1) :
    s.entries = s.slots.toList.take d ++ [s.slots[d]] := by
  rw [entries, hdepth, List.take_add_one, Vector.getElem?_toList, Vector.getElem?_eq_getElem hd]
  rfl

/-- Pushing an address adds its low twelve bits to the end of the list. -/
theorem Holds.push (hs : s.Holds pending) (h : s.push a = .ok t) :
    t.Holds (pending ++ [a.toNat % 4096]) := by
  obtain ⟨hd, hslots, hdepth⟩ := push_eq_ok h
  have hentries : t.entries = s.entries ++ [UInt16.ofNat (a.toNat % 4096)] := by
    rw [entries_of_depth hd hdepth, entries_set hd hslots]
    simp only [hslots, Vector.getElem_set_self]
    rfl
  have hword : (UInt16.ofNat (a.toNat % 4096)).toNat = a.toNat % 4096 := by
    rw [UInt16.toNat_ofNat']
    omega
  refine ⟨?_, fun i hi hle => ?_⟩
  · rw [hentries, List.map_append, hs.entries, List.map_singleton, hword]
  · have hne : s.depth ≠ i := by omega
    simp only [hslots, Vector.getElem_set_ne _ _ hne]
    exact hs.clear i hi (by omega)

/-- Popping takes the last address off the list, and gives it. -/
theorem Holds.pop (hs : s.Holds pending) (h : s.pop = .ok (t, a)) :
    t.Holds pending.dropLast ∧ pending.getLast? = some a.toNat := by
  obtain ⟨hd, hslots, hdepth, rfl⟩ := pop_eq_ok h
  have hentries : s.entries = t.entries ++ [s.slots[t.depth]] := by
    rw [entries_of_depth hd hdepth, CallStack.entries, entries_set hd hslots]
  have hpending : pending = t.entries.map UInt16.toNat ++ [s.slots[t.depth].toNat] := by
    rw [← hs.entries, hentries, List.map_append, List.map_singleton]
  rw [hpending, List.dropLast_concat, List.getLast?_concat]
  refine ⟨⟨rfl, fun i hi hle => ?_⟩, rfl⟩
  -- The slot that was cleared is the first one above those in use.
  by_cases heq : t.depth = i
  · subst heq
    simp only [hslots, Vector.getElem_set_self]
  · simp only [hslots, Vector.getElem_set_ne _ _ heq]
    exact hs.clear i hi (by omega)

end CallStack

namespace Machine

variable {s t : Machine}

/-! ### The list of a run -/

/-- Whether a step retires a call. -/
def Step.calls (st : Step) : Bool := st.retired?.any Instruction.isCall

/-- Whether a step retires a return. -/
def Step.returns (st : Step) : Bool := st.retired?.any (· = .ret)

/-- The addresses to return to after a step, given those before it. A
call adds the address behind it, and a return takes the last address
off. -/
def Step.pending (addresses : List Nat) (st : Step) : List Nat :=
  if st.calls then addresses ++ [(st.before.pc.toNat + 2) % 4096]
  else if st.returns then addresses.dropLast
  else addresses

/-- The addresses to return to after some steps of a fresh machine. -/
def pendingReturns (done : List Step) : List Nat := done.foldl Step.pending []

/-- A step does one of three things to the call stack. It retires a call,
which pushes the address behind it; it retires a return, which goes on at
the address that it pops; or it leaves the call stack alone. -/
theorem stack_cases {e : Event} (h : s.apply e = .ok t) :
    let st : Step := ⟨s, e, t⟩
    (st.calls = true ∧ st.returns = false ∧ s.stack.push (s.pc + 2) = .ok t.stack) ∨
    (st.calls = false ∧ st.returns = true ∧ s.stack.pop = .ok (t.stack, t.pc)) ∨
    (st.calls = false ∧ st.returns = false ∧ t.stack = s.stack) := by
  cases e with
  | tick | press | release =>
    cases h
    exact .inr (.inr ⟨rfl, rfl, rfl⟩)
  | cycle =>
    obtain ⟨i, hcur, hexec⟩ := current?_of_cycle h
    obtain ⟨u, hu, rfl⟩ := execute_eq_ok_iff.1 hexec
    have hflow := (flow_of_perform hu).1
    simp only [Step.calls, Step.returns, Step.retired?, hcur, Option.any_some]
    -- Of the machine after the instruction only the call stack and the program counter matter.
    generalize u.stack = stack at hflow ⊢
    generalize u.pc = pc at hflow ⊢
    cases hflow with
    | call hpush => exact .inl ⟨rfl, rfl, hpush⟩
    | ret hpop => exact .inr (.inl ⟨rfl, rfl, hpop⟩)
    | wait | jump | jumpOffset => exact .inr (.inr ⟨rfl, rfl, rfl⟩)
    | next hi => exact .inr (.inr (by cases i <;> first | exact ⟨rfl, rfl, rfl⟩ | cases hi))
    | skip hi => exact .inr (.inr (by cases i <;> first | exact ⟨rfl, rfl, rfl⟩ | cases hi))

/-- A call pushes the address behind it. -/
theorem push_of_call {target : Address} (hcur : s.current? = some (.call target))
    (h : s.cycle = .ok t) : s.stack.push (s.pc + 2) = .ok t.stack := by
  have hcalls : (⟨s, .cycle, t⟩ : Step).calls = true := by
    rw [Step.calls, Step.retired?, hcur]
    rfl
  rcases stack_cases (e := .cycle) h with ⟨-, -, hpush⟩ | ⟨hc, -, -⟩ | ⟨hc, -, -⟩
  · exact hpush
  · exact absurd hcalls (Bool.eq_false_iff.1 hc)
  · exact absurd hcalls (Bool.eq_false_iff.1 hc)

/-- A return goes on at the address that it pops. -/
theorem pop_of_ret (hcur : s.current? = some .ret) (h : s.cycle = .ok t) :
    s.stack.pop = .ok (t.stack, t.pc) := by
  have hreturns : (⟨s, .cycle, t⟩ : Step).returns = true := by
    rw [Step.returns, Step.retired?, hcur]
    rfl
  rcases stack_cases (e := .cycle) h with ⟨-, hr, -⟩ | ⟨-, -, hpop⟩ | ⟨-, hr, -⟩
  · exact absurd hreturns (Bool.eq_false_iff.1 hr)
  · exact hpop
  · exact absurd hreturns (Bool.eq_false_iff.1 hr)

/-- A step does to the call stack what it does to the list. -/
theorem holds_apply {e : Event} {addresses : List Nat} (hs : s.stack.Holds addresses)
    (h : s.apply e = .ok t) : t.stack.Holds (Step.pending addresses ⟨s, e, t⟩) := by
  rcases stack_cases h with ⟨hc, -, hpush⟩ | ⟨hc, hr, hpop⟩ | ⟨hc, hr, hsame⟩
  · have hpc : (s.pc + 2).toNat % 4096 = (s.pc.toNat + 2) % 4096 := by
      rw [UInt16.toNat_add]
      show (s.pc.toNat + 2) % 65536 % 4096 = (s.pc.toNat + 2) % 4096
      omega
    rw [Step.pending, if_pos hc, ← hpc]
    exact hs.push hpush
  · rw [Step.pending, if_neg (by simp [hc]), if_pos hr]
    exact (hs.pop hpop).1
  · rw [Step.pending, if_neg (by simp [hc]), if_neg (by simp [hr]), hsame]
    exact hs

/-- A call makes the stack deeper by one, and a return less deep by
one. -/
theorem depth_apply {e : Event} (h : s.apply e = .ok t) :
    t.stack.depth + [(⟨s, e, t⟩ : Step)].countP Step.returns
      = s.stack.depth + [(⟨s, e, t⟩ : Step)].countP Step.calls := by
  rw [List.countP_singleton, List.countP_singleton]
  rcases stack_cases h with ⟨hc, hr, hpush⟩ | ⟨hc, hr, hpop⟩ | ⟨hc, hr, hsame⟩
  · obtain ⟨-, -, hdepth⟩ := CallStack.push_eq_ok hpush
    simp only [hc, hr, hdepth, if_true, Bool.false_eq_true, if_false, Nat.add_zero]
  · obtain ⟨-, -, hdepth, -⟩ := CallStack.pop_eq_ok hpop
    simp only [hc, hr, hdepth, if_true, Bool.false_eq_true, if_false, Nat.add_zero]
  · simp only [hc, hr, hsame, Bool.false_eq_true, if_false]

/-- After any run from a machine with an empty call stack, the stack is
the list, and as deep as calls are ahead of returns. -/
theorem holds_steps {es : List Event} (hs : s.stack = .empty) (h : s.replay es = .ok t) :
    t.stack.Holds (pendingReturns (s.steps es)) ∧
      t.stack.depth + (s.steps es).countP Step.returns = (s.steps es).countP Step.calls := by
  refine replay_steps_induction (R := fun u done => u.stack.Holds (pendingReturns done) ∧
    u.stack.depth + done.countP Step.returns = done.countP Step.calls) ?_ ?_ h
  · rw [hs]
    exact ⟨CallStack.holds_empty, rfl⟩
  · rintro done u e v ⟨hholds, hcount⟩ hv
    have hdepth := depth_apply hv
    rw [List.countP_append, List.countP_append, pendingReturns, List.foldl_append]
    exact ⟨holds_apply hholds hv, by omega⟩

/-! ### Calls and returns that fail -/

/-- A call that is fetched fails exactly on a full stack. -/
theorem cycle_call_eq_error_iff {target : Address} {f : Fault}
    (hcur : s.current? = some (.call target)) :
    s.cycle = .error f ↔ f = .stackOverflow ∧ s.stack.depth = 16 := by
  rw [cycle_of_current? hcur, execute_eq_error_iff, ← CallStack.push_eq_error_iff (a := s.pc + 2)]
  exact bind_pure_eq_error

/-- A return that is fetched fails exactly on an empty stack. -/
theorem cycle_ret_eq_error_iff {f : Fault} (hcur : s.current? = some .ret) :
    s.cycle = .error f ↔ f = .stackUnderflow ∧ s.stack.depth = 0 := by
  rw [cycle_of_current? hcur, execute_eq_error_iff, ← CallStack.pop_eq_error_iff]
  exact bind_pure_eq_error

/-! ### The call stack of a run -/

/-- The call stack of a run, from a machine into which a program has just
been put. Let `addresses` be the list that each retired call extends with
the address behind it, and each retired return shortens by its last
address. Then the slots in use are the list, oldest first, there are as
many as calls are ahead of returns, and the slots above are zero. The
next return goes on at the last address of the list. A call fails exactly
when the list has sixteen addresses, a return exactly when it is empty,
and no other step changes the call stack. -/
theorem replay_pendingReturns (random : RandomKey) (rom : Rom) (hrom : rom.length ≤ Rom.maxSize) :
    Fault.stackOverflow.message
      = "call stack overflow: more than 16 nested calls (`check` failed)" ∧
    Fault.stackUnderflow.message
      = "call stack underflow: return with empty stack (`check` failed)" ∧
    ∃ s₀, (boot random).load rom = .ok s₀ ∧
      ∀ (events : List Event) (s : Machine), s₀.replay events = .ok s →
        let done := s₀.steps events
        let addresses := pendingReturns done
        s.stack.depth = addresses.length ∧
        s.stack.depth + done.countP Step.returns = done.countP Step.calls ∧
        s.stack.entries.map UInt16.toNat = addresses ∧
        (∀ i (h : i < 16), s.stack.depth ≤ i → s.stack.slots[i] = 0) ∧
        (∀ t, s.current? = some .ret → s.cycle = .ok t →
          addresses.getLast? = some t.pc.toNat) ∧
        (∀ target f, s.current? = some (.call target) →
          (s.cycle = .error f ↔ f = .stackOverflow ∧ addresses.length = 16)) ∧
        (∀ f, s.current? = some .ret →
          (s.cycle = .error f ↔ f = .stackUnderflow ∧ addresses = [])) ∧
        (∀ e t, s.apply e = .ok t → (⟨s, e, t⟩ : Step).calls = false →
          (⟨s, e, t⟩ : Step).returns = false → t.stack = s.stack) := by
  refine ⟨rfl, rfl, _, load_eq_ok_iff.2 ⟨hrom, rfl⟩, fun events s hrun => ?_⟩
  obtain ⟨hholds, hcount⟩ := holds_steps rfl hrun
  refine ⟨hholds.depth, hcount, hholds.entries, hholds.clear, ?_, ?_, ?_, ?_⟩
  · intro t hcur ht
    exact (hholds.pop (pop_of_ret hcur ht)).2
  · intro target f hcur
    rw [cycle_call_eq_error_iff hcur, hholds.depth]
  · intro f hcur
    rw [cycle_ret_eq_error_iff hcur, hholds.depth, List.length_eq_zero_iff]
  · intro e t ht hc hr
    rcases stack_cases ht with ⟨hc', -, -⟩ | ⟨-, hr', -⟩ | ⟨-, -, hsame⟩
    · exact absurd hc' (Bool.eq_false_iff.1 hc)
    · exact absurd hr' (Bool.eq_false_iff.1 hr)
    · exact hsame

/-- A program that calls the word behind the call: after one cycle the
list holds the address of that word. -/
theorem replay_pendingReturns_call :
    ([0x22, 0x02, 0x00, 0xEE] : Rom).length ≤ Rom.maxSize ∧
      ∃ s₀ s, (boot ⟨0, 0⟩).load [0x22, 0x02, 0x00, 0xEE] = .ok s₀ ∧
        s₀.replay [.cycle] = .ok s ∧ s.stack.entries.map UInt16.toNat = [0x202] ∧
        ∀ t, s.current? = some .ret → s.cycle = .ok t → t.pc.toNat = 0x202 := by
  have hrom : ([0x22, 0x02, 0x00, 0xEE] : Rom).length ≤ Rom.maxSize := by decide
  have hcheck : ((boot ⟨0, 0⟩).load [0x22, 0x02, 0x00, 0xEE]).toOption.any (fun s₀ =>
      (s₀.replay [.cycle]).isOk && pendingReturns (s₀.steps [.cycle]) == [0x202]) = true := by
    decide +kernel
  obtain ⟨s₀, hs₀, hcheck⟩ := ok_of_any hcheck
  rw [Bool.and_eq_true, beq_iff_eq] at hcheck
  obtain ⟨-, -, s₁, hs₁, hall⟩ := replay_pendingReturns ⟨0, 0⟩ _ hrom
  cases hs₀.symm.trans hs₁
  cases hs : s₀.replay [.cycle] with
  | error f =>
    rw [hs] at hcheck
    cases hcheck.1
  | ok s =>
    obtain ⟨-, -, hentries, -, hret, -⟩ := hall [.cycle] s hs
    rw [hcheck.2] at hentries hret
    exact ⟨hrom, s₀, s, hs₀, hs, hentries, fun t hcur ht =>
      (Option.some.inj (hret t hcur ht)).symm⟩

end Machine

end Chip8
