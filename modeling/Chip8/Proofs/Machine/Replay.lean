import Chip8.Proofs.Machine.Reads

/-!
# `Chip8.Proofs.Machine.Replay`: runs and their steps

A run is a list of events, and `Machine.replay` carries them out one
after the other. Runs can be cut at any place (`replay_append`). A run of
cycles alone is `Machine.run` (`replay_replicate_cycle`): the host asks for
one cycle at a time, and stops at the first that fails. It is what a batch
of cycles is compared with.

`Machine.steps` lists what a run went through: for each event the
machine before it and the machine after it. A claim about runs compares
the machine that a run has reached with the steps that led there.
`replay_steps_induction` is the induction behind all such claims: what
holds at the start, and is kept by each further step, holds at the end.
-/

set_option autoImplicit false

namespace Chip8.Machine

variable {s t u : Machine}

/-! ### Runs of cycles -/

/-- The given number of cycles, one at a time up to the first that
fails. -/
def run (s : Machine) : Nat → Except Fault Machine
  | 0 => .ok s
  | n + 1 => do
    let s ← s.cycle
    s.run n

theorem run_succ (s : Machine) (n : Nat) : s.run (n + 1) = s.cycle >>= fun u => u.run n := rfl

theorem run_of_cycle (h : s.cycle = .ok t) (n : Nat) : s.run (n + 1) = t.run n := by
  rw [run_succ, h]
  rfl

theorem run_of_cycle_eq_error {f : Fault} (h : s.cycle = .error f) (n : Nat) :
    s.run (n + 1) = .error f := by
  rw [run_succ, h]
  rfl

/-- A run of at least one cycle does not look at the frame flag that it
finds. -/
theorem run_withFrame {n : Nat} (hn : 0 < n) (s : Machine) (ready : Bool) :
    ({ s with frameReady := ready } : Machine).run n = s.run n := by
  cases n with
  | zero => exact absurd hn (Nat.lt_irrefl 0)
  | succ n => rw [run_succ, run_succ, cycle_withFrame]

/-- A run of cycles can be cut at any place. -/
theorem run_add (s : Machine) (m n : Nat) : s.run (m + n) = s.run m >>= fun u => u.run n := by
  induction m generalizing s with
  | zero => rw [Nat.zero_add]; rfl
  | succ m ih =>
    rw [Nat.succ_add, run_succ, run_succ]
    cases s.cycle with
    | error f => rfl
    | ok u => exact ih u

/-- A run fails with the fault of the first cycle that fails. -/
theorem run_eq_error_iff {n : Nat} {f : Fault} :
    s.run n = .error f ↔ ∃ k < n, ∃ u, s.run k = .ok u ∧ u.cycle = .error f := by
  induction n generalizing s with
  | zero => simp [run]
  | succ n ih =>
    rw [run_succ, bind_eq_error]
    constructor
    -- The first cycle fails, or the others do, and then the first of those is one further on.
    · rintro (hf | ⟨u, hu, hf⟩)
      · exact ⟨0, Nat.zero_lt_succ n, s, rfl, hf⟩
      · obtain ⟨k, hk, v, hv, hf⟩ := ih.1 hf
        exact ⟨k + 1, Nat.succ_lt_succ hk, v, bind_eq_ok.2 ⟨u, hu, hv⟩, hf⟩
    · rintro ⟨k, hk, v, hv, hf⟩
      cases k with
      | zero =>
        cases hv
        exact .inl hf
      | succ k =>
        obtain ⟨u, hu, hv⟩ := bind_eq_ok.1 hv
        exact .inr ⟨u, hu, ih.2 ⟨k, Nat.lt_of_succ_lt_succ hk, v, hv, hf⟩⟩

theorem run_induction {P : Machine → Prop} (hcycle : ∀ s t, P s → s.cycle = .ok t → P t) {n : Nat}
    (hs : P s) (h : s.run n = .ok t) : P t := by
  induction n generalizing s with
  | zero =>
    cases h
    exact hs
  | succ n ih =>
    obtain ⟨u, hu, ht⟩ := bind_eq_ok.1 h
    exact ih (hcycle s u hs hu) ht

/-! ### Runs of events -/

theorem replay_cons (s : Machine) (e : Event) (es : List Event) :
    s.replay (e :: es) = s.apply e >>= fun u => u.replay es := by
  simp only [replay, List.foldlM_cons]

/-- A run can be cut at any place. -/
theorem replay_append (s : Machine) (es fs : List Event) :
    s.replay (es ++ fs) = s.replay es >>= fun u => u.replay fs := by
  simp only [replay, List.foldlM_append]

/-- Two runs in a row are one run. -/
theorem replay_trans {es fs : List Event} (h : s.replay es = .ok t) (h' : t.replay fs = .ok u) :
    s.replay (es ++ fs) = .ok u := by
  rw [replay_append]
  exact bind_eq_ok.2 ⟨t, h, h'⟩

theorem replay_replicate_cycle (s : Machine) (n : Nat) :
    s.replay (List.replicate n .cycle) = s.run n := by
  induction n generalizing s with
  | zero => rfl
  | succ n ih =>
    rw [List.replicate_succ, replay_cons, run_succ]
    show (s.cycle >>= fun u => u.replay (List.replicate n .cycle)) = s.cycle >>= fun u => u.run n
    simp only [ih]

/-! ### The steps of a run -/

/-- One event of a run, with the machine that it found and the one that
it left. -/
structure Step where
  /-- The machine before the event. -/
  before : Machine
  /-- The event. -/
  event : Event
  /-- The machine after the event. -/
  after : Machine

/-- The instruction that was retired, if the step is a cycle. -/
def Step.retired? (st : Step) : Option Instruction :=
  match st.event with
  | .cycle => st.before.current?
  | _ => none

/-- The steps of a run, as far as it succeeds. -/
def steps (s : Machine) : List Event → List Step
  | [] => []
  | e :: es =>
    match s.apply e with
    | .ok t => ⟨s, e, t⟩ :: t.steps es
    | .error _ => []

theorem steps_cons {e : Event} (es : List Event) (h : s.apply e = .ok t) :
    s.steps (e :: es) = ⟨s, e, t⟩ :: t.steps es := by
  rw [steps, h]

/-- A run can be cut at any of its steps. The events before the step lead
to the machine that it finds. -/
theorem exists_of_steps {es : List Event} {done after : List Step} {st : Step}
    (h : s.steps es = done ++ st :: after) :
    ∃ before rest, es = before ++ st.event :: rest ∧ s.replay before = .ok st.before ∧
      s.steps before = done ∧ st.before.apply st.event = .ok st.after := by
  induction es generalizing s done with
  | nil =>
    rw [steps] at h
    exact absurd h (by simp)
  | cons e es ih =>
    rw [steps] at h
    cases hs : s.apply e with
    | error f =>
      rw [hs] at h
      exact absurd h (by simp)
    | ok u =>
      rw [hs] at h
      cases done with
      | nil =>
        cases h
        exact ⟨[], es, rfl, rfl, rfl, hs⟩
      | cons first done =>
        obtain ⟨rfl, htail⟩ := List.cons.inj h
        obtain ⟨before, rest, rfl, hbefore, hdone, happly⟩ := ih htail
        refine ⟨e :: before, rest, rfl, ?_, ?_, happly⟩
        · rw [replay_cons, hs]
          exact hbefore
        · rw [steps_cons before hs, hdone]

/-- What holds of a machine and of no steps, and is kept by each further
step, holds at the end of a run, of the machine there and of the steps
that led to it. -/
theorem replay_steps_induction {R : Machine → List Step → Prop} {es : List Event} (hs : R s [])
    (hstep : ∀ done u e v, R u done → u.apply e = .ok v → R v (done ++ [⟨u, e, v⟩]))
    (h : s.replay es = .ok t) : R t (s.steps es) := by
  -- The induction is on the events to come, for any steps that have gone before.
  suffices hgen : ∀ done, R s done → R t (done ++ s.steps es) from hgen [] hs
  clear hs
  induction es generalizing s with
  | nil =>
    intro done hs
    cases h
    rw [steps, List.append_nil]
    exact hs
  | cons e es ih =>
    intro done hs
    rw [replay_cons] at h
    obtain ⟨u, hu, ht⟩ := bind_eq_ok.1 h
    have hdone := ih ht (done ++ [⟨s, e, u⟩]) (hstep done s e u hs hu)
    rw [steps_cons es hu]
    simpa only [List.append_assoc, List.singleton_append] using hdone

end Chip8.Machine
