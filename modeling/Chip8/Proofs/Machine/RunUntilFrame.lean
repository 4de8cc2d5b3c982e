import Chip8.Proofs.Machine.Host
import Chip8.Proofs.Machine.Replay

/-!
# `Chip8.Proofs.Machine.RunUntilFrame`: running until a frame is complete

`Batch.runToFrame` looks at the frame flag before every cycle, and every
instruction writes that flag. Here the same is said without the loop.
`Machine.cyclesToFrame` is the number of cycles up to the first retired
instruction that completes a frame, or the whole budget if there is none.
If none of these cycles fails, the loop carries out just so many
(`Batch.start_runToFrame_of_ok`). If one of them does, the loop goes on
behind it (`Batch.start_runToFrame_of_lt`), to the first instruction that
completes a frame or to the end of the budget.

`runWithin_toFrame` states it for the budgets of a host, with what follows
for the flag and the faults, and with the law that a budget may be spent
in two parts (`Batch.runToFrame_add`). A fault may be hidden by one that
comes after it (`runWithin_hides_fault`).
-/

set_option autoImplicit false

namespace Chip8

namespace Machine

variable {s t : Machine}

/-! ### The cycles up to a frame -/

/-- The instruction that the cycle after the first `k` retires, if none of
these cycles fails. -/
def retired? (s : Machine) (k : Nat) : Option Instruction :=
  match s.run k with
  | .error _ => none
  | .ok u =>
    match u.cycle with
    | .error _ => none
    | .ok _ => u.current?

/-- Whether the cycle after the first `k` retires an instruction that
completes a frame. -/
def completesFrameAt (s : Machine) (k : Nat) : Bool := (s.retired? k).any (·.completesFrame)

/-- The number of cycles up to the first frame, or all of the budget if no
frame is completed within it. -/
def cyclesToFrame (s : Machine) (budget : Nat) : Nat :=
  match (List.range budget).find? s.completesFrameAt with
  | some k => k + 1
  | none => budget

/-- The frame flag tells what the last instruction was. -/
theorem frameReady_of_cycle (h : s.cycle = .ok t) : t.frameReady = s.completesFrameAt 0 := by
  obtain ⟨i, hcur, hexec⟩ := current?_of_cycle h
  obtain ⟨u, -, rfl⟩ := execute_eq_ok_iff.1 hexec
  simp only [completesFrameAt, retired?, run, h, hcur, Option.any_some]

theorem completesFrameAt_succ (h : s.cycle = .ok t) (k : Nat) :
    s.completesFrameAt (k + 1) = t.completesFrameAt k := by
  rw [completesFrameAt, completesFrameAt, retired?, retired?, run_of_cycle h]

/-- The cycle after the first `n` is the first cycle of the machine that
they lead to. -/
theorem completesFrameAt_of_run {n : Nat} (h : s.run n = .ok t) :
    s.completesFrameAt n = t.completesFrameAt 0 := by
  rw [completesFrameAt, completesFrameAt, retired?, retired?, h]
  rfl

/-- The cycles up to a frame are either the cycles up to the first
instruction that completes one, or the whole budget. -/
theorem cyclesToFrame_cases (s : Machine) (budget : Nat) :
    (∃ k < budget, s.cyclesToFrame budget = k + 1 ∧ s.completesFrameAt k = true ∧
        ∀ j < k, s.completesFrameAt j = false) ∨
      s.cyclesToFrame budget = budget ∧ ∀ k < budget, s.completesFrameAt k = false := by
  rw [cyclesToFrame]
  cases hfind : (List.range budget).find? s.completesFrameAt with
  | some k =>
    obtain ⟨hk, hmem, hbefore⟩ := List.find?_range_eq_some.1 hfind
    refine .inl ⟨k, List.mem_range.1 hmem, rfl, hk, fun j hj => ?_⟩
    exact Bool.eq_false_iff.2 (by simpa using hbefore j hj)
  | none =>
    refine .inr ⟨rfl, fun k hk => ?_⟩
    exact Bool.eq_false_iff.2 (by simpa using List.find?_range_eq_none.1 hfind k hk)

theorem cyclesToFrame_pos (s : Machine) {budget : Nat} (h : 0 < budget) :
    0 < s.cyclesToFrame budget := by
  rcases s.cyclesToFrame_cases budget with ⟨k, -, hc, -⟩ | ⟨hc, -⟩ <;> omega

theorem cyclesToFrame_le (s : Machine) (budget : Nat) : s.cyclesToFrame budget ≤ budget := by
  rcases s.cyclesToFrame_cases budget with ⟨k, hk, hc, -⟩ | ⟨hc, -⟩ <;> omega

theorem cyclesToFrame_eq_succ {budget k : Nat} (hk : k < budget)
    (hframe : s.completesFrameAt k = true) (hbefore : ∀ j < k, s.completesFrameAt j = false) :
    s.cyclesToFrame budget = k + 1 := by
  have hfind : (List.range budget).find? s.completesFrameAt = some k :=
    List.find?_range_eq_some.2
      ⟨hframe, List.mem_range.2 hk, fun j hj => by rw [hbefore j hj]; rfl⟩
  rw [cyclesToFrame, hfind]

theorem cyclesToFrame_eq_budget {budget : Nat}
    (h : ∀ k < budget, s.completesFrameAt k = false) : s.cyclesToFrame budget = budget := by
  have hfind : (List.range budget).find? s.completesFrameAt = none :=
    List.find?_range_eq_none.2 fun k hk => by rw [h k hk]; rfl
  rw [cyclesToFrame, hfind]

/-- Without a frame in the first cycle, the first frame after it is the
first one. -/
theorem cyclesToFrame_succ (h : s.cycle = .ok t) (hnone : s.completesFrameAt 0 = false)
    (budget : Nat) : s.cyclesToFrame (budget + 1) = t.cyclesToFrame budget + 1 := by
  -- What holds of the instructions after the first cycle holds with it, one place further on.
  have hbefore : ∀ {k}, (∀ j < k, t.completesFrameAt j = false) →
      ∀ j < k + 1, s.completesFrameAt j = false := by
    intro k hk j hj
    cases j with
    | zero => exact hnone
    | succ j => rw [completesFrameAt_succ h, hk j (Nat.lt_of_succ_lt_succ hj)]
  rcases t.cyclesToFrame_cases budget with ⟨k, hk, hc, hframe, hfirst⟩ | ⟨hc, hall⟩
  · rw [hc]
    refine cyclesToFrame_eq_succ (Nat.succ_lt_succ hk) ?_ (hbefore hfirst)
    rw [completesFrameAt_succ h, hframe]
  · rw [hc]
    exact cyclesToFrame_eq_budget (hbefore hall)

/-- The flag at the end of a run of cycles that started with it clear. -/
theorem frameReady_of_run {n : Nat} (hs : s.frameReady = false) (h : s.run n = .ok t) :
    t.frameReady = true ↔ ∃ k, n = k + 1 ∧ s.completesFrameAt k = true := by
  cases n with
  | zero =>
    cases h
    simp [hs]
  | succ n =>
    rw [run_add] at h
    obtain ⟨u, hu, ht⟩ := bind_eq_ok.1 h
    obtain ⟨v, hv, hvt⟩ := bind_eq_ok.1 ht
    cases hvt
    rw [frameReady_of_cycle hv, ← completesFrameAt_of_run hu]
    constructor
    · exact fun hframe => ⟨n, rfl, hframe⟩
    · rintro ⟨k, hk, hframe⟩
      cases hk
      exact hframe

/-- A run that retires an instruction after `k` cycles has a machine after
one more. -/
theorem run_of_completesFrameAt {k : Nat} (h : s.completesFrameAt k = true) :
    ∃ t, s.run (k + 1) = .ok t := by
  rw [completesFrameAt, retired?] at h
  rw [run_add]
  cases hu : s.run k with
  | error f =>
    rw [hu] at h
    cases h
  | ok u =>
    rw [hu] at h
    cases ht : u.cycle with
    | error f =>
      simp only [ht] at h
      cases h
    | ok t => exact ⟨t, bind_eq_ok.2 ⟨u, rfl, bind_eq_ok.2 ⟨t, ht, rfl⟩⟩⟩

end Machine

/-! ### The loop and the run -/

namespace Batch

variable {b : Batch} {s t : Machine} {f : Fault}

theorem runToFrame_of_frameReady (h : b.machine.frameReady = true) (count budget : Nat) :
    b.runToFrame count budget = (b, count) := by
  cases budget with
  | zero => rfl
  | succ budget => rw [runToFrame, if_pos h]

theorem runToFrame_succ (h : b.machine.frameReady = false) (count budget : Nat) :
    b.runToFrame count (budget + 1) = b.cycle.runToFrame (count + 1) budget := by
  rw [runToFrame, h]
  rfl

/-- From a clear flag the loop carries out the cycles up to a frame, if
none of them fails. -/
theorem start_runToFrame_of_ok (hs : s.frameReady = false) {budget : Nat}
    (h : s.run (s.cyclesToFrame budget) = .ok t) (count : Nat) :
    (start s).runToFrame count budget = (start t, count + s.cyclesToFrame budget) := by
  -- The first cycle completes a frame, or leaves a clear flag to the rest of the loop.
  induction budget generalizing s count with
  | zero =>
    cases h
    rfl
  | succ budget ih =>
    rw [runToFrame_succ hs]
    cases hcycle : s.cycle with
    | error f =>
      have hpos := s.cyclesToFrame_pos (Nat.zero_lt_succ budget)
      rw [← Nat.sub_add_cancel hpos, Machine.run_of_cycle_eq_error hcycle] at h
      cases h
    | ok u =>
      have hflag := Machine.frameReady_of_cycle hcycle
      rw [start_cycle_of_ok hcycle]
      cases hready : u.frameReady with
      | true =>
        have hone : s.cyclesToFrame (budget + 1) = 0 + 1 :=
          Machine.cyclesToFrame_eq_succ (Nat.zero_lt_succ _) (hflag.symm.trans hready) nofun
        rw [hone, Machine.run_of_cycle hcycle] at h
        cases h
        rw [hone]
        exact runToFrame_of_frameReady hready _ _
      | false =>
        have hmore : s.cyclesToFrame (budget + 1) = u.cyclesToFrame budget + 1 :=
          Machine.cyclesToFrame_succ hcycle (hflag.symm.trans hready) budget
        rw [hmore, Machine.run_of_cycle hcycle] at h
        rw [ih hready h, hmore, Nat.add_right_comm, Nat.add_assoc]

/-- The loop goes on from any of these cycles, whether it fails or not. -/
theorem start_runToFrame_of_lt (hs : s.frameReady = false) {budget k : Nat}
    (hk : k < s.cyclesToFrame budget) (h : s.run k = .ok t) (count : Nat) :
    (start s).runToFrame count budget
      = (start t).cycle.runToFrame (count + (k + 1)) (budget - (k + 1)) := by
  -- The cycles before it complete no frame, or else they would be all.
  induction budget generalizing s k count with
  | zero => cases hk
  | succ budget ih =>
    rw [runToFrame_succ hs]
    cases k with
    | zero =>
      cases h
      rfl
    | succ k =>
      obtain ⟨u, hu, ht⟩ := bind_eq_ok.1 h
      have hflag := Machine.frameReady_of_cycle hu
      have hready : u.frameReady = false := by
        rw [← Bool.not_eq_true]
        intro hready
        have hone : s.cyclesToFrame (budget + 1) = 0 + 1 :=
          Machine.cyclesToFrame_eq_succ (Nat.zero_lt_succ _) (hflag.symm.trans hready) nofun
        omega
      have hmore : s.cyclesToFrame (budget + 1) = u.cyclesToFrame budget + 1 :=
        Machine.cyclesToFrame_succ hu (hflag.symm.trans hready) budget
      rw [start_cycle_of_ok hu, ih hready (by omega) ht, Nat.succ_sub_succ]
      congr 1
      omega

/-- The cycles that have gone before are only added. -/
theorem runToFrame_count (b : Batch) (count budget : Nat) :
    b.runToFrame count budget
      = ((b.runToFrame 0 budget).1, count + (b.runToFrame 0 budget).2) := by
  induction budget generalizing b count with
  | zero => rfl
  | succ budget ih =>
    cases hready : b.machine.frameReady with
    | true => rw [runToFrame_of_frameReady hready, runToFrame_of_frameReady hready]; rfl
    | false =>
      rw [runToFrame_succ hready, runToFrame_succ hready, ih, ih b.cycle (0 + 1)]
      rw [Nat.zero_add, Nat.add_assoc]

/-- A budget may be spent in two parts. -/
theorem runToFrame_add (b : Batch) (count m n : Nat) :
    b.runToFrame count (m + n)
      = (b.runToFrame count m).1.runToFrame (b.runToFrame count m).2 n := by
  induction m generalizing b count with
  | zero => rw [Nat.zero_add]; rfl
  | succ m ih =>
    rw [Nat.succ_add]
    cases hready : b.machine.frameReady with
    | true =>
      -- The loop stops in the first part, and the second part finds the flag still set.
      rw [runToFrame_of_frameReady hready, runToFrame_of_frameReady hready]
      exact (runToFrame_of_frameReady hready count n).symm
    | false =>
      rw [runToFrame_succ hready, runToFrame_succ hready]
      exact ih b.cycle (count + 1)

/-- A loop that carries out no cycle leaves the batch as it is. -/
theorem runToFrame_fst_of_snd {budget : Nat} (h : (b.runToFrame 0 budget).2 = 0) :
    (b.runToFrame 0 budget).1 = b := by
  cases budget with
  | zero => rfl
  | succ budget =>
    cases hready : b.machine.frameReady with
    | true => rw [runToFrame_of_frameReady hready]
    | false =>
      rw [runToFrame_succ hready, runToFrame_count] at h
      omega

/-- The first cycle up to a frame that fails. -/
theorem failedAt_runToFrame (hs : s.frameReady = false) {budget k : Nat}
    (hk : k < s.cyclesToFrame budget) (h : s.run k = .ok t) (hf : t.cycle = .error f) :
    ∃ first reported, ((start s).runToFrame 0 budget).1.FailedAt t first reported ∧
      first.fault = f ∧ (((start s).runToFrame 0 budget).2 = k + 1 → reported = first) := by
  have hloop := start_runToFrame_of_lt hs hk h 0
  rw [Nat.zero_add, runToFrame_count (start t).cycle] at hloop
  rw [hloop]
  obtain ⟨first, reported, hfailed, hfault⟩ :=
    failedAt_of_prefix hf ((start t).cycle.prefix_runToFrame 0 (budget - (k + 1)))
  refine ⟨first, reported, hfailed, hfault, fun hlast => ?_⟩
  rw [runToFrame_fst_of_snd (by simpa using hlast)] at hfailed
  exact FailedAt.reported_eq_of_cycle hf hfailed

end Batch

namespace Machine

variable {s t : Machine}

/-! ### Running within a budget -/

theorem runWithin_of_fits {budget : Int} (h : FitsSigned 32 budget) :
    let loop := (Batch.start { s with frameReady := false }).runToFrame 0 budget.toNat
    s.runWithin budget = (loop.1.result.map fun t => (t, loop.2)).mapError .fault := by
  rw [runWithin, if_pos h]

/-- With a budget that can be counted nothing but the program can go
wrong. -/
theorem fault_of_runWithin {budget : Int} {e : Error} (hbudget : FitsSigned 32 budget)
    (h : s.runWithin budget = .error e) : ∃ f, e = .fault f := by
  rw [runWithin_of_fits hbudget] at h
  obtain ⟨f, -, rfl⟩ := mapError_eq_error.1 h
  exact ⟨f, rfl⟩

/-- A run until a frame is complete succeeds just if the cycles up to a
frame do, and gives the machine that they lead to and their number. -/
theorem runWithin_eq_ok_iff {budget : Int} {c : Nat} :
    s.runWithin budget = .ok (t, c) ↔
      FitsSigned 32 budget ∧
        c = ({ s with frameReady := false } : Machine).cyclesToFrame budget.toNat ∧
        ({ s with frameReady := false } : Machine).run c = .ok t := by
  by_cases hbudget : FitsSigned 32 budget
  · rw [runWithin_of_fits hbudget, and_iff_right hbudget]
    generalize hs₀ : ({ s with frameReady := false } : Machine) = s₀
    have hflag : s₀.frameReady = false := by rw [← hs₀]
    cases hrun : s₀.run (s₀.cyclesToFrame budget.toNat) with
    | ok u =>
      rw [Batch.start_runToFrame_of_ok hflag hrun, Nat.zero_add]
      constructor
      · intro h
        cases h
        exact ⟨rfl, hrun⟩
      · rintro ⟨rfl, h⟩
        cases hrun.symm.trans h
        rfl
    | error f =>
      obtain ⟨k, hk, u, hu, hf⟩ := run_eq_error_iff.1 hrun
      obtain ⟨first, reported, hfailed, -⟩ := Batch.failedAt_runToFrame hflag hk hu hf
      rw [hfailed.result_eq]
      refine iff_of_false nofun ?_
      rintro ⟨rfl, h⟩
      cases hrun.symm.trans h
  · rw [runWithin, if_neg hbudget]
    exact iff_of_false nofun fun h => hbudget h.1

/-- If one of the cycles up to a frame fails, so does the run. It reports
the failure of the first such cycle, or that of a check at a lower
place. -/
theorem runWithin_of_cycle {budget : Int} (hbudget : FitsSigned 32 budget) {k : Nat} {f : Fault}
    (hk : k < ({ s with frameReady := false } : Machine).cyclesToFrame budget.toNat)
    (h : ({ s with frameReady := false } : Machine).run k = .ok t) (hf : t.cycle = .error f) :
    let loop := (Batch.start { s with frameReady := false }).runToFrame 0 budget.toNat
    ∃ first reported, loop.1.FailedAt t first reported ∧ first.fault = f ∧
      s.runWithin budget = .error (.fault reported.fault) ∧
      (loop.2 = k + 1 → reported = first) := by
  intro loop
  obtain ⟨first, reported, hfailed, hfault, hlast⟩ := Batch.failedAt_runToFrame rfl hk h hf
  refine ⟨first, reported, hfailed, hfault, ?_, hlast⟩
  rw [runWithin_of_fits hbudget, hfailed.result_eq]
  rfl

/-- A run until a frame is complete fails just if one of the cycles up to
the frame does. -/
theorem runWithin_fails_iff {budget : Int} (hbudget : FitsSigned 32 budget) :
    (∃ e, s.runWithin budget = .error e) ↔
      ∃ k < ({ s with frameReady := false } : Machine).cyclesToFrame budget.toNat, ∃ t f,
        ({ s with frameReady := false } : Machine).run k = .ok t ∧ t.cycle = .error f := by
  constructor
  · rintro ⟨e, he⟩
    cases hrun : ({ s with frameReady := false } : Machine).run
        (({ s with frameReady := false } : Machine).cyclesToFrame budget.toNat) with
    | ok u => cases he.symm.trans (runWithin_eq_ok_iff.2 ⟨hbudget, rfl, hrun⟩)
    | error f =>
      obtain ⟨k, hk, t, ht, hf⟩ := run_eq_error_iff.1 hrun
      exact ⟨k, hk, t, f, ht, hf⟩
  · rintro ⟨k, hk, t, f, ht, hf⟩
    obtain ⟨first, reported, -, -, herror, -⟩ := runWithin_of_cycle hbudget hk ht hf
    exact ⟨_, herror⟩

/-- If the first part of a budget completes no frame, the second part goes
on where it has stopped. -/
theorem runWithin_add {b₁ b₂ : Int} {c₁ : Nat} (h₁ : 0 ≤ b₁) (h₂ : 0 ≤ b₂)
    (hsum : FitsSigned 32 (b₁ + b₂)) (h : s.runWithin b₁ = .ok (t, c₁))
    (ht : t.frameReady = false) :
    s.runWithin (b₁ + b₂) = (t.runWithin b₂).map fun r => (r.1, c₁ + r.2) := by
  have hfits : FitsSigned 32 b₂ := by
    rw [FitsSigned] at hsum ⊢
    omega
  have hclear : ({ t with frameReady := false } : Machine) = t := by rw [← ht]
  obtain ⟨-, rfl, hrun⟩ := runWithin_eq_ok_iff.1 h
  have hfirst := Batch.start_runToFrame_of_ok rfl hrun 0
  rw [Nat.zero_add] at hfirst
  rw [runWithin_of_fits hsum, runWithin_of_fits hfits, Int.toNat_add h₁ h₂, Batch.runToFrame_add,
    hfirst, Batch.runToFrame_count, hclear]
  cases ((Batch.start t).runToFrame 0 b₂.toNat).1.result <;> rfl

/-- Let `c` be the number of cycles up to the first instruction that
clears the screen or draws, or the whole budget if none is retired within
it; a negative budget counts as zero. If none of the first `c` cycles
fails, running until a frame is complete gives the machine that they lead
to and `c`, and the frame flag is then set just if a frame was completed.
The cycles that would follow the frame are not looked at. If one of the
`c` cycles fails, so does the run, and it fails in no other case. It goes
on behind the failing cycle. The fault is that of this cycle, or that of a
check at a lower place which fails later in the loop; if the loop ends
with this cycle it is the first. The flag of the machine that the run
starts from does not matter.

A budget may be spent in two parts: if the first part completes no frame,
the run with the second part goes on where the first has stopped, and it
fails alike. -/
theorem runWithin_toFrame (s : Machine) (budget : Int) (hbudget : FitsSigned 32 budget) :
    let s₀ : Machine := { s with frameReady := false }
    let c := s₀.cyclesToFrame budget.toNat
    let loop := (Batch.start s₀).runToFrame 0 budget.toNat
    ((∃ k : Nat, k < budget ∧ c = k + 1 ∧ s₀.completesFrameAt k = true ∧
          ∀ j < k, s₀.completesFrameAt j = false) ∨
        c = max budget 0 ∧ ∀ k : Nat, k < budget → s₀.completesFrameAt k = false) ∧
      (∀ t, s₀.run c = .ok t → s.runWithin budget = .ok (t, c)) ∧
      (∀ t n, s.runWithin budget = .ok (t, n) → n = c ∧ s₀.run c = .ok t ∧
        (t.frameReady = true ↔ ∃ k, c = k + 1 ∧ s₀.completesFrameAt k = true)) ∧
      ((∃ e, s.runWithin budget = .error e) ↔
        ∃ k < c, ∃ t f, s₀.run k = .ok t ∧ t.cycle = .error f) ∧
      (∀ k < c, ∀ t f, s₀.run k = .ok t → t.cycle = .error f →
        ∃ first reported, loop.1.FailedAt t first reported ∧ first.fault = f ∧
          s.runWithin budget = .error (.fault reported.fault) ∧
          (loop.2 = k + 1 → reported = first)) ∧
      (∀ k, c = k + 1 → s₀.completesFrameAt k = true → ∃ t, s.runWithin budget = .ok (t, c)) ∧
      (∀ flag, ({ s with frameReady := flag } : Machine).runWithin budget = s.runWithin budget) ∧
      ∀ b₁ b₂ s₁ c₁, 0 ≤ b₁ → 0 ≤ b₂ → b₁ + b₂ = budget → s.runWithin b₁ = .ok (s₁, c₁) →
        s₁.frameReady = false →
        s.runWithin budget = (s₁.runWithin b₂).map fun r => (r.1, c₁ + r.2) := by
  intro s₀ c loop
  have hok : ∀ t, s₀.run c = .ok t → s.runWithin budget = .ok (t, c) :=
    fun t ht => runWithin_eq_ok_iff.2 ⟨hbudget, rfl, ht⟩
  refine ⟨?_, hok, ?_, runWithin_fails_iff hbudget,
    fun k hk t f => runWithin_of_cycle hbudget hk, ?_, fun _ => rfl, ?_⟩
  -- the number of cycles
  · rcases s₀.cyclesToFrame_cases budget.toNat with ⟨k, hk, hc, hframe, hfirst⟩ | ⟨hc, hall⟩
    · exact .inl ⟨k, by omega, hc, hframe, hfirst⟩
    · exact .inr ⟨by omega, fun k hk => hall k (by omega)⟩
  -- the flag
  · intro t n h
    obtain ⟨-, rfl, hend⟩ := runWithin_eq_ok_iff.1 h
    exact ⟨rfl, hend, frameReady_of_run rfl hend⟩
  -- no fault that comes after the frame
  · intro k hk hframe
    obtain ⟨t, ht⟩ := run_of_completesFrameAt hframe
    exact ⟨t, hok t (hk ▸ ht)⟩
  -- two parts
  · rintro b₁ b₂ s₁ c₁ h₁ h₂ rfl hfirst hflag
    exact runWithin_add h₁ h₂ hbudget hfirst hflag

/-- The screen is cleared first. The return without a call that follows
is a fault, but a run until a frame is complete does not come to it. -/
theorem runWithin_toFrame_clear :
    let rom : Rom := [0x00, 0xE0, 0x00, 0xEE]
    FitsSigned 32 2 ∧ ∃ s t, (boot (.ofSeed 0)).load rom = .ok s ∧ s.runWithin 2 = .ok (t, 1) ∧
      t.frameReady = true ∧ ∃ f, s.run 2 = .error f := by
  intro rom
  have hfits : FitsSigned 32 2 := by decide
  have hcheck : ((boot (.ofSeed 0)).load rom).toOption.any (fun s =>
      ({ s with frameReady := false } : Machine).completesFrameAt 0 &&
        (s.run 2).toOption.isNone) = true := by
    decide +kernel
  obtain ⟨s, hs, hs'⟩ := ok_of_any hcheck
  obtain ⟨hframe, hfault⟩ := Bool.and_eq_true_iff.1 hs'
  have hone : ({ s with frameReady := false } : Machine).cyclesToFrame 2 = 1 :=
    cyclesToFrame_eq_succ (Nat.zero_lt_succ 1) hframe nofun
  obtain ⟨-, -, hflag, -, -, hok, -, -⟩ := runWithin_toFrame s 2 hfits
  obtain ⟨t, ht⟩ := hok 0 hone hframe
  have hready : t.frameReady = true := (hflag t _ ht).2.2.2 ⟨0, hone, hframe⟩
  refine ⟨hfits, s, t, hs, hone ▸ ht, hready, ?_⟩
  cases hrun : s.run 2 with
  | error f => exact ⟨f, rfl⟩
  | ok u =>
    rw [hrun] at hfault
    cases hfault

/-- The program points the index register at the last byte of memory,
stores two registers there, and returns without a call. One at a time, the
second cycle fails, and the third is never come to. A run until a frame is
complete comes to it, and reports its fault instead. -/
theorem runWithin_hides_fault :
    (∃ s t, (boot ⟨0, 0⟩).load [0xAF, 0xFF, 0xF1, 0x55, 0x00, 0xEE] = .ok s ∧
      s.frameReady = false ∧ s.run 1 = .ok t ∧ t.cycle = .error (.accessOutOfRange 0xFFF 2) ∧
      s.runWithin 2 = .error (.fault (.accessOutOfRange 0xFFF 2)) ∧
      s.runWithin 3 = .error (.fault .stackUnderflow)) ∧
    ¬ ∀ (s : Machine) (budget : Int) (f : Fault), FitsSigned 32 budget →
      (s.runWithin budget = .error (.fault f) ↔
        ∃ k < ({ s with frameReady := false } : Machine).cyclesToFrame budget.toNat, ∃ t,
          ({ s with frameReady := false } : Machine).run k = .ok t ∧ t.cycle = .error f) := by
  have hcheck : ((boot ⟨0, 0⟩).load [0xAF, 0xFF, 0xF1, 0x55, 0x00, 0xEE]).toOption.any (fun s =>
      (s.run 1).toOption.any fun t => !s.frameReady &&
        error? t.cycle == some (.accessOutOfRange 0xFFF 2) &&
        error? (s.runWithin 2) == some (.fault (.accessOutOfRange 0xFFF 2)) &&
        error? (s.runWithin 3) == some (.fault .stackUnderflow)) = true := by
    decide +kernel
  obtain ⟨s, hload, hcheck⟩ := ok_of_any hcheck
  obtain ⟨t, ht, hcheck⟩ := ok_of_any hcheck
  simp only [Bool.and_eq_true, Bool.not_eq_true', beq_iff_eq, error?_eq_some_iff] at hcheck
  obtain ⟨⟨⟨hready, hfault⟩, htwo⟩, hthree⟩ := hcheck
  refine ⟨⟨s, t, hload, hready, ht, hfault, htwo, hthree⟩, fun hclaim => ?_⟩
  have hclear : ({ s with frameReady := false } : Machine) = s := by rw [← hready]
  obtain ⟨k, hk, u, hu, hunder⟩ := (hclaim s 3 .stackUnderflow (by decide)).1 hthree
  rw [hclear] at hk hu
  -- One at a time, the three cycles have one first fault.
  have hle : s.cyclesToFrame 3 ≤ 3 := s.cyclesToFrame_le 3
  have hfirst : s.run 3 = .error (.accessOutOfRange 0xFFF 2) :=
    run_eq_error_iff.2 ⟨1, by decide, t, ht, hfault⟩
  have hother : s.run 3 = .error .stackUnderflow :=
    run_eq_error_iff.2 ⟨k, Nat.lt_of_lt_of_le hk hle, u, hu, hunder⟩
  cases hfirst.symm.trans hother

end Machine

end Chip8
