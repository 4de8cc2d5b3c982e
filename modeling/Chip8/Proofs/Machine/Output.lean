import Chip8.Proofs.Machine.Frames
import Chip8.Proofs.Machine.Interleaving

/-!
# `Chip8.Proofs.Machine.Output`: what only the host looks at

The sound timer and the frame flag are there for the host, which plays a
tone and shows frames. A program sets both of them, and looks at neither.
So two machines that differ in nothing else go through the same
instructions and fail alike. Their sound timers stay apart until an
instruction sets them, and are equal from then on.

`perform_withSound` says so for one instruction, `cycle_withSound` for
one cycle, and `run_withSound` for any number of cycles: the machine that
is reached differs in the sound timer at most. It follows that both
machines come to their first frame after the same number of cycles
(`cyclesToFrame_withSound`), although the loop that looks for it reads
the frame flag before every cycle.

When a check fails, a batch goes on, and what it reports depends on all
the cycles that it goes through. They too leave a difference in the sound
timer only (`Batch.exists_run_withSound`), and so the same is reported.

The main statement is `runCycles_runWithin_outputs`.
-/

set_option autoImplicit false

namespace Chip8

namespace Machine

variable {s t u : Machine} {v : UInt8}

/-- The machine with `v` in the sound timer. -/
def withSound (s : Machine) (v : UInt8) : Machine := { s with sound := v }

@[simp] theorem withSound_self (s : Machine) : s.withSound s.sound = s := rfl

/-- Whether one of the first `n` cycles comes to an instruction that sets
the sound timer. -/
def setsSound (s : Machine) (n : Nat) : Bool :=
  (s.instructions (.replicate n .cycle)).any (·.footprint.sound)

theorem setsSound_iff {n : Nat} :
    s.setsSound n = true ↔ ∃ x, .setSound x ∈ s.instructions (.replicate n .cycle) := by
  simp only [setsSound, List.any_eq_true]
  constructor
  · rintro ⟨i, hi, hsets⟩
    cases i with
    | setSound x => exact ⟨x, hi⟩
    | _ => cases hsets
  · rintro ⟨x, hx⟩
    exact ⟨_, hx, rfl⟩

theorem setsSound_succ (h : s.cycle = .ok t) (n : Nat) :
    s.setsSound (n + 1) = (s.current?.any (·.footprint.sound) || t.setsSound n) := by
  rw [setsSound, List.replicate_succ, instructions_cycle, h, List.any_append]
  cases s.current? <;> simp [setsSound]

/-! ### The sound timer -/

/-- What an instruction leaves differs in the sound timer at most, and
not even there if the instruction sets it. -/
theorem perform_withSound (s : Machine) (v : UInt8) (i : Instruction) :
    (s.withSound v).perform i
      = (s.perform i).map fun t => t.withSound (if i.footprint.sound then t.sound else v) := by
  have hagree : s.Agrees (s.withSound v) i.reads :=
    ⟨rfl, rfl, rfl, rfl, rfl, fun _ _ => rfl, fun _ => rfl, fun _ => rfl, fun _ => rfl⟩
  rw [perform_of_agrees hagree]
  cases hs : s.perform i with
  | error f => rfl
  | ok t =>
    have hself : t.onto s i.footprint (s.stored i) = t := onto_self hs
    have hsound := congrArg
      (fun t' : Machine => t'.withSound (if i.footprint.sound then t.sound else v)) hself
    exact congrArg Except.ok hsound

theorem current?_withSound (s : Machine) (v : UInt8) : (s.withSound v).current? = s.current? := by
  rw [current?_eq, current?_eq]
  rfl

/-- The same goes for a cycle. -/
theorem cycle_withSound (s : Machine) (v : UInt8) :
    (s.withSound v).cycle = s.cycle.map fun t =>
      t.withSound (if s.current?.any (·.footprint.sound) then t.sound else v) := by
  by_cases hpc : s.pc.toNat + 1 < Memory.size
  · have hcur : s.current? = some (.decode s.word) := current?_eq_some_iff.2 ⟨hpc, rfl⟩
    have hstepped : (s.withSound v).stepped = s.stepped.withSound v := rfl
    rw [cycle_of_current? hcur, cycle_of_current? ((s.current?_withSound v).trans hcur), hstepped,
      execute, execute, perform_withSound, hcur, Option.any_some]
    cases s.stepped.perform (.decode s.word) <;> rfl
  · have hend : Memory.size ≤ s.pc.toNat + 1 := Nat.not_lt.1 hpc
    rw [cycle_of_le hend]
    exact cycle_of_le hend

/-- However long a run, what it leaves differs in the sound timer at most,
and not even there once an instruction has set it. -/
theorem run_withSound (s : Machine) (v : UInt8) (n : Nat) :
    (s.withSound v).run n
      = (s.run n).map fun t => t.withSound (if s.setsSound n then t.sound else v) := by
  induction n generalizing s v with
  | zero => rfl
  | succ n ih =>
    rw [run_succ, run_succ, cycle_withSound]
    cases hs : s.cycle with
    | error f => rfl
    | ok t =>
      simp only [setsSound_succ hs]
      cases s.current?.any (·.footprint.sound) with
      | false => exact ih t v
      | true =>
        -- From here on the two machines are one.
        show t.run n = (t.run n).map fun t' => t'.withSound t'.sound
        cases t.run n <;> rfl

/-- The sound timer stays as it is until an instruction sets it. -/
theorem sound_of_run {n : Nat} (h : s.run n = .ok t) (hkeep : s.setsSound n = false) :
    t.sound = s.sound := by
  have hsame := s.run_withSound s.sound n
  rw [withSound_self, h, hkeep] at hsame
  have hend : t = t.withSound s.sound := Except.ok.inj hsame
  rw [hend]
  rfl

/-- The cycles come to the same instructions. -/
theorem instructions_withSound (s : Machine) (v : UInt8) (n : Nat) :
    (s.withSound v).instructions (.replicate n .cycle)
      = s.instructions (.replicate n .cycle) := by
  induction n generalizing s v with
  | zero => rfl
  | succ n ih =>
    rw [List.replicate_succ, instructions_cycle, instructions_cycle, current?_withSound,
      cycle_withSound]
    cases s.cycle with
    | error f => rfl
    | ok t => exact congrArg _ (ih t _)

theorem instructions_withFrame (s : Machine) (ready : Bool) (n : Nat) :
    ({ s with frameReady := ready } : Machine).instructions (.replicate n .cycle)
      = s.instructions (.replicate n .cycle) := by
  cases n with
  | zero => rfl
  | succ n =>
    rw [List.replicate_succ, instructions_cycle, instructions_cycle, current?_withFrame,
      cycle_withFrame]

/-! ### The cycles up to a frame -/

theorem completesFrameAt_withSound (s : Machine) (v : UInt8) (k : Nat) :
    (s.withSound v).completesFrameAt k = s.completesFrameAt k := by
  rw [completesFrameAt, completesFrameAt, retired?, retired?, run_withSound]
  cases s.run k with
  | error f => rfl
  | ok t =>
    simp only [Except.map, cycle_withSound, current?_withSound]
    cases t.cycle <;> rfl

/-- The first frame comes after the same number of cycles. -/
theorem cyclesToFrame_withSound (s : Machine) (v : UInt8) (budget : Nat) :
    (s.withSound v).cyclesToFrame budget = s.cyclesToFrame budget := by
  have hframes : (s.withSound v).completesFrameAt = s.completesFrameAt :=
    funext (s.completesFrameAt_withSound v)
  rw [cyclesToFrame, cyclesToFrame, hframes]

/-- A run until a frame is complete takes the same number of cycles. -/
theorem runWithin_withSound_of_ok {budget : Int} {n : Nat} (h : s.runWithin budget = .ok (t, n)) :
    (s.withSound v).runWithin budget = .ok
      (t.withSound
        (if ({ s with frameReady := false } : Machine).setsSound n then t.sound else v), n) := by
  obtain ⟨hbudget, hn, hrun⟩ := runWithin_eq_ok_iff.1 h
  have hclear : ({ s.withSound v with frameReady := false } : Machine)
      = ({ s with frameReady := false } : Machine).withSound v := rfl
  refine runWithin_eq_ok_iff.2 ⟨hbudget, ?_, ?_⟩
  · rw [hclear, cyclesToFrame_withSound]
    exact hn
  · rw [hclear, run_withSound, hrun]
    rfl

/-! ### Batches that fail -/

theorem beside_withSound (v : UInt8) : Beside fun s => s.withSound v :=
  ⟨fun _ => rfl, fun _ => rfl, fun _ => rfl, fun _ _ => rfl⟩

end Machine

namespace Batch

/-- A cycle of a batch does not look at the sound timer either, whether it
fails or not. -/
theorem exists_cycle_withSound (b : Batch) (v : UInt8) :
    ∃ v', (b.modify (·.withSound v)).cycle = b.cycle.modify (·.withSound v') := by
  let carried (t : Machine) : Machine :=
    t.withSound (if b.next.footprint.sound then t.sound else v)
  have hperform : (b.fetch.1.modify (·.withSound v)).perform b.next
      = (b.fetch.1.perform b.next).modify carried := by
    refine perform_modify (Machine.beside_withSound v) (Machine.perform_withSound _ v _) ?_ ?_
    · -- The check of an instruction that sets the timer cannot fail.
      intro f hf
      cases hnext : b.next with
      | setSound x =>
        rw [hnext] at hf
        cases hf
      | _ =>
        simp only [carried, hnext]
        rfl
    · intro hret
      funext t
      simp only [carried, hret]
      rfl
  exact ⟨if b.next.footprint.sound then b.cycle.machine.sound else v,
    cycle_modify (Machine.beside_withSound v) (fun _ _ => rfl) hperform⟩

theorem exists_run_withSound (b : Batch) (v : UInt8) (n : Nat) :
    ∃ v', (b.modify (·.withSound v)).run n = (b.run n).modify (·.withSound v') := by
  induction n generalizing b v with
  | zero => exact ⟨v, rfl⟩
  | succ n ih =>
    obtain ⟨v', hcycle⟩ := b.exists_cycle_withSound v
    rw [run, hcycle]
    exact ih b.cycle v'

theorem exists_runToFrame_withSound (b : Batch) (v : UInt8) (count budget : Nat) :
    ∃ v', (b.modify (·.withSound v)).runToFrame count budget
      = ((b.runToFrame count budget).1.modify (·.withSound v'),
          (b.runToFrame count budget).2) := by
  induction budget generalizing b v count with
  | zero => exact ⟨v, rfl⟩
  | succ budget ih =>
    cases hready : b.machine.frameReady with
    | true =>
      have hready' : (b.modify (·.withSound v)).machine.frameReady = true := hready
      rw [runToFrame_of_frameReady hready, runToFrame_of_frameReady hready']
      exact ⟨v, rfl⟩
    | false =>
      have hready' : (b.modify (·.withSound v)).machine.frameReady = false := hready
      obtain ⟨v', hcycle⟩ := b.exists_cycle_withSound v
      rw [runToFrame_succ hready, runToFrame_succ hready', hcycle]
      exact ih b.cycle v' (count + 1)

end Batch

namespace Machine

variable {s t : Machine} {v : UInt8} {e : Error}

/-- A batch that fails reports the same. -/
theorem runCycles_withSound_of_error {n : Int} (h : s.runCycles n = .error e) :
    (s.withSound v).runCycles n = .error e := by
  by_cases hn : n < signedBound 32
  · rw [runCycles_of_lt hn] at h ⊢
    obtain ⟨f, hf, rfl⟩ := mapError_eq_error.1 h
    obtain ⟨v', hrun⟩ := (Batch.start s).exists_run_withSound v n.toNat
    have hstart : (Batch.start (s.withSound v)).run n.toNat = _ := hrun
    rw [hstart, Batch.result_modify, hf]
    rfl
  · rw [runCycles_of_le (Int.not_lt.1 hn)] at h ⊢
    exact h

/-- So does a run until a frame is complete. -/
theorem runWithin_withSound_of_error {budget : Int} (h : s.runWithin budget = .error e) :
    (s.withSound v).runWithin budget = .error e := by
  by_cases hbudget : FitsSigned 32 budget
  · rw [runWithin_of_fits hbudget] at h ⊢
    obtain ⟨f, hf, rfl⟩ := mapError_eq_error.1 h
    obtain ⟨v', hloop⟩ := (Batch.start { s with frameReady := false }).exists_runToFrame_withSound v
      0 budget.toNat
    have hstart : (Batch.start { s.withSound v with frameReady := false }).runToFrame 0 budget.toNat
      = _ := hloop
    rw [hstart, Batch.result_modify]
    cases hresult : ((Batch.start { s with frameReady := false }).runToFrame 0
        budget.toNat).1.result with
    | ok u =>
      rw [hresult] at hf
      cases hf
    | error f' =>
      rw [hresult] at hf
      cases hf
      rfl
  · rw [runWithin, if_neg hbudget] at h ⊢
    exact h

/-! ### Two machines side by side -/

/-- The sound timers of two machines that `n` cycles have led to. At the
start the first timer was that of `s`, and the second one held `v`. -/
structure SoundsAfter (s : Machine) (v : UInt8) (n : Nat) (s' t' : Machine) : Prop where
  /-- Once an instruction has set them they are equal. -/
  equal : (∃ x, .setSound x ∈ s.instructions (.replicate n .cycle)) → t'.sound = s'.sound
  /-- Until then they are as they were. -/
  kept : (∀ x, .setSound x ∉ s.instructions (.replicate n .cycle)) →
    s'.sound = s.sound ∧ t'.sound = v

theorem soundsAfter_of_run {n : Nat} (h : s.run n = .ok t) :
    SoundsAfter s v n t (t.withSound (if s.setsSound n then t.sound else v)) where
  equal hset := by
    rw [setsSound_iff.2 hset]
    rfl
  kept hnone := by
    have hkeep : s.setsSound n = false := by
      rw [← Bool.not_eq_true, setsSound_iff]
      exact not_exists.2 hnone
    rw [hkeep]
    exact ⟨sound_of_run h hkeep, rfl⟩

/-- Two machines that differ in the sound timer and the frame flag only.
Any number of cycles comes to the same instructions in both. A batch fails
with the same fault in both, or leads to two machines that differ in the
sound timer only; a batch without cycles leaves both as they are. A run
until a frame is complete fails with the same fault in both, or takes the
same number of cycles in both, and leads to two machines that differ in
the sound timer only; their frame flags are the same. A batch or a budget
that is too long is refused in both.

After either, the sound timers are equal if an instruction has set them,
and else they are as they were. -/
theorem runCycles_runWithin_outputs (s : Machine) (v : UInt8) (ready : Bool) :
    let t : Machine := { s with sound := v, frameReady := ready }
    (∀ n, t.instructions (.replicate n .cycle) = s.instructions (.replicate n .cycle)) ∧
    (∀ n : Int,
      (∃ e, s.runCycles n = .error e ∧ t.runCycles n = .error e ∧
        (n < signedBound 32 → ∃ f, e = .fault f)) ∨
      ∃ s' t', s.runCycles n = .ok s' ∧ t.runCycles n = .ok t' ∧
        (0 < n → t' = { s' with sound := t'.sound }) ∧ (n ≤ 0 → s' = s ∧ t' = t) ∧
        SoundsAfter s v n.toNat s' t') ∧
    ∀ budget : Int,
      (∃ e, s.runWithin budget = .error e ∧ t.runWithin budget = .error e ∧
        (FitsSigned 32 budget → ∃ f, e = .fault f)) ∨
      ∃ s' t' c, s.runWithin budget = .ok (s', c) ∧ t.runWithin budget = .ok (t', c) ∧
        t' = { s' with sound := t'.sound } ∧ t'.frameReady = s'.frameReady ∧
        SoundsAfter s v c s' t' := by
  intro t
  refine ⟨fun n => ?_, fun n => ?_, fun budget => ?_⟩
  · exact (instructions_withFrame (s.withSound v) ready n).trans (s.instructions_withSound v n)
  · by_cases hpos : 0 < n
    · -- The first cycle writes the flag anew.
      have hflag : t.runCycles n = (s.withSound v).runCycles n :=
        runCycles_withFrame hpos (s.withSound v) ready
      rw [hflag]
      cases hs : s.runCycles n with
      | error e =>
        exact .inl ⟨e, rfl, runCycles_withSound_of_error hs, fun hn => fault_of_runCycles hn hs⟩
      | ok s' =>
        obtain ⟨hn, hrun⟩ := runCycles_eq_ok_iff.1 hs
        refine .inr ⟨s', _, rfl, runCycles_eq_ok_iff.2 ⟨hn, ?_⟩, fun _ => rfl,
          fun hle => by omega, soundsAfter_of_run hrun⟩
        rw [run_withSound, hrun]
        rfl
    · have hzero : n.toNat = 0 := by omega
      have hnone : ∀ u : Machine, u.runCycles n = .ok u := fun u =>
        runCycles_eq_ok_iff.2 ⟨Int.lt_of_le_of_lt (Int.not_lt.1 hpos) (by decide), by rw [hzero]; rfl⟩
      rw [hzero]
      exact .inr ⟨s, t, hnone s, hnone t, fun h => absurd h hpos, fun _ => ⟨rfl, rfl⟩,
        nofun, fun _ => ⟨rfl, rfl⟩⟩
  · have hflag : t.runWithin budget = (s.withSound v).runWithin budget := rfl
    rw [hflag]
    cases hs : s.runWithin budget with
    | error e =>
      refine .inl ⟨e, rfl, runWithin_withSound_of_error hs, fun hbudget => ?_⟩
      rw [runWithin_of_fits hbudget] at hs
      obtain ⟨f, -, rfl⟩ := mapError_eq_error.1 hs
      exact ⟨f, rfl⟩
    | ok r =>
      obtain ⟨s', c⟩ := r
      obtain ⟨-, -, hcycles⟩ := runWithin_eq_ok_iff.1 hs
      obtain ⟨hequal, hkept⟩ := soundsAfter_of_run (v := v) hcycles
      rw [instructions_withFrame] at hequal hkept
      exact .inr ⟨s', _, c, rfl, runWithin_withSound_of_ok hs, rfl, rfl, hequal, hkept⟩

/-- A program sets the sound timer to 5 and clears the screen. One machine
starts with the timer at 9 and the frame flag set, the other does not.
After one cycle the timers are still apart, and when the first frame is
complete the two machines are one. -/
theorem runCycles_runWithin_outputs_tone :
    ∃ s s' t' u, (boot ⟨0, 0⟩).load [0x60, 0x05, 0xF0, 0x18, 0x00, 0xE0] = .ok s ∧
      s.runCycles 1 = .ok s' ∧ s'.sound = 0 ∧
      { s with sound := 9, frameReady := true }.runCycles 1 = .ok t' ∧
      t' = { s' with sound := 9 } ∧ s.runWithin 5 = .ok (u, 3) ∧
      { s with sound := 9, frameReady := true }.runWithin 5 = .ok (u, 3) := by
  have hcheck : ((boot ⟨0, 0⟩).load [0x60, 0x05, 0xF0, 0x18, 0x00, 0xE0]).toOption.any
      (fun s => s.sound == 0 && s.instructions (.replicate 1 .cycle) == [.setByte 0 5] &&
        (s.runCycles 1).toOption.any (fun _ => true) &&
        s.instructions (.replicate 3 .cycle) == [.setByte 0 5, .setSound 0, .clear] &&
        (s.runWithin 5).toOption.any (fun r => r.2 == 3)) = true := by
    decide +kernel
  obtain ⟨s, hload, hcheck⟩ := ok_of_any hcheck
  simp only [Bool.and_eq_true, beq_iff_eq] at hcheck
  obtain ⟨⟨⟨⟨hsound, hfirst⟩, hone⟩, hinstr⟩, hwithin⟩ := hcheck
  obtain ⟨s', hs', -⟩ := ok_of_any hone
  obtain ⟨r, hr, hcount⟩ := ok_of_any hwithin
  obtain ⟨-, hbatch, hbudget⟩ := runCycles_runWithin_outputs s 9 true
  obtain ⟨e, he, -⟩ | ⟨a, t', ha, ht', hagree, -, -, hkept⟩ := hbatch 1
  · cases hs'.symm.trans he
  cases hs'.symm.trans ha
  obtain ⟨e, he, -⟩ | ⟨u, u', c, hu, hu', hsame, -, hequal, -⟩ := hbudget 5
  · cases hr.symm.trans he
  cases hr.symm.trans hu
  obtain rfl : c = 3 := beq_iff_eq.1 hcount
  obtain ⟨hs₁, ht₁⟩ : s'.sound = s.sound ∧ t'.sound = 9 := by
    refine hkept fun x => ?_
    show .setSound x ∉ s.instructions (.replicate 1 .cycle)
    rw [hfirst]
    simp
  have htone : u'.sound = u.sound := by
    refine hequal ⟨0, ?_⟩
    rw [hinstr]
    simp
  refine ⟨s, s', t', u, hload, hs', hs₁.trans hsound, ht', ?_, hu, ?_⟩
  · rw [← ht₁]
    exact hagree (by decide)
  · rw [htone] at hsame
    rw [hu', hsame]

end Machine

end Chip8
