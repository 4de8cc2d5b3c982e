import Chip8.Proofs.Machine.Faults
import Chip8.Proofs.Session.Console

/-!
# `Chip8.Proofs.Session.RunFrames`: a run of frames and its machine

A run of frames is a command of a session, with a progress bar in front
and a summary behind. What it does to the machine is known without a
session: `Machine.runFrames` runs the frames one after the other, and
`Machine.playFrames` makes sure beforehand that the bar can be described
and, if there is one, drawn. Frames that go well are a run of events
(`Machine.runFrames_eq_ok_iff`).

`Session.perform_runFrames` shows that this is what a session does, and
`Console.reported_runFrames` that it is what a console reports, unless all
frames were run and the number of their cycles is too large for the
summary.
-/

set_option autoImplicit false

namespace Chip8

/-! ### The machine -/

namespace Machine

/-- The events of `n` frames of `c` cycles: the cycles of each, and then a
tick of the timers. -/
def frameEvents (c n : Nat) : List Event :=
  (List.replicate n (List.replicate c .cycle ++ [.tick])).flatten

/-- Runs `n` frames of `c` cycles: the cycles of each in one go, and then a
tick of the timers. -/
def runFrames (s : Machine) (c : Nat) : Nat → Except Error Machine
  | 0 => .ok s
  | n + 1 => do
    let s ← s.runCycles c
    s.tick.runFrames c n

/-- Runs `n` frames of `c` cycles, and shows a bar if it is told to. The
bar is described whether it is shown or not. -/
def playFrames (s : Machine) (c : Nat) (n : Int) (progress : Bool) : Except Error Machine :=
  if Text.Numeral.isWritable n = false then .error (.notWritable n)
  else if progress = true ∧ ¬Double.Fits n then .error (.tooWide 0)
  else s.runFrames c n.toNat

variable {s t : Machine} {c n : Nat}

theorem frameEvents_succ (c n : Nat) :
    frameEvents c (n + 1) = List.replicate c .cycle ++ .tick :: frameEvents c n := by
  rw [frameEvents, List.replicate_succ, List.flatten_cons, List.append_assoc]
  rfl

/-- Frames go well just if their cycles can be counted and their events go
well. -/
theorem runFrames_eq_ok_iff :
    s.runFrames c n = .ok t ↔
      (0 < n → c < signedBound 32) ∧ s.replay (frameEvents c n) = .ok t := by
  induction n generalizing s with
  | zero =>
    have hnone : 0 < 0 → c < signedBound 32 := fun h => absurd h (Nat.lt_irrefl 0)
    show Except.ok s = .ok t ↔ _ ∧ Except.ok s = .ok t
    rw [Except.ok.injEq, Except.ok.injEq, and_iff_right hnone]
  | succ n ih =>
    rw [runFrames, bind_eq_ok, frameEvents_succ, replay_append, replay_replicate_cycle]
    constructor
    · rintro ⟨u, hu, ht⟩
      obtain ⟨hcount, hu⟩ := runCycles_eq_ok_iff.1 hu
      obtain ⟨-, ht⟩ := ih.1 ht
      exact ⟨fun _ => Int.ofNat_lt.1 hcount, bind_eq_ok.2 ⟨u, hu, ht⟩⟩
    · rintro ⟨hcount, h⟩
      have hc := hcount (Nat.zero_lt_succ n)
      obtain ⟨u, hu, ht⟩ := bind_eq_ok.1 h
      exact ⟨u, runCycles_eq_ok_iff.2 ⟨Int.ofNat_lt.2 hc, hu⟩, ih.2 ⟨fun _ => hc, ht⟩⟩

/-- Cycles that cannot be counted are refused in the first frame. -/
theorem runFrames_of_le (hn : 0 < n) (hc : signedBound 32 ≤ c) :
    s.runFrames c n = .error (.tooWide c) := by
  obtain ⟨m, rfl⟩ := Nat.exists_eq_succ_of_ne_zero (Nat.ne_of_gt hn)
  rw [runFrames, runCycles_of_le (Int.ofNat_le.2 hc)]
  rfl

/-- With cycles that can be counted nothing but the program can go
wrong. -/
theorem fault_of_runFrames {e : Error} (hc : 0 < n → c < signedBound 32)
    (h : s.runFrames c n = .error e) : ∃ f, e = .fault f := by
  induction n generalizing s with
  | zero => cases h
  | succ n ih =>
    have hcount := hc (Nat.zero_lt_succ n)
    rcases bind_eq_error.1 h with h | ⟨u, -, h⟩
    · rw [runCycles_of_lt (Int.ofNat_lt.2 hcount)] at h
      obtain ⟨f, -, rfl⟩ := mapError_eq_error.1 h
      exact ⟨f, rfl⟩
    · exact ih (fun _ => hcount) h

/-- Frames that were run had a number that can be written. -/
theorem isWritable_of_playFrames {n : Int} {progress : Bool}
    (h : s.playFrames c n progress = .ok t) : Text.Numeral.isWritable n = true := by
  rw [playFrames] at h
  split at h
  next => cases h
  next hn => exact eq_true_of_ne_false hn

end Machine

/-! ### The session -/

namespace ProgressBar

variable {n : Int} {enabled : Bool}

/-- A bar that is to describe itself by a number that cannot be written is
not made, not even if it is switched off. -/
theorem start_of_not_isWritable (hn : Text.Numeral.isWritable n = false) (initial : Int) :
    start n none enabled initial = .error (.notWritable n) := by
  have hdescribe : describe n = .error (.notWritable n) :=
    if_neg (by rw [hn]; exact Bool.false_ne_true)
  rw [start, Option.elim_none, hdescribe]
  rfl

/-- A bar that can be described is left to be drawn. -/
theorem start_of_isWritable (hn : Text.Numeral.isWritable n = true) (initial : Int) :
    ∃ description, start n none enabled initial
      = draw { total := n, description, enabled, initial, count := initial } := by
  have hdescribe : describe n = .ok s!"Running ({Text.grouped n} frames)" := if_pos hn
  rw [start, Option.elim_none, hdescribe]
  exact ⟨_, rfl⟩

/-- A bar that has not moved can be drawn just if its total can. -/
theorem start_of_wide (hn : Text.Numeral.isWritable n = true)
    (h : enabled = true ∧ ¬Double.Fits n) : start n none enabled 0 = .error (.tooWide 0) := by
  obtain ⟨description, hstart⟩ := start_of_isWritable hn 0
  rw [hstart, draw, if_pos ⟨h.1, fun hdrawable => h.2 hdrawable.1.1⟩, drawingError,
    if_neg fun hdigits => h.2 hdigits.1.1]

theorem start_of_fits (hn : Text.Numeral.isWritable n = true)
    (h : enabled = true → Double.Fits n) : ∃ b, start n none enabled 0 = .ok b := by
  obtain ⟨description, hstart⟩ := start_of_isWritable hn 0
  refine ⟨_, hstart.trans (draw_eq_ok fun henabled => ?_)⟩
  exact isDrawable_of_le (h henabled) rfl (Int.le_refl 0) (.inr rfl)

end ProgressBar

namespace Session

variable {s : Session}

/-- A frame is what its machine does, counted. -/
theorem stepFrame_eq (s : Session) :
    s.stepFrame = (s.machine.runCycles s.settings.cyclesPerFrame).map fun m =>
      { s with
        machine := m.tick
        frames := s.frames + 1
        cycles := s.cycles + s.settings.cyclesPerFrame } := by
  rw [stepFrame]
  cases s.machine.runCycles s.settings.cyclesPerFrame <;> rfl

/-- The frames of a session are those of its machine. -/
theorem stepFrames_cases (s : Session) (n : Nat) :
    (∃ t, s.stepFrames n = (t, none) ∧
        s.machine.runFrames s.settings.cyclesPerFrame n = .ok t.machine ∧
        t.cycles = s.cycles + n * s.settings.cyclesPerFrame) ∨
      ∃ t e, s.stepFrames n = (t, some e) ∧
        s.machine.runFrames s.settings.cyclesPerFrame n = .error e := by
  induction n generalizing s with
  | zero => exact .inl ⟨s, rfl, rfl, by rw [Nat.zero_mul]; rfl⟩
  | succ n ih =>
    rw [stepFrames, stepFrame_eq, Machine.runFrames]
    cases s.machine.runCycles s.settings.cyclesPerFrame with
    | error e => exact .inr ⟨s, e, rfl, rfl⟩
    | ok m =>
      -- The session behind the first frame has the same settings, and the other frames to run.
      rcases ih { s with
          machine := m.tick
          frames := s.frames + 1
          cycles := s.cycles + s.settings.cyclesPerFrame } with
        ⟨t, hsteps, hrun, hcycles⟩ | ⟨t, e, hsteps, hrun⟩
      · refine .inl ⟨t, hsteps, hrun, hcycles.trans ?_⟩
        rw [Nat.succ_mul, Nat.add_comm (n * _), ← Nat.add_assoc]
      · exact .inr ⟨t, e, hsteps, hrun⟩

/-- A failure that is worth a note is noted as a fault. -/
theorem notice_failed {e : Error} {notice : Notice} (h : (s.failed e).notice = some notice) :
    ∃ pc f, notice = .fault pc f := by
  cases e with
  | fault f =>
    cases h
    exact ⟨_, _, rfl⟩
  | _ => cases h

/-- A run of frames does to the machine what the machine does by itself.
A run that comes to its end is worth a note with the number of its
cycles; one that does not may be worth the note of a fault. -/
theorem perform_runFrames (s : Session) (n : Int) :
    let c := s.settings.cyclesPerFrame
    let played := s.machine.playFrames c n s.settings.showProgress
    (s.perform (.runFrames n)).result = played.map (fun t => some t.display) ∧
      (∀ t, played = .ok t →
        (s.perform (.runFrames n)).notice = some (.ran n (n.toNat * c))) ∧
      ∀ e, played = .error e → ∀ notice, (s.perform (.runFrames n)).notice = some notice →
        ∃ pc f, notice = .fault pc f := by
  intro c played
  cases hn : Text.Numeral.isWritable n with
  | false =>
    have hplayed : played = .error (.notWritable n) := if_pos hn
    rw [perform, ProgressBar.start_of_not_isWritable hn, hplayed]
    exact ⟨rfl, by rintro _ ⟨⟩, fun _ _ _ => notice_failed⟩
  | true =>
    have hcheck : played = if s.settings.showProgress = true ∧ ¬Double.Fits n then
        .error (.tooWide 0) else s.machine.runFrames c n.toNat :=
      if_neg (by rw [hn]; exact Bool.false_ne_true.symm)
    by_cases hbar : s.settings.showProgress = true ∧ ¬Double.Fits n
    · rw [perform, ProgressBar.start_of_wide hn hbar, hcheck, if_pos hbar]
      exact ⟨rfl, by rintro _ ⟨⟩, fun _ _ _ => notice_failed⟩
    · obtain ⟨b, hb⟩ := ProgressBar.start_of_fits hn fun hshow =>
        Decidable.byContradiction fun hwide => hbar ⟨hshow, hwide⟩
      rw [perform, hb, hcheck, if_neg hbar]
      rcases s.stepFrames_cases n.toNat with ⟨t, hsteps, hrun, hcycles⟩ | ⟨t, e, hsteps, hrun⟩
      · rw [hrun]
        simp only [hsteps]
        refine ⟨rfl, fun u hu => ?_, by rintro _ ⟨⟩⟩
        -- The session counts the cycles over its whole life; those of the run are a difference.
        show some (Notice.ran n (t.cycles - s.cycles)) = _
        rw [hcycles, Nat.add_sub_cancel_left]
      · rw [hrun]
        simp only [hsteps]
        exact ⟨rfl, by rintro _ ⟨⟩, fun _ _ _ => notice_failed⟩

end Session

/-! ### The console -/

/-- An integer within the range of a double has a nearest double. -/
theorem Double.ofInt?_cases (v : Int) :
    (∃ x, ofInt? v = some x) ∨ ¬Fits v ∧ ofInt? v = none := by
  rw [ofInt?, quotient?, nearest?, Int.natAbs_one, Nat.mul_one]
  by_cases hv : Fits v
  · rw [if_pos hv]
    exact .inl ⟨_, rfl⟩
  · rw [if_neg hv]
    exact .inr ⟨hv, rfl⟩

/-- Some time has passed, and a double cannot hold the number of cycles
that is to be held against it. -/
abbrev Log.RunSummary.IsWide (r : Log.RunSummary) : Prop :=
  r.elapsed.isPositive = true ∧ ¬Double.Fits r.cycles

/-- Such a run cannot be summed up. -/
theorem Log.RunSummary.text_of_isWide {r : Log.RunSummary} {x : Float}
    (hx : r.elapsed = .double x) (h : r.IsWide) : r.text = .error (.tooWide r.cycles) := by
  obtain ⟨frames, cycles, elapsed⟩ := r
  obtain rfl : elapsed = .double x := hx
  have hnone : Double.ofInt? cycles = none := by
    rw [Double.ofInt?, Double.quotient?, Double.nearest?, Int.natAbs_one, Nat.mul_one, if_neg h.2]
    rfl
  rw [text, rate?, if_pos h.1, Seconds.rate?, hnone]
  rfl

/-- Every other one has a speed, if its time was measured as a double. -/
theorem Log.RunSummary.exists_rate {r : Log.RunSummary} {x : Float} (hx : r.elapsed = .double x)
    (h : ¬r.IsWide) : ∃ y, r.rate? = some y := by
  obtain ⟨frames, cycles, elapsed⟩ := r
  obtain rfl : elapsed = .double x := hx
  rw [rate?]
  by_cases hpositive : (Seconds.double x).isPositive = true
  · have hfits : Double.Fits cycles := Decidable.byContradiction fun hwide => h ⟨hpositive, hwide⟩
    obtain ⟨y, hy⟩ | ⟨hwide, -⟩ := Double.ofInt?_cases cycles
    · rw [if_pos hpositive, Seconds.rate?, hy]
      exact ⟨_, rfl⟩
    · exact absurd hfits hwide
  · rw [if_neg hpositive]
    exact ⟨_, rfl⟩

/-- It can be summed up just if the numbers of its frames and cycles can be
written. -/
theorem Log.RunSummary.text_of_not_isWide {r : Log.RunSummary} {x : Float}
    (hx : r.elapsed = .double x) (h : ¬r.IsWide)
    (hframes : Text.Numeral.isWritable r.frames = true) :
    (Text.Numeral.isWritable r.cycles = true → ∃ text, r.text = .ok text) ∧
      (Text.Numeral.isWritable r.cycles = false → r.text = .error (.notWritable r.cycles)) := by
  obtain ⟨y, hy⟩ := exists_rate hx h
  constructor
  · intro hcycles
    simp only [text, hy, hx, hframes, hcycles, Seconds.toDouble?]
    exact ⟨_, rfl⟩
  · intro hcycles
    simp only [text, hy, hframes, hcycles]
    rfl

/-- A run is summed up, unless the number of its cycles is too large for a
double. It may be too long to be written, too. -/
theorem Log.RunSummary.text_cases {frames : Int} (hframes : Text.Numeral.isWritable frames = true)
    (cycles : Int) (x : Float) :
    (∃ text, (⟨frames, cycles, .double x⟩ : RunSummary).text = .ok text) ∨
      ¬Double.Fits cycles ∧ ∃ e, (e = .tooWide cycles ∨ e = .notWritable cycles) ∧
        (⟨frames, cycles, .double x⟩ : RunSummary).text = .error e := by
  by_cases hwide : (⟨frames, cycles, .double x⟩ : RunSummary).IsWide
  · exact .inr ⟨hwide.2, _, .inl rfl, text_of_isWide rfl hwide⟩
  · obtain ⟨hshort, hlong⟩ := text_of_not_isWide rfl hwide hframes
    cases hcycles : Text.Numeral.isWritable cycles with
    | true => exact .inl (hshort hcycles)
    | false =>
      refine .inr ⟨fun hfits => ?_, _, .inr rfl, hlong hcycles⟩
      rw [ProgressBar.isWritable_of_fits hfits] at hcycles
      cases hcycles

/-- A console that keeps a log of its session reports of a run of frames
what becomes of the machine. Only a run that comes to its end may not be
summed up. -/
theorem Console.reported_runFrames {c : Console} (hkind : c.logger.kind = .sessions)
    {elapsed : Seconds} {n : Int}
    (helapsed : ∀ frames cycles,
      (c.session.perform (.runFrames n)).notice = some (.ran frames cycles) →
        ∃ x, elapsed = .double x) :
    let cycles := c.session.settings.cyclesPerFrame
    let played := c.session.machine.playFrames cycles n c.session.settings.showProgress
    c.reported elapsed (c.session.perform (.runFrames n))
        = played.map (fun t => some t.display) ∨
      (∃ t, played = .ok t) ∧ ¬Double.Fits (n.toNat * cycles : Nat) ∧
        ∃ e, (e = .tooWide (n.toNat * cycles : Nat) ∨ e = .notWritable (n.toNat * cycles : Nat)) ∧
          c.reported elapsed (c.session.perform (.runFrames n)) = .error e := by
  intro cycles played
  obtain ⟨hresult, hran, hfault⟩ := c.session.perform_runFrames n
  cases hplayed : played with
  | error e =>
    -- What went wrong is passed on, whether it is worth a note or not.
    left
    have hfailed : (c.session.perform (.runFrames n)).result = .error e := by
      rw [hresult]
      exact congrArg (Except.map _) hplayed
    cases hnotice : (c.session.perform (.runFrames n)).notice with
    | none =>
      rw [reported_of_none hnotice, hfailed]
      rfl
    | some notice =>
      obtain ⟨pc, f, rfl⟩ := hfault e hplayed notice hnotice
      rw [reported_of_some hnotice, Log.Logger.recordsOf_of_sessions hkind, hfailed]
      rfl
  | ok t =>
    have hnotice := hran t hplayed
    -- The time of a run is measured as a double, so only the number of cycles can be too large.
    obtain ⟨x, rfl⟩ := helapsed _ _ hnotice
    have hshown : (c.session.perform (.runFrames n)).result = .ok (some t.display) := by
      rw [hresult]
      exact congrArg (Except.map _) hplayed
    rw [reported_of_some hnotice, Log.Logger.recordsOf_of_sessions hkind, hshown]
    have hn : Text.Numeral.isWritable n = true := Machine.isWritable_of_playFrames hplayed
    rcases Log.RunSummary.text_cases hn (n.toNat * cycles : Nat) x with
      ⟨text, htext⟩ | ⟨hwide, e, he, herr⟩
    · left
      rw [Notice.call, Log.Call.records, htext]
      rfl
    · refine .inr ⟨⟨t, rfl⟩, hwide, e, he, ?_⟩
      rw [Notice.call, Log.Call.records, herr]
      rfl

end Chip8
