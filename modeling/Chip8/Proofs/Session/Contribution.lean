import Chip8.Proofs.Machine.RunUntilFrame
import Chip8.Session

/-!
# `Chip8.Proofs.Session.Contribution`: what a command adds to a run

A session is driven by commands, its machine by events. This module says
which events each command stands for. An `Entry` notes a command, whether
it succeeded, and the events and whole frames that it added to the run of
the machine; `Entry.Sound` lists the entries that can come about.

`Session.perform_leads` is the step lemma: every command but a reset has a sound
entry, its events lead from the machine before it to the machine after
it, and the two counters of the session move by just what the entry says.
The lemmas before it do the same for the parts of a command:
`stepFrame_eq_ok`, `stepFrames_spec` and `waitForFrame_eq_ok`.
-/

set_option autoImplicit false

namespace Chip8

open Machine (Event)

/-! ### The events of whole frames -/

/-- The events of `n` frames: the cycles of each frame, then one tick. -/
def Settings.frameEvents (settings : Settings) (n : Nat) : List Event :=
  (List.replicate n (List.replicate settings.cyclesPerFrame .cycle ++ [.tick])).flatten

theorem Settings.frameEvents_add (settings : Settings) (m n : Nat) :
    settings.frameEvents (m + n) = settings.frameEvents m ++ settings.frameEvents n := by
  rw [frameEvents, ← List.replicate_append_replicate, List.flatten_append]
  rfl

theorem Settings.frameEvents_one (settings : Settings) :
    settings.frameEvents 1 = List.replicate settings.cyclesPerFrame .cycle ++ [.tick] :=
  List.append_nil _

theorem count_replicate_cycle (n : Nat) :
    (List.replicate n Event.cycle).count .cycle = n :=
  List.count_replicate_self

theorem Settings.count_frameEvents (settings : Settings) (n : Nat) :
    (settings.frameEvents n).count .cycle = n * settings.cyclesPerFrame := by
  induction n with
  | zero => rw [Nat.zero_mul]; rfl
  | succ n ih =>
    rw [frameEvents_add, List.count_append, ih, frameEvents_one, List.count_append,
      count_replicate_cycle, Nat.succ_mul]
    rfl

/-! ### Entries -/

/-- What a command added to the run of a machine. -/
structure Entry where
  command : Command
  /-- Whether the command came to its end without an error. -/
  succeeded : Bool
  /-- The number of whole frames that it completed. -/
  frames : Nat
  /-- The events that it stands for. -/
  events : List Event

/-- The entries that a command, given to a session with the machine `s`,
can lead to. A command that fails adds nothing, except that a run of
frames adds the frames before the one that goes wrong. -/
inductive Entry.Sound (settings : Settings) (s : Machine) : Entry → Prop where
  | stepFrame : Sound settings s ⟨.stepFrame, true, 1, settings.frameEvents 1⟩
  | waitForFrame (n : Nat) : Sound settings s ⟨.waitForFrame, true, 0, .replicate n .cycle⟩
  | runFrames (n : Int) :
      Sound settings s ⟨.runFrames n, true, n.toNat, settings.frameEvents n.toNat⟩
  | press {key : Int} {k : Key} (h : Key.ofInt? key = some k) :
      Sound settings s ⟨.press key, true, 0, [.press k]⟩
  | release : Sound settings s ⟨.release, true, 0, [.release]⟩
  | tick : Sound settings s ⟨.tick, true, 0, [.tick]⟩
  /-- A command that fails. -/
  | failed {command : Command} (h : ∀ n, command ≠ .runFrames n) :
      Sound settings s ⟨command, false, 0, []⟩
  /-- A run of frames whose progress cannot be shown. -/
  | notStarted {n : Int} {e : Error}
      (h : ProgressBar.start n none settings.showProgress 0 = .error e) :
      Sound settings s ⟨.runFrames n, false, 0, []⟩
  /-- A run of frames, the frame after the first `k` of which goes wrong. -/
  | stopped {n : Int} {k : Nat} {t : Machine} {e : Error} (hk : k < n.toNat)
      (hrun : s.replay (settings.frameEvents k) = .ok t)
      (hnext : t.runCycles settings.cyclesPerFrame = .error e) :
      Sound settings s ⟨.runFrames n, false, k, settings.frameEvents k⟩
  /-- A run of frames, all of which went well, that cannot be summed up in
  the log. -/
  | notLogged (n : Int) :
      Sound settings s ⟨.runFrames n, false, n.toNat, settings.frameEvents n.toNat⟩

/-- The number of whole frames in a list of entries. -/
def Entry.frameCount : List Entry → Nat
  | [] => 0
  | e :: es => e.frames + frameCount es

theorem Entry.frameCount_append (es fs : List Entry) :
    frameCount (es ++ fs) = frameCount es + frameCount fs := by
  induction es with
  | nil => exact (Nat.zero_add _).symm
  | cons e es ih => rw [List.cons_append, frameCount, ih, frameCount, Nat.add_assoc]

/-- A run of frames adds whole frames. -/
theorem Entry.Sound.events_eq {settings : Settings} {s : Machine} {e : Entry} {n : Int}
    (he : e.Sound settings s) (h : e.command = .runFrames n) :
    e.events = settings.frameEvents e.frames := by
  cases he with
  | runFrames | notStarted | stopped | notLogged => rfl
  | failed hne => exact absurd h (hne n)
  | stepFrame | waitForFrame | press | release | tick => cases h

namespace Session

variable {s t : Session}

/-! ### The parts of a command -/

/-- A frame that goes well. -/
theorem stepFrame_eq_ok (h : s.stepFrame = .ok t) :
    ∃ m, s.machine.replay (s.settings.frameEvents 1) = .ok m ∧
      t = { s with
        machine := m
        frames := s.frames + 1
        cycles := s.cycles + s.settings.cyclesPerFrame } := by
  obtain ⟨m, hm, heq⟩ := bind_eq_ok.1 h
  cases heq
  obtain ⟨-, hrun⟩ := Machine.runCycles_eq_ok_iff.1 hm
  refine ⟨m.tick, ?_, rfl⟩
  rw [Settings.frameEvents_one]
  rw [Int.toNat_natCast, ← Machine.replay_replicate_cycle] at hrun
  exact Machine.replay_trans hrun rfl

theorem stepFrame_eq_error {e : Error} (h : s.stepFrame = .error e) :
    s.machine.runCycles s.settings.cyclesPerFrame = .error e := by
  rcases bind_eq_error.1 h with he | ⟨m, -, he⟩
  · exact he
  · cases he

/-- A run of frames completes some number of frames, and then either all
that were asked for or those before the first that goes wrong. -/
theorem stepFrames_spec (s : Session) (n : Nat) :
    ∃ k m, s.machine.replay (s.settings.frameEvents k) = .ok m ∧
      (s.stepFrames n).1 = { s with
        machine := m
        frames := s.frames + k
        cycles := s.cycles + k * s.settings.cyclesPerFrame } ∧
      ((s.stepFrames n).2 = none ∧ k = n ∨
        ∃ e, (s.stepFrames n).2 = some e ∧ k < n ∧
          m.runCycles s.settings.cyclesPerFrame = .error e) := by
  -- The induction is on the frames still to come; a frame that goes well is the first of them.
  induction n generalizing s with
  | zero =>
    refine ⟨0, s.machine, rfl, ?_, .inl ⟨rfl, rfl⟩⟩
    rw [Nat.zero_mul]
    rfl
  | succ n ih =>
    cases hframe : s.stepFrame with
    | error e =>
      rw [stepFrames, hframe]
      refine ⟨0, s.machine, rfl, ?_, .inr ⟨e, rfl, Nat.zero_lt_succ n, stepFrame_eq_error hframe⟩⟩
      rw [Nat.zero_mul]
      rfl
    | ok t =>
      rw [stepFrames, hframe]
      obtain ⟨k, m, hrun, hsession, hend⟩ := ih t
      obtain ⟨u, hu, rfl⟩ := stepFrame_eq_ok hframe
      refine ⟨1 + k, m, ?_, ?_, ?_⟩
      · rw [Settings.frameEvents_add]
        exact Machine.replay_trans hu hrun
      · rw [hsession, Nat.add_mul, Nat.one_mul, ← Nat.add_assoc, ← Nat.add_assoc]
      · rcases hend with ⟨hnone, hk⟩ | ⟨e, he, hk, hnext⟩
        · exact .inl ⟨hnone, by omega⟩
        · exact .inr ⟨e, he, by omega, hnext⟩

/-- A wait that comes to its end stands for the cycles that it took. The
frame flag that it clears is written again by the first of them. -/
theorem waitForFrame_eq_ok {n : Nat} (h : s.waitForFrame = .ok (t, n)) :
    s.machine.replay (.replicate n .cycle) = .ok t.machine ∧
      t = { s with machine := t.machine, cycles := s.cycles + n } := by
  obtain ⟨⟨m, k⟩, hm, heq⟩ := bind_eq_ok.1 h
  cases heq
  obtain ⟨-, hk, hrun⟩ := Machine.runWithin_eq_ok_iff.1 hm
  have hpos : 0 < n := by
    rw [hk, Int.toNat_natCast]
    exact Machine.cyclesToFrame_pos _ s.settings.maxCyclesPerFrame_pos
  rw [Machine.run_withFrame hpos] at hrun
  rw [Machine.replay_replicate_cycle]
  exact ⟨hrun, rfl⟩

/-! ### What a command adds -/

/-- An entry tells how a session became another one. -/
structure Leads (s : Session) (e : Entry) (t : Session) : Prop where
  sound : e.Sound s.settings s.machine
  replay_eq : s.machine.replay e.events = .ok t.machine
  session_eq : t = { s with
    machine := t.machine
    frames := s.frames + e.frames
    cycles := s.cycles + e.events.count .cycle }

theorem leads_refl {command : Command}
    (h : Entry.Sound s.settings s.machine ⟨command, false, 0, []⟩) :
    s.Leads ⟨command, false, 0, []⟩ s :=
  ⟨h, rfl, rfl⟩

theorem stepFrame_leads (s : Session) :
    ∃ frames events, s.Leads ⟨.stepFrame, (s.perform .stepFrame).result.isOk, frames, events⟩
      (s.perform .stepFrame).session := by
  rw [perform]
  cases hframe : s.stepFrame with
  | error e => exact ⟨0, [], leads_refl (.failed nofun)⟩
  | ok t =>
    obtain ⟨m, hm, rfl⟩ := stepFrame_eq_ok hframe
    refine ⟨1, s.settings.frameEvents 1, .stepFrame, hm, ?_⟩
    rw [Settings.count_frameEvents, Nat.one_mul]
    rfl

theorem waitForFrame_leads (s : Session) :
    ∃ frames events,
      s.Leads ⟨.waitForFrame, (s.perform .waitForFrame).result.isOk, frames, events⟩
        (s.perform .waitForFrame).session := by
  rw [perform]
  cases hwait : s.waitForFrame with
  | error e => exact ⟨0, [], leads_refl (.failed nofun)⟩
  | ok r =>
    obtain ⟨t, n⟩ := r
    obtain ⟨hrun, hsession⟩ := waitForFrame_eq_ok hwait
    -- With a frame or without one, the wait has come to its end.
    have hleads : s.Leads ⟨.waitForFrame, true, 0, .replicate n .cycle⟩ t := by
      refine ⟨.waitForFrame n, hrun, ?_⟩
      rw [count_replicate_cycle]
      exact hsession
    refine ⟨0, .replicate n .cycle, ?_⟩
    show Leads s ⟨_, (if t.machine.frameReady then t.shown none else _ : Outcome).result.isOk, _, _⟩
      (if t.machine.frameReady then t.shown none else _ : Outcome).session
    split <;> exact hleads

theorem runFrames_leads (s : Session) (n : Int) :
    ∃ frames events,
      s.Leads ⟨.runFrames n, (s.perform (.runFrames n)).result.isOk, frames, events⟩
        (s.perform (.runFrames n)).session ∧
      ((s.perform (.runFrames n)).result.isOk = true →
        s.Leads ⟨.runFrames n, false, frames, events⟩ (s.perform (.runFrames n)).session) := by
  rw [perform]
  cases hbar : ProgressBar.start n none s.settings.showProgress 0 with
  | error e => exact ⟨0, [], leads_refl (.notStarted hbar), nofun⟩
  | ok bar =>
    obtain ⟨k, m, hrun, hsession, hend⟩ := s.stepFrames_spec n.toNat
    rcases hframes : s.stepFrames n.toNat with ⟨t, failure⟩
    rw [hframes] at hsession hend
    have heq : t = { s with
        machine := t.machine
        frames := s.frames + k
        cycles := s.cycles + (s.settings.frameEvents k).count .cycle } := by
      rw [Settings.count_frameEvents]
      rw [show t = _ from hsession]
    have hreplay : s.machine.replay (s.settings.frameEvents k) = .ok t.machine := by
      rw [hrun, show t = _ from hsession]
    refine ⟨k, s.settings.frameEvents k, ?_⟩
    rcases hend with ⟨rfl, rfl⟩ | ⟨e, rfl, hk, hnext⟩
    · exact ⟨⟨.runFrames n, hreplay, heq⟩, fun _ => ⟨.notLogged n, hreplay, heq⟩⟩
    · exact ⟨⟨.stopped hk hrun hnext, hreplay, heq⟩, nofun⟩

/-- What is worth a note when a command succeeds. Only a run of frames is
summed up. -/
theorem notice_of_isOk {command : Command} (h : (s.perform command).result.isOk = true) :
    (s.perform command).notice = none ∨
      (∃ cycles, (s.perform command).notice = some (.noFrame cycles)) ∨
      (∃ n cycles, command = .runFrames n ∧
        (s.perform command).notice = some (.ran n cycles)) ∨
      (s.perform command).notice = some .reset := by
  cases command with
  | stepFrame =>
    rw [perform] at h ⊢
    cases hframe : s.stepFrame with
    | error e =>
      rw [hframe] at h
      cases h
    | ok t => exact .inl rfl
  | waitForFrame =>
    rw [perform] at h ⊢
    cases hwait : s.waitForFrame with
    | error e =>
      rw [hwait] at h
      cases h
    | ok r =>
      cases hready : r.1.machine.frameReady with
      | true => exact .inl (by simp only [hready]; rfl)
      | false => exact .inr (.inl ⟨r.2, by simp only [hready]; rfl⟩)
  | runFrames n =>
    rw [perform] at h ⊢
    cases hbar : ProgressBar.start n none s.settings.showProgress 0 with
    | error e =>
      rw [hbar] at h
      cases h
    | ok bar =>
      rcases hframes : s.stepFrames n.toNat with ⟨t, _ | e⟩
      · exact .inr (.inr (.inl ⟨n, _, rfl, rfl⟩))
      · rw [hbar, hframes] at h
        cases h
  | press key =>
    rw [perform] at h ⊢
    cases hpress : s.machine.pressInt key with
    | error e =>
      rw [hpress] at h
      cases h
    | ok m => exact .inl rfl
  | release | tick => exact .inl rfl
  | reset => exact .inr (.inr (.inr rfl))

/-- Every command but a reset has a sound entry, which tells how the
session goes on. It tells the same of a run of frames that is not summed
up in the log for all its success. -/
theorem perform_leads (s : Session) {command : Command} (hreset : command ≠ .reset) :
    ∃ frames events,
      s.Leads ⟨command, (s.perform command).result.isOk, frames, events⟩
        (s.perform command).session ∧
      ((∃ n, command = .runFrames n) → (s.perform command).result.isOk = true →
        s.Leads ⟨command, false, frames, events⟩ (s.perform command).session) := by
  cases command with
  | stepFrame =>
    obtain ⟨frames, events, h⟩ := s.stepFrame_leads
    exact ⟨frames, events, h, nofun⟩
  | waitForFrame =>
    obtain ⟨frames, events, h⟩ := s.waitForFrame_leads
    exact ⟨frames, events, h, nofun⟩
  | runFrames n =>
    obtain ⟨frames, events, h, hunlogged⟩ := s.runFrames_leads n
    exact ⟨frames, events, h, fun _ => hunlogged⟩
  | press key =>
    rw [perform]
    cases hpress : s.machine.pressInt key with
    | error e => exact ⟨0, [], leads_refl (.failed nofun), nofun⟩
    | ok m =>
      obtain ⟨k, hk, rfl⟩ := Machine.pressInt_eq_ok_iff.1 hpress
      exact ⟨0, [.press k], ⟨.press hk, rfl, rfl⟩, nofun⟩
  | release => exact ⟨0, [.release], ⟨.release, rfl, rfl⟩, nofun⟩
  | tick => exact ⟨0, [.tick], ⟨.tick, rfl, rfl⟩, nofun⟩
  | reset => exact absurd rfl hreset

end Session

end Chip8
