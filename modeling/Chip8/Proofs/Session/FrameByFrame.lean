import Chip8.Proofs.Session.Ledger
import Chip8.Proofs.Session.RunFrames

/-!
# `Chip8.Proofs.Session.FrameByFrame`: a run of frames, frame by frame

A host can ask for one frame after the other, or for a run of frames.
What the session is left with is the same. `stepFrames_of_performAll` and
`performAll_stepFrames` connect the single commands with the run of a
session, `Session.stepFrames`, and `Session.stepFrames_stop` says where
that run stops.

A run of frames has a progress bar in front, which may not be drawn, and a
note for the log behind: the summary of a run that came to its end
(`Console.perform_runFrames_ran`), or the fault of the frame that went
wrong (`Console.perform_runFrames_fault`). The main statement,
`perform_runFrames_frameByFrame`, puts this together with the frames one
by one.
-/

set_option autoImplicit false

namespace Chip8

namespace Session

variable {s t : Session} {e : Error} {n : Int} {k m : Nat}

/-! ### The frames of a session -/

theorem stepFrames_of_ok (h : s.stepFrame = .ok t) (k : Nat) :
    s.stepFrames (k + 1) = t.stepFrames k := by
  rw [stepFrames, h]

theorem stepFrames_of_error (h : s.stepFrame = .error e) (k : Nat) :
    s.stepFrames (k + 1) = (s, some e) := by
  rw [stepFrames, h]

/-- Behind frames that went well a run goes on. -/
theorem stepFrames_trans (h : s.stepFrames k = (t, none)) (m : Nat) :
    s.stepFrames (k + m) = t.stepFrames m := by
  induction k generalizing s with
  | zero =>
    cases h
    rw [Nat.zero_add]
  | succ k ih =>
    rw [Nat.succ_add]
    cases hs : s.stepFrame with
    | error e =>
      rw [stepFrames_of_error hs] at h
      cases h
    | ok u =>
      rw [stepFrames_of_ok hs] at h ⊢
      exact ih h

/-- A run stops at the first frame that goes wrong, with the frames that
came before it. -/
theorem stepFrames_stop (h : s.stepFrames k = (t, none)) (ht : t.stepFrame = .error e)
    (hk : k < m) : s.stepFrames m = (t, some e) := by
  obtain ⟨j, rfl⟩ : ∃ j, m = k + (j + 1) := ⟨m - k - 1, by omega⟩
  rw [stepFrames_trans h, stepFrames_of_error ht]

/-- Two runs in a row are one run. If the first run stops, so does the
second, at the same frame. -/
theorem stepFrames_add (s : Session) (k m : Nat) :
    ((s.stepFrames k).1.stepFrames m).1 = (s.stepFrames (k + m)).1 := by
  induction k generalizing s with
  | zero => rw [Nat.zero_add]; rfl
  | succ k ih =>
    rw [Nat.succ_add]
    cases hs : s.stepFrame with
    | error e =>
      -- The second run finds the session where the first one has stopped.
      rw [stepFrames_of_error hs, stepFrames_of_error hs]
      cases m with
      | zero => rfl
      | succ m => rw [stepFrames_of_error hs]
    | ok u =>
      rw [stepFrames_of_ok hs, stepFrames_of_ok hs]
      exact ih u

theorem settings_stepFrames (s : Session) (k : Nat) :
    (s.stepFrames k).1.settings = s.settings := by
  obtain ⟨j, m, -, hsession, -⟩ := s.stepFrames_spec k
  rw [hsession]

/-- The counters after a run that did not stop. -/
theorem counts_of_stepFrames (h : s.stepFrames k = (t, none)) :
    t.frames = s.frames + k ∧ t.cycles = s.cycles + k * s.settings.cyclesPerFrame := by
  obtain ⟨j, m, -, hsession, hend⟩ := s.stepFrames_spec k
  rw [h] at hsession hend
  obtain ⟨-, rfl⟩ | ⟨e, he, -⟩ := hend
  · obtain rfl : t = _ := hsession
    exact ⟨rfl, rfl⟩
  · cases he

/-! ### The commands of a session -/

theorem perform_stepFrame_of_ok (h : s.stepFrame = .ok t) :
    s.perform .stepFrame = t.shown none := by
  rw [perform, h]

theorem perform_stepFrame_of_error (h : s.stepFrame = .error e) :
    s.perform .stepFrame = s.failed e := by
  rw [perform, h]

/-- Frames that all go well are summed up. -/
theorem perform_runFrames_of_none (hn : Text.Numeral.isWritable n = true)
    (hbar : s.settings.showProgress = true → Double.Fits n)
    (h : s.stepFrames n.toNat = (t, none)) :
    s.perform (.runFrames n)
      = t.shown (some (.ran n (n.toNat * s.settings.cyclesPerFrame))) := by
  obtain ⟨b, hb⟩ := ProgressBar.start_of_fits hn hbar
  obtain ⟨-, hcycles⟩ := counts_of_stepFrames h
  simp only [perform, hb, h, hcycles, Nat.add_sub_cancel_left]

/-- A run that stops fails with the frame where it stops. -/
theorem perform_runFrames_of_some (hn : Text.Numeral.isWritable n = true)
    (hbar : s.settings.showProgress = true → Double.Fits n)
    (h : s.stepFrames n.toNat = (t, some e)) : s.perform (.runFrames n) = t.failed e := by
  obtain ⟨b, hb⟩ := ProgressBar.start_of_fits hn hbar
  simp only [perform, hb, h]

/-- Either way the session is the one after its frames. -/
theorem session_runFrames (hn : Text.Numeral.isWritable n = true)
    (hbar : s.settings.showProgress = true → Double.Fits n) :
    (s.perform (.runFrames n)).session = (s.stepFrames n.toNat).1 := by
  rcases h : s.stepFrames n.toNat with ⟨t, _ | e⟩
  · rw [perform_runFrames_of_none hn hbar h]
    rfl
  · rw [perform_runFrames_of_some hn hbar h]
    rfl

end Session

namespace Console

variable {c c' : Console} {scene scene' : Scene} {n : Int} {k : Nat}
  {history : List (Command × Except Error (Option Display))}

/-! ### Single frames -/

theorem perform_stepFrame {t : Session} (h : c.session.stepFrame = .ok t) (scene : Scene) :
    (c.perform .stepFrame : InScene _) scene
      = (({ c with session := t }, .ok (some t.machine.display)), scene) :=
  perform_unnoted (Session.perform_stepFrame_of_ok h) rfl (by simp) scene

theorem perform_stepFrame_fault {f : Fault} (hkind : c.logger.kind = .sessions)
    (h : c.session.stepFrame = .error (.fault f)) (scene : Scene) :
    (c.perform .stepFrame : InScene _) scene
      = ((c, .error (.fault f)),
        ((c.logger.call (.fault c.session.machine.pc.toNat f.message) : InScene _) scene).2) :=
  perform_fault hkind (Session.perform_stepFrame_of_error h) (by simp) scene

/-- Frames that go well can be asked for one after the other. The logger
is not told of them, and the clock is not read. -/
theorem performAll_stepFrames {t : Session} (h : c.session.stepFrames k = (t, none))
    (scene : Scene) :
    ∃ history, (c.performAll (.replicate k .stepFrame) : InScene _) scene
        = (({ c with session := t }, history), scene) ∧
      ∀ entry ∈ history, entry.2.isOk = true := by
  induction k generalizing c with
  | zero =>
    cases h
    exact ⟨[], rfl, nofun⟩
  | succ k ih =>
    cases hs : c.session.stepFrame with
    | error e =>
      rw [Session.stepFrames_of_error hs] at h
      cases h
    | ok u =>
      rw [Session.stepFrames_of_ok hs] at h
      obtain ⟨history, hmore, hok⟩ := ih (c := { c with session := u }) h
      refine ⟨_, performAll_cons (perform_stepFrame hs scene) hmore, ?_⟩
      rintro entry (_ | ⟨_, hentry⟩)
      · rfl
      · exact hok entry hentry

/-- The other way round, frames that were asked for one after the other and
went well are the frames of a run. -/
theorem stepFrames_of_performAll
    (h : (c.performAll (.replicate k .stepFrame) : InScene _) scene = ((c', history), scene'))
    (hok : ∀ entry ∈ history, entry.2.isOk = true) :
    c.session.stepFrames k = (c'.session, none) ∧ c'.logger = c.logger ∧ scene' = scene := by
  induction k generalizing c history with
  | zero =>
    cases h
    exact ⟨rfl, rfl, rfl⟩
  | succ k ih =>
    rcases hperform : (c.perform .stepFrame : InScene _) scene with ⟨⟨c₁, result⟩, scene₁⟩
    rcases hmore : (c₁.performAll (.replicate k .stepFrame) : InScene _) scene₁
      with ⟨⟨c₂, more⟩, scene₂⟩
    cases h.symm.trans (performAll_cons hperform hmore)
    have hfirst : result.isOk = true := hok (.stepFrame, result) List.mem_cons_self
    cases hs : c.session.stepFrame with
    | error e =>
      -- The first frame would not have gone well.
      have hfailed := isOk_of_perform hperform hfirst
      rw [Session.perform_stepFrame_of_error hs] at hfailed
      cases hfailed
    | ok u =>
      cases hperform.symm.trans (perform_stepFrame hs scene)
      obtain ⟨hframes, hlogger, hscene⟩ :=
        ih hmore fun entry hentry => hok entry (List.mem_cons_of_mem _ hentry)
      rw [Session.stepFrames_of_ok hs]
      exact ⟨hframes, hlogger, hscene⟩

/-- A frame that a console could not run is one that its session cannot
run. -/
theorem stepFrame_of_perform_eq_error (hkind : c.logger.kind = .sessions) {e : Error}
    (h : (c.perform .stepFrame : InScene _) scene = ((c', .error e), scene')) :
    c.session.stepFrame = .error e := by
  cases hs : c.session.stepFrame with
  | ok t => cases h.symm.trans (perform_stepFrame hs scene)
  | error e' =>
    obtain ⟨elapsed, lg, scene₁, hperform⟩ := c.perform_inScene .stepFrame scene
    -- A fault can be noted, and other errors are not worth a note.
    have hreported : c.reported elapsed (c.session.failed e') = .error e' := by
      cases hnotice : (c.session.failed e').notice with
      | none => exact reported_of_none hnotice elapsed
      | some notice =>
        obtain ⟨pc, f, rfl⟩ := Session.notice_failed hnotice
        rw [reported_of_some hnotice, Log.Logger.recordsOf_of_sessions hkind]
        rfl
    rw [Session.perform_stepFrame_of_error hs, hreported] at hperform
    cases h.symm.trans hperform
    rfl

/-! ### A run of frames -/

/-- The summary of a run of `n` frames of `cycles` cycles that was asked
for in the given scene. -/
def summaryIn (scene : Scene) (n : Int) (cycles : Nat) : Log.RunSummary where
  frames := n
  cycles := (n.toNat * cycles : Nat)
  elapsed := .double (scene.now.2.now.1 - scene.now.1)

/-- Frames that all go well, as a console runs them. If time has passed
and the cycles are too many to be held against it, there is no summary. If
none has passed, they have to be too many to be written. -/
theorem perform_runFrames_ran {t : Session} (hkind : c.logger.kind = .sessions)
    (hn : Text.Numeral.isWritable n = true)
    (hbar : c.session.settings.showProgress = true → Double.Fits n)
    (hframes : c.session.stepFrames n.toNat = (t, none)) (scene : Scene) :
    let summary := summaryIn scene n c.session.settings.cyclesPerFrame
    (c.perform (.runFrames n) : InScene _) scene
      = if summary.IsWide then
          (({ session := t, logger := c.logger }, .error (.tooWide summary.cycles)),
            scene.now.2.now.2)
        else if Text.Numeral.isWritable summary.cycles = false then
          (({ session := t, logger := c.logger }, .error (.notWritable summary.cycles)),
            scene.now.2.now.2)
        else
          (({ session := t, logger := { c.logger with history := c.logger.history ++ [summary] } },
              .ok (some t.machine.display)),
            ((c.logger.call (.run summary) : InScene _) scene.now.2.now.2).2) := by
  intro summary
  have houtcome := Session.perform_runFrames_of_none hn hbar hframes
  have hrecords := Log.Logger.recordsOf_of_sessions hkind (.run summary)
  rw [Log.Call.records] at hrecords
  -- A summary that cannot be set is not set in part either.
  have hrefused : ∀ e, summary.text = .error e → (c.perform (.runFrames n) : InScene _) scene
      = (({ session := t, logger := c.logger }, .error e), scene.now.2.now.2) := by
    intro e he
    rw [he] at hrecords
    exact perform_noted houtcome rfl rfl rfl
      (Log.Logger.call_of_refused hrecords (Log.Logger.recordsUntil_run_of_error he) _)
  by_cases hwide : summary.IsWide
  · rw [if_pos hwide]
    exact hrefused _ (Log.RunSummary.text_of_isWide rfl hwide)
  · obtain ⟨hshort, hlong⟩ := Log.RunSummary.text_of_not_isWide rfl hwide hn
    rw [if_neg hwide]
    cases hcycles : Text.Numeral.isWritable summary.cycles with
    | false =>
      rw [if_pos rfl]
      exact hrefused _ (hlong hcycles)
    | true =>
      obtain ⟨text, htext⟩ := hshort hcycles
      rw [htext] at hrecords
      rw [if_neg Bool.false_ne_true.symm]
      exact perform_noted houtcome rfl rfl rfl (Log.Logger.call_of_records hrecords _)

/-- A frame that goes wrong, in a run of a console. -/
theorem perform_runFrames_fault {t : Session} {f : Fault} (hkind : c.logger.kind = .sessions)
    (hn : Text.Numeral.isWritable n = true)
    (hbar : c.session.settings.showProgress = true → Double.Fits n)
    (hframes : c.session.stepFrames n.toNat = (t, some (.fault f))) (scene : Scene) :
    (c.perform (.runFrames n) : InScene _) scene
      = (({ session := t, logger := c.logger }, .error (.fault f)),
        ((c.logger.call (.fault t.machine.pc.toNat f.message) : InScene _) scene.now.2).2) := by
  have hrecords := Log.Logger.recordsOf_of_sessions hkind (.fault t.machine.pc.toNat f.message)
  exact perform_noted (Session.perform_runFrames_of_some hn hbar hframes) rfl rfl rfl
    (Log.Logger.call_of_records hrecords _)

/-- A console that can come about is asked for a run of frames. Their
number can be written, and the bar can be drawn if there is one.

If the frames go well when they are asked for one after the other, the run
leaves the session that they leave. It shows the display at the end and
adds one summary to the history, unless its cycles are too many to be held
against the time that has passed or, if none has passed, to be written.

If they go well up to some frame and that one fails with a fault, the run
fails with this fault and leaves the session as it is before that frame.
The logger is told of the fault and of nothing else. This is worth one
record, an error, which tells where the frame began; the history stays as
it is.

Two runs in a row leave the session that one run leaves. -/
theorem perform_runFrames_frameByFrame (c : Console) (hc : c.Reachable) (n : Int)
    (hn : Text.Numeral.isWritable n = true)
    (hbar : c.session.settings.showProgress = true → Double.Fits n) (scene : Scene) :
    let cycles := c.session.settings.cyclesPerFrame
    (∀ c' history scene',
      (c.performAll (.replicate n.toNat .stepFrame) : InScene _) scene = ((c', history), scene') →
      (∀ entry ∈ history, entry.2.isOk = true) →
      c'.session.frames = c.session.frames + n.toNat ∧
      c'.session.cycles = c.session.cycles + n.toNat * cycles ∧
      let summary := summaryIn scene n cycles
      (c.perform (.runFrames n) : InScene _) scene
        = if summary.IsWide then
            (({ session := c'.session, logger := c.logger }, .error (.tooWide summary.cycles)),
              scene.now.2.now.2)
          else if Text.Numeral.isWritable summary.cycles = false then
            (({ session := c'.session, logger := c.logger }, .error (.notWritable summary.cycles)),
              scene.now.2.now.2)
          else
            (({ session := c'.session
                logger := { c.logger with history := c.logger.history ++ [summary] } },
                .ok (some c'.session.machine.display)),
              ((c.logger.call (.run summary) : InScene _) scene.now.2.now.2).2)) ∧
    (∀ (k : Nat) c' history scene' c'' f scene'', k < n.toNat →
      (c.performAll (.replicate k .stepFrame) : InScene _) scene = ((c', history), scene') →
      (∀ entry ∈ history, entry.2.isOk = true) →
      (c'.perform .stepFrame : InScene _) scene' = ((c'', .error (.fault f)), scene'') →
      let pc := c'.session.machine.pc.toNat
      (c.perform (.runFrames n) : InScene _) scene
        = (({ session := c'.session, logger := c.logger }, .error (.fault f)),
          ((c.logger.call (.fault pc f.message) : InScene _) scene.now.2).2) ∧
      c.logger.recordsOf (.fault pc f.message)
        = .ok [⟨.error, s!"Machine fault near pc=0x{Text.paddedHex 3 pc}: {f.message}"⟩] ∧
      c'.session.frames = c.session.frames + k ∧
      c'.session.cycles = c.session.cycles + k * cycles) ∧
    ∀ (a b : Int) c₁ result₁ scene₁ c₂ result₂ scene₂, 0 ≤ a → 0 ≤ b → a + b = n →
      (c.perform (.runFrames a) : InScene _) scene = ((c₁, result₁), scene₁) →
      (c₁.perform (.runFrames b) : InScene _) scene₁ = ((c₂, result₂), scene₂) →
      ((c.perform (.runFrames n) : InScene _) scene).1.1.session = c₂.session := by
  intro cycles
  have hkind := hc.kind_eq
  refine ⟨?_, ?_, ?_⟩
  · intro c' history scene' hperform hok
    obtain ⟨hframes, -, -⟩ := stepFrames_of_performAll hperform hok
    obtain ⟨hcount, hcycles⟩ := Session.counts_of_stepFrames hframes
    exact ⟨hcount, hcycles, perform_runFrames_ran hkind hn hbar hframes scene⟩
  · intro k c' history scene' c'' f scene'' hk hperform hok hfault pc
    obtain ⟨hframes, hlogger, -⟩ := stepFrames_of_performAll hperform hok
    obtain ⟨hcount, hcycles⟩ := Session.counts_of_stepFrames hframes
    have hnext : c'.session.stepFrame = .error (.fault f) :=
      stepFrame_of_perform_eq_error (hlogger ▸ hkind) hfault
    have hstop := Session.stepFrames_stop hframes hnext hk
    exact ⟨perform_runFrames_fault hkind hn hbar hstop scene,
      Log.Logger.recordsOf_of_sessions hkind _, hcount, hcycles⟩
  · intro a b c₁ result₁ scene₁ c₂ result₂ scene₂ ha hb hsum hfirst hsecond
    -- What can be written and drawn for all the frames can be for a part of them.
    have hwritable : ∀ k : Int, 0 ≤ k → k ≤ n → Text.Numeral.isWritable k = true := by
      intro k hpos hle
      rw [Text.Numeral.isWritable_iff] at hn ⊢
      omega
    have hfits : ∀ k : Int, 0 ≤ k → k ≤ n →
        c.session.settings.showProgress = true → Double.Fits k := by
      intro k hpos hle hshow
      have hn := hbar hshow
      omega
    have hsession₁ : c₁.session = (c.session.stepFrames a.toNat).1 := by
      rw [session_of_perform hfirst, Session.session_runFrames (hwritable a ha (by omega))
        (hfits a ha (by omega))]
    have hsettings : c₁.session.settings = c.session.settings := by
      rw [hsession₁]
      exact c.session.settings_stepFrames a.toNat
    have hsession₂ : c₂.session = (c₁.session.stepFrames b.toNat).1 := by
      rw [session_of_perform hsecond,
        Session.session_runFrames (hwritable b hb (by omega))
          (by rw [hsettings]; exact hfits b hb (by omega))]
    have hsession : ((c.perform (.runFrames n) : InScene _) scene).1.1.session
        = (c.session.stepFrames n.toNat).1 := by
      rcases hrun : (c.perform (.runFrames n) : InScene _) scene with ⟨⟨c₁, result⟩, scene₁⟩
      exact (session_of_perform hrun).trans (Session.session_runFrames hn hbar)
    rw [hsession, hsession₂, hsession₁, Session.stepFrames_add, ← Int.toNat_add ha hb, hsum]

/-- A program sets a register in its first frame and returns without a
call in its second. A run of three frames fails with the second one, and
leaves the session with the first. -/
theorem perform_runFrames_frameByFrame_second :
    let settings : Settings := ⟨1, 10000, 0, "INFO", true, by decide, by decide,
      Settings.writable_of_fits (by decide) (by decide)⟩
    let rom : Rom := [0x60, 0x01, 0x00, 0xEE]
    let scene : Scene := { files := fun _ => .ok rom }
    ∃ c scene₀, (start "game.ch8" settings none : InScene _) scene = (.ok c, scene₀) ∧
      c.Reachable ∧ Text.Numeral.isWritable 3 = true ∧
      (c.session.settings.showProgress = true → Double.Fits 3) ∧
      ∃ c' scene', (c.perform (.runFrames 3) : InScene _) scene₀
          = ((c', .error (.fault .stackUnderflow)), scene') ∧
        c'.session.frames = 1 ∧ c'.session.cycles = 1 ∧ c'.session.machine.registers.get 0 = 1 ∧
        c'.session.machine.pc = 0x202 ∧ c'.logger.history = c.logger.history := by
  intro settings rom scene
  have hlevel : (Log.Level.choose? settings.logLevel).isSome = true := by decide +kernel
  obtain ⟨level, hlevel⟩ := Option.isSome_iff_exists.1 hlevel
  have hcheck : (Machine.ofSeed settings.seed >>= fun s => s.load rom).toOption.any (fun s₀ =>
      let s : Session := { settings, initial := s₀, machine := s₀ }
      s.stepFrame.toOption.any fun t =>
        t.machine.registers.get 0 == 1 && t.machine.pc == 0x202 &&
          (t.stepFrames 1).2 == some (.fault .stackUnderflow)) = true := by
    decide +kernel
  obtain ⟨s₀, hload, hcheck⟩ := ok_of_any hcheck
  obtain ⟨t, ht, hcheck⟩ := ok_of_any hcheck
  simp only [Bool.and_eq_true, beq_iff_eq] at hcheck
  obtain ⟨⟨hregister, hpc⟩, hfault⟩ := hcheck
  have hfile : scene.files "game.ch8" = .ok rom := rfl
  obtain ⟨lg, scene₀, hstart⟩ := start_inScene hfile (by decide) hlevel hload
  have hreach := Reachable.start hstart
  have hwritable : Text.Numeral.isWritable 3 = true := by decide +kernel
  have hbar : settings.showProgress = true → Double.Fits 3 := fun _ => by decide +kernel
  -- The first frame as a command of its own, and the fault of the second.
  have hfirst : Session.stepFrames { settings, initial := s₀, machine := s₀ } 1 = (t, none) :=
    Session.stepFrames_of_ok ht 0
  have hnext : t.stepFrame = .error (.fault .stackUnderflow) := by
    cases hs : t.stepFrame with
    | ok u =>
      rw [Session.stepFrames_of_ok hs] at hfault
      cases hfault
    | error e =>
      rw [Session.stepFrames_of_error hs] at hfault
      exact congrArg _ (Option.some.inj hfault)
  obtain ⟨history, hframes, hok⟩ := performAll_stepFrames
    (c := { session := { settings, initial := s₀, machine := s₀ }, logger := lg }) hfirst scene₀
  obtain ⟨-, hstops, -⟩ := perform_runFrames_frameByFrame _ hreach 3 hwritable hbar scene₀
  have hsecond := perform_stepFrame_fault (c := { session := t, logger := lg }) hreach.kind_eq hnext
    scene₀
  obtain ⟨hrun, -, hcount, hcycles⟩ :=
    hstops 1 _ history _ _ _ _ (by decide) hframes hok hsecond
  exact ⟨_, scene₀, hstart, hreach, hwritable, hbar, _, _, hrun, hcount, hcycles, hregister, hpc,
    rfl⟩

/-- A run of fewer than no frames has no frame that could go wrong. With a
bar in front it fails nevertheless, if the number of its frames is out of
the range of a double, and nothing is added to the history. -/
theorem perform_runFrames_wide_fails :
    let settings : Settings := ⟨11, 10000, 0, "INFO", true, by decide, by decide,
      Settings.writable_of_fits (by decide) (by decide)⟩
    let rom : Rom := [0x12, 0x00]
    let scene : Scene := { files := fun _ => .ok rom }
    let n : Int := -(Nat.pow 2 1024 : Nat)
    (∃ c scene₀, (start "game.ch8" settings none : InScene _) scene = (.ok c, scene₀) ∧
      c.Reachable ∧
      (c.performAll (.replicate n.toNat .stepFrame) : InScene _) scene₀ = ((c, []), scene₀) ∧
      (c.perform (.runFrames n) : InScene _) scene₀ = ((c, .error (.tooWide 0)), scene₀.now.2)) ∧
    ¬ ∀ c : Console, c.Reachable → ∀ (n : Int) scene c' history scene',
      (c.performAll (.replicate n.toNat .stepFrame) : InScene _) scene = ((c', history), scene') →
      (∀ entry ∈ history, entry.2.isOk = true) →
      ((c.perform (.runFrames n) : InScene _) scene).1.2
        = .ok (some c'.session.machine.display) := by
  intro settings rom scene n
  have hlevel : (Log.Level.choose? settings.logLevel).isSome = true := by decide +kernel
  obtain ⟨level, hlevel⟩ := Option.isSome_iff_exists.1 hlevel
  obtain ⟨s₀, -, hload⟩ := Machine.ofSeed_load (by decide : FitsSigned 64 settings.seed)
    (by decide : rom.length ≤ Rom.maxSize)
  have hfile : scene.files "game.ch8" = .ok rom := rfl
  obtain ⟨lg, scene₀, hstart⟩ := start_inScene hfile (by decide) hlevel hload
  let c : Console := { session := { settings, initial := s₀, machine := s₀ }, logger := lg }
  have hnone : n.toNat = 0 := Int.toNat_neg_natCast _
  have hwritable : Text.Numeral.isWritable n = true := by decide +kernel
  have hwide : ¬Double.Fits n := by
    rw [Double.Fits, Int.natAbs_neg, Int.natAbs_natCast]
    decide +kernel
  have hframes : (c.performAll (.replicate n.toNat .stepFrame) : InScene _) scene₀
      = ((c, []), scene₀) := by
    rw [hnone]
    rfl
  have houtcome : c.session.perform (.runFrames n) = c.session.failed (.tooWide 0) := by
    rw [Session.perform, ProgressBar.start_of_wide hwritable ⟨rfl, hwide⟩]
  have hrun : (c.perform (.runFrames n) : InScene _) scene₀
      = ((c, .error (.tooWide 0)), scene₀.now.2) := by
    have hclock : (startTime (.runFrames n) : InScene Float) scene₀
        = (scene₀.now.1, scene₀.now.2) := rfl
    rw [perform, bind_inScene hclock]
    simp only [houtcome]
    rfl
  refine ⟨⟨c, scene₀, hstart, .start hstart, hframes, hrun⟩, fun hclaim => ?_⟩
  have hshown := hclaim c (.start hstart) n scene₀ c [] scene₀ hframes
    fun entry hentry => absurd hentry List.not_mem_nil
  rw [hrun] at hshown
  cases hshown

end Console

end Chip8
