import Chip8.Proofs.Session.Reset

/-!
# `Chip8.Proofs.Session.Budget`: a wait within its budget

The budget of a wait is checked when the settings are made, where it only
has to be positive, and used by a counter of 32 bits. A budget that the
counter can hold is used as it was asked for, and then a wait comes to one
of three ends: it shows a display, it shows nothing, or the program goes
wrong. A budget that the counter cannot hold is found out when the session
waits, and then the wait is refused, whatever the program would do.

`Session.waitForFrame_eq` says what the machine does within the budget, and
`Session.waitForFrame_of_le` that a session refuses the other ones. The main statement,
`Console.perform_waitForFrame_budget`, is about a console that was opened
with settings that were accepted, after any commands, and tells what the
logger hears. So not all settings that are accepted can be used
(`Console.perform_waitForFrame_refuses_budget`).
-/

set_option autoImplicit false

namespace Chip8

namespace Session

variable {s t : Session} {n : Nat} {e : Error}

/-- The session after a wait that took `n` cycles, with the machine that
they lead to. -/
def waited (s : Session) (m : Machine) (n : Nat) : Session :=
  { s with machine := m, cycles := s.cycles + n }

/-- A budget is spent by the machine. -/
theorem waitForFrame_eq (s : Session) :
    s.waitForFrame = (s.machine.runWithin s.settings.maxCyclesPerFrame).map fun r =>
      (s.waited r.1 r.2, r.2) := by
  rw [waitForFrame]
  cases s.machine.runWithin s.settings.maxCyclesPerFrame <;> rfl

/-- A budget that cannot be counted is refused. -/
theorem waitForFrame_of_le (h : signedBound 32 ≤ s.settings.maxCyclesPerFrame) :
    s.waitForFrame = .error (.tooWide s.settings.maxCyclesPerFrame) := by
  have hwide : ¬FitsSigned 32 s.settings.maxCyclesPerFrame := by
    rw [FitsSigned]
    omega
  rw [waitForFrame, Machine.runWithin, if_neg hwide]
  rfl

theorem perform_waitForFrame_of_ready (h : s.waitForFrame = .ok (t, n))
    (hready : t.machine.frameReady = true) : s.perform .waitForFrame = t.shown none := by
  simp only [perform, h, hready, if_true]

theorem perform_waitForFrame_of_not_ready (h : s.waitForFrame = .ok (t, n))
    (hready : t.machine.frameReady = false) :
    s.perform .waitForFrame
      = { session := t, result := .ok none, notice := some (.noFrame n) } := by
  simp only [perform, h, hready, Bool.false_eq_true, if_false]

theorem perform_waitForFrame_of_error (h : s.waitForFrame = .error e) :
    s.perform .waitForFrame = s.failed e := by
  rw [perform, h]

end Session

namespace Console

variable {c : Console} {t : Session} {n : Nat}

/-! ### The ends of a wait -/

/-- A display that is shown is not worth a note. -/
theorem perform_waitForFrame_ready (h : c.session.waitForFrame = .ok (t, n))
    (hready : t.machine.frameReady = true) (scene : Scene) :
    (c.perform .waitForFrame : InScene _) scene
      = (({ c with session := t }, .ok (some t.machine.display)), scene) :=
  perform_unnoted (Session.perform_waitForFrame_of_ready h hready) rfl (by simp) scene

/-- If there is nothing to show, the logger is given a warning. -/
theorem perform_waitForFrame_not_ready (h : c.session.waitForFrame = .ok (t, n))
    (hready : t.machine.frameReady = false) (scene : Scene) :
    (c.perform .waitForFrame : InScene _) scene
      = (({ c with session := t }, .ok none),
        ((c.logger.call (.message .warning s!"No frame after {n} cycles") : InScene _) scene).2) := by
  have hrecords := c.logger.recordsOf_message .warning s!"No frame after {n} cycles"
  exact perform_noted (Session.perform_waitForFrame_of_not_ready h hready) rfl rfl rfl
    (Log.Logger.call_of_records hrecords _)

/-- A budget that cannot be counted is not worth a note. -/
theorem perform_waitForFrame_wide (h : signedBound 32 ≤ c.session.settings.maxCyclesPerFrame)
    (scene : Scene) :
    (c.perform .waitForFrame : InScene _) scene
      = ((c, .error (.tooWide c.session.settings.maxCyclesPerFrame)), scene) :=
  perform_unnoted (Session.perform_waitForFrame_of_error (Session.waitForFrame_of_le h)) rfl
    (by simp) scene

/-! ### Consoles that have been opened -/

/-- A console that has been opened and has carried out commands can come
about, and has the settings that it was opened with. -/
theorem reachable_of_performAll {path : String} {settings : Settings}
    {options? : Option Log.Options} {c₀ : Console} {commands : List Command}
    {history : List (Command × Except Error (Option Display))} {scene scene₀ scene₁ : Scene}
    (hstart : (start path settings options? : InScene _) scene = (.ok c₀, scene₀))
    (hcommands : (c₀.performAll commands : InScene _) scene₀ = ((c, history), scene₁)) :
    c.Reachable ∧ c.session.settings = settings := by
  constructor
  · have hc₀ := Reachable.start hstart
    clear hstart
    induction commands generalizing c₀ scene₀ history with
    | nil =>
      cases hcommands
      exact hc₀
    | cons command commands ih =>
      rcases hfirst : (c₀.perform command : InScene _) scene₀ with ⟨⟨c₁, result⟩, scene₂⟩
      rcases hmore : (c₁.performAll commands : InScene _) scene₂ with ⟨⟨c₂, more⟩, scene₃⟩
      cases hcommands.symm.trans (performAll_cons hfirst hmore)
      exact ih hmore (hc₀.perform hfirst)
  · obtain ⟨rom, _, -, hsession, -, -⟩ := of_start hstart
    have hrestart := c₀.session.restart_after commands
    rw [← session_of_performAll hcommands] at hrestart
    -- What a session goes back to has its settings.
    exact (congrArg Session.settings hrestart).trans (Session.restart_of_start hsession).1

/-- Take settings that have been accepted, a console that has been opened
with them, and any commands that it has carried out, whether they went
well or not. Then let it wait for a frame.

With a budget that a counter of 32 bits can hold, the wait comes to one of
three ends, according to the run of the machine within the budget that was
asked for. It shows the display, and the logger hears nothing; or it shows
nothing, and the logger is given a warning; or it fails with the fault of
the program. Then the console is what it was, both counts included, and
the logger has been given one record, an error.

With any other budget the wait is refused. The console is what it was, and
the logger hears nothing. -/
theorem perform_waitForFrame_budget {d : Settings.Draft} {settings : Settings} {path : String}
    {options? : Option Log.Options} {c₀ : Console} {commands : List Command}
    {history : List (Command × Except Error (Option Display))} {scene scene₀ scene₁ : Scene}
    (hcheck : d.check = .ok settings)
    (hstart : (start path settings options? : InScene _) scene = (.ok c₀, scene₀))
    (hcommands : (c₀.performAll commands : InScene _) scene₀ = ((c, history), scene₁)) :
    let s := c.session
    let budget := d.maxCyclesPerFrame
    let waited := (c.perform .waitForFrame : InScene _) scene₁
    (budget < signedBound 32 →
      (∃ m n, s.machine.runWithin budget = .ok (m, n) ∧ m.frameReady = true ∧
        waited = (({ c with session := s.waited m n }, .ok (some m.display)), scene₁)) ∨
      (∃ m n, s.machine.runWithin budget = .ok (m, n) ∧ m.frameReady = false ∧
        let warning := Log.Call.message .warning s!"No frame after {n} cycles"
        waited = (({ c with session := s.waited m n }, .ok none),
          ((c.logger.call warning : InScene _) scene₁).2)) ∨
      ∃ f, s.machine.runWithin budget = .error (.fault f) ∧
        let pc := s.machine.pc.toNat
        let fault := Log.Call.fault pc f.message
        waited = ((c, .error (.fault f)), ((c.logger.call fault : InScene _) scene₁).2) ∧
        c.logger.recordsOf fault
          = .ok [⟨.error, s!"Machine fault near pc=0x{Text.paddedHex 3 pc}: {f.message}"⟩]) ∧
    (signedBound 32 ≤ budget → waited = ((c, .error (.tooWide budget)), scene₁)) := by
  intro s budget waited
  obtain ⟨hreach, hsettings⟩ := reachable_of_performAll hstart hcommands
  have hkind := hreach.kind_eq
  have hbudget : (s.settings.maxCyclesPerFrame : Int) = budget := by
    rw [show s.settings = settings from hsettings]
    exact (Settings.Draft.of_check_eq_ok hcheck).2.1
  constructor
  · intro hlt
    have hwait := s.waitForFrame_eq
    rw [hbudget] at hwait
    cases hrun : s.machine.runWithin budget with
    | error e =>
      obtain ⟨f, rfl⟩ := Machine.fault_of_runWithin ⟨by omega, hlt⟩ hrun
      rw [hrun] at hwait
      have hfault :=
        perform_fault hkind (Session.perform_waitForFrame_of_error hwait) (by simp) scene₁
      exact .inr (.inr ⟨f, rfl, hfault, Log.Logger.recordsOf_of_sessions hkind _⟩)
    | ok r =>
      obtain ⟨m, n⟩ := r
      rw [hrun] at hwait
      cases hready : m.frameReady with
      | true => exact .inl ⟨m, n, rfl, hready, perform_waitForFrame_ready hwait hready scene₁⟩
      | false =>
        exact .inr (.inl ⟨m, n, rfl, hready, perform_waitForFrame_not_ready hwait hready scene₁⟩)
  · intro hle
    have hwide : signedBound 32 ≤ s.settings.maxCyclesPerFrame := by omega
    rw [← hbudget]
    exact perform_waitForFrame_wide hwide scene₁

/-- A program clears the screen, and returns without a call. The first
wait of a console shows a display, and the second one fails. -/
theorem perform_waitForFrame_budget_second :
    let d : Settings.Draft := { maxCyclesPerFrame := 2 }
    let rom : Rom := [0x00, 0xE0, 0x00, 0xEE]
    let scene : Scene := { files := fun _ => .ok rom }
    ∃ settings c₀ scene₀, d.check = .ok settings ∧
      (start "game.ch8" settings none : InScene _) scene = (.ok c₀, scene₀) ∧
      d.maxCyclesPerFrame < signedBound 32 ∧
      ∃ c, (c₀.performAll [.waitForFrame] : InScene _) scene₀
          = ((c, [(.waitForFrame, .ok (some .blank))]), scene₀) ∧
        c.session.cycles = 1 ∧
        ((c.perform .waitForFrame : InScene _) scene₀).1 = (c, .error (.fault .stackUnderflow)) := by
  intro d rom scene
  let settings : Settings := ⟨11, 2, 0, "INFO", false, by decide, by decide,
    Settings.writable_of_fits (by decide) (by decide)⟩
  have hsettings : d.check = .ok settings := by decide +kernel
  have hlt : d.maxCyclesPerFrame < signedBound 32 := by decide
  have hlevel : (Log.Level.choose? settings.logLevel).isSome = true := by decide +kernel
  obtain ⟨level, hlevel⟩ := Option.isSome_iff_exists.1 hlevel
  -- The runs of the two waits do not depend on the logger, so they are evaluated beforehand.
  have hcheck : (Machine.ofSeed settings.seed >>= fun s => s.load rom).toOption.any (fun s₀ =>
      (s₀.runWithin 2).toOption.any fun r =>
        r.1.frameReady && r.1.display == .blank && r.2 == 1 &&
          error? (r.1.runWithin 2) == some (.fault .stackUnderflow)) = true := by
    decide +kernel
  obtain ⟨s₀, hload, hcheck⟩ := ok_of_any hcheck
  obtain ⟨⟨m, n⟩, hfirst, hcheck⟩ := ok_of_any hcheck
  simp only [Bool.and_eq_true, beq_iff_eq] at hcheck
  obtain ⟨⟨⟨hready, hblank⟩, hcycles⟩, hsecond⟩ := hcheck
  have hfile : scene.files "game.ch8" = .ok rom := rfl
  obtain ⟨lg, scene₀, hstart⟩ := start_inScene hfile (by decide) hlevel hload
  let c₀ : Console := { session := { settings, initial := s₀, machine := s₀ }, logger := lg }
  let c : Console := { c₀ with session := c₀.session.waited m n }
  have hnone : (c₀.performAll [] : InScene _) scene₀ = ((c₀, []), scene₀) := rfl
  have hwait : (c₀.perform .waitForFrame : InScene _) scene₀
      = ((c, .ok (some m.display)), scene₀) := by
    rcases (perform_waitForFrame_budget hsettings hstart hnone).1 hlt with
      ⟨m', n', hrun, -, hwaited⟩ | ⟨m', n', hrun, hnot, -⟩ | ⟨f, hrun, -⟩
    · cases hfirst.symm.trans hrun
      exact hwaited
    · cases hfirst.symm.trans hrun
      cases hready.symm.trans hnot
    · cases hfirst.symm.trans hrun
  have hone : (c₀.performAll [.waitForFrame] : InScene _) scene₀
      = ((c, [(.waitForFrame, .ok (some m.display))]), scene₀) := performAll_cons hwait rfl
  have hfault : m.runWithin 2 = .error (.fault .stackUnderflow) := error?_eq_some_iff.1 hsecond
  refine ⟨settings, c₀, scene₀, hsettings, hstart, hlt, c, hblank ▸ hone, ?_, ?_⟩
  · show 0 + n = 1
    rw [hcycles]
  · rcases (perform_waitForFrame_budget hsettings hstart hone).1 hlt with
      ⟨m', n', hrun, -, -⟩ | ⟨m', n', hrun, -, -⟩ | ⟨f, hrun, hwaited, -⟩
    · cases hfault.symm.trans hrun
    · cases hfault.symm.trans hrun
    · cases hfault.symm.trans hrun
      rw [hwaited]

/-- A program clears the screen with its first word. Settings with a
budget of 2147483648 cycles are accepted, and a console is opened with
them, but it cannot wait for the frame. -/
theorem perform_waitForFrame_refuses_budget :
    let d : Settings.Draft := { maxCyclesPerFrame := 2147483648 }
    let scene : Scene := { files := fun _ => .ok [0x00, 0xE0] }
    (∃ settings c₀ scene₀, d.check = .ok settings ∧
      (start "game.ch8" settings none : InScene _) scene = (.ok c₀, scene₀) ∧
      (c₀.perform .waitForFrame : InScene _) scene₀
        = ((c₀, .error (.tooWide 2147483648)), scene₀)) ∧
    ¬ ∀ (d : Settings.Draft) (settings : Settings) (path : String)
      (options? : Option Log.Options) (c₀ : Console) (scene scene₀ : Scene),
      d.check = .ok settings →
      (start path settings options? : InScene _) scene = (.ok c₀, scene₀) →
      (∃ shown, ((c₀.perform .waitForFrame : InScene _) scene₀).1.2 = .ok shown) ∨
        ∃ f, ((c₀.perform .waitForFrame : InScene _) scene₀).1.2 = .error (.fault f) := by
  intro d scene
  let settings : Settings := ⟨11, 2147483648, 0, "INFO", false, by decide, by decide,
    Settings.writable_of_fits (by decide) (by decide)⟩
  have hsettings : d.check = .ok settings := by decide +kernel
  have hlevel : (Log.Level.choose? settings.logLevel).isSome = true := by decide +kernel
  obtain ⟨level, hlevel⟩ := Option.isSome_iff_exists.1 hlevel
  obtain ⟨s₀, -, hload⟩ := Machine.ofSeed_load (by decide : FitsSigned 64 settings.seed)
    (by decide : ([0x00, 0xE0] : Rom).length ≤ Rom.maxSize)
  have hfile : scene.files "game.ch8" = .ok [0x00, 0xE0] := rfl
  obtain ⟨lg, scene₀, hstart⟩ := start_inScene hfile (by decide) hlevel hload
  have hrefused := perform_waitForFrame_wide
    (c := { session := { settings, initial := s₀, machine := s₀ }, logger := lg })
    (by decide : signedBound 32 ≤ 2147483648) scene₀
  refine ⟨⟨settings, _, scene₀, hsettings, hstart, hrefused⟩, fun hclaim => ?_⟩
  rcases hclaim d settings _ none _ scene scene₀ hsettings hstart with ⟨shown, h⟩ | ⟨f, h⟩
  · rw [hrefused] at h
    cases h
  · rw [hrefused] at h
    cases h

end Console

end Chip8
