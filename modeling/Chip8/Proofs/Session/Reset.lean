import Chip8.Proofs.Session.Lockstep
import Chip8.Proofs.Session.RunFrames

/-!
# `Chip8.Proofs.Session.Reset`: a reset is a fresh start

A session that is reset goes back to the machine that it started with.
That machine and the settings are never written (`Session.restart_perform`
and, for a sequence of commands, `Session.restart_after`), and a session
that has been opened starts with them. So after a reset the session is the
one that opening the same program gives, whatever has happened before: no
key is held down, no random byte has been drawn, and no part of the program
is written over.

The commands that follow then do the same to both sessions. They are also
reported in the same way. The one thing that comes from outside is the time
that a run of frames took, and it matters only if the run had more cycles
than a double can hold (`perform_agree`). If the clocks give the same
readings, or no run is as long as that, there is no exception. The main
statement, `performAll_reset`, has all of this.
-/

set_option autoImplicit false

namespace Chip8

namespace Session

/-! ### What a session goes back to -/

/-- The session after some commands. -/
def after (s : Session) (commands : List Command) : Session :=
  commands.foldl (fun s command => (s.perform command).session) s

/-- No command changes what a session goes back to. -/
theorem restart_perform (s : Session) (command : Command) :
    (s.perform command).session.restart = s.restart := by
  by_cases hreset : command = .reset
  · subst hreset
    rfl
  · obtain ⟨frames, events, hleads, -⟩ := s.perform_leads hreset
    rw [hleads.session_eq]
    rfl

theorem restart_after (s : Session) (commands : List Command) :
    (s.after commands).restart = s.restart := by
  induction commands generalizing s with
  | nil => rfl
  | cons command commands ih => exact (ih _).trans (s.restart_perform command)

/-- Behind a reset nothing is left of the commands before it. -/
theorem after_reset (s : Session) (commands : List Command) :
    s.after (commands ++ [.reset]) = s.restart := by
  rw [after, List.foldl_append]
  exact s.restart_after commands

/-- A session that is opened is at the start of its program. -/
theorem restart_of_start {settings : Settings} {rom : Rom} {s : Session}
    (h : start settings rom = .ok s) : s.settings = settings ∧ s.restart = s := by
  rw [start_eq] at h
  cases hload : (Machine.ofSeed settings.seed >>= fun s => s.load rom) with
  | error e =>
    rw [hload] at h
    cases h
  | ok s₀ =>
    rw [hload] at h
    cases h
    exact ⟨rfl, rfl⟩

/-- Only a run of frames is summed up. -/
theorem command_of_ran {s : Session} {command : Command} {frames : Int} {cycles : Nat}
    (h : (s.perform command).notice = some (.ran frames cycles)) :
    ∃ n, command = .runFrames n := by
  cases command with
  | runFrames n => exact ⟨n, rfl⟩
  | release | tick | reset => cases h
  | waitForFrame =>
    rw [perform] at h
    split at h
    · split at h <;> cases h
    · obtain ⟨_, _, heq⟩ := notice_failed h
      cases heq
  | stepFrame | press =>
    rw [perform] at h
    split at h
    · cases h
    · obtain ⟨_, _, heq⟩ := notice_failed h
      cases heq

end Session

namespace Console

variable {c c' : Console} {settings : Settings}

/-- The session of a console goes its own way, whatever is logged. -/
theorem session_of_performAll {commands : List Command} {scene scene' : Scene}
    {history : List (Command × Except Error (Option Display))}
    (h : (c.performAll commands : InScene _) scene = ((c', history), scene')) :
    c'.session = c.session.after commands := by
  induction commands generalizing c scene history with
  | nil =>
    cases h
    rfl
  | cons command commands ih =>
    rcases hperform : (c.perform command : InScene _) scene with ⟨⟨c₁, result⟩, scene₁⟩
    rcases hmore : (c₁.performAll commands : InScene _) scene₁ with ⟨⟨c₂, more⟩, scene₂⟩
    cases h.symm.trans (performAll_cons hperform hmore)
    rw [ih hmore, session_of_perform hperform]
    rfl

/-! ### What is reported -/

/-- Two reports of the same command agree. A run of more cycles than a
double can hold may have been summed up in the one case and not in the
other, or both for different reasons not. -/
def Agree (settings : Settings) (report report' : Command × Except Error (Option Display)) : Prop :=
  report.1 = report'.1 ∧
    (report.2 = report'.2 ∨
      ∃ n : Int, report.1 = .runFrames n ∧
        let cycles := n.toNat * settings.cyclesPerFrame
        ¬Double.Fits cycles ∧
          ∃ e : Error, (e = .tooWide cycles ∨ e = .notWritable cycles) ∧
            (report.2 = .error e ∨ report'.2 = .error e))

/-- Without such runs, reports that agree are the same. -/
theorem Agree.eq_of_fits {report report' : Command × Except Error (Option Display)}
    (h : Agree settings report report')
    (hfits : ∀ n : Int, report.1 = .runFrames n →
      Double.Fits (n.toNat * settings.cyclesPerFrame : Nat)) : report = report' := by
  obtain ⟨hcommand, hresult | ⟨n, hn, hwide, -⟩⟩ := h
  · exact Prod.ext hcommand hresult
  · exact absurd (hfits n hn) hwide

/-- Apart from a summary, a note does not tell of the time. -/
theorem reported_elapsed (hkind : c.logger.kind = .sessions) (hkind' : c'.logger.kind = .sessions)
    {o : Outcome} (hran : ∀ frames cycles, o.notice ≠ some (.ran frames cycles))
    (elapsed elapsed' : Seconds) : c.reported elapsed o = c'.reported elapsed' o := by
  cases hnotice : o.notice with
  | none => rw [reported_of_none hnotice, reported_of_none hnotice]
  | some notice =>
    rw [reported_of_some hnotice, reported_of_some hnotice,
      Log.Logger.recordsOf_of_sessions hkind, Log.Logger.recordsOf_of_sessions hkind']
    cases notice with
    | ran frames cycles => exact absurd hnotice (hran frames cycles)
    | _ => rfl

/-- Consoles with the same session agree about a command, and have the same
session after it. -/
theorem perform_agree (hsession : c.session = c'.session) (hkind : c.logger.kind = .sessions)
    (hkind' : c'.logger.kind = .sessions) (command : Command) (scene scene' : Scene) :
    ∃ c₁ c₁' result result' scene₁ scene₁',
      (c.perform command : InScene _) scene = ((c₁, result), scene₁) ∧
      (c'.perform command : InScene _) scene' = ((c₁', result'), scene₁') ∧
      c₁.session = (c.session.perform command).session ∧ c₁.session = c₁'.session ∧
      c₁.logger.kind = .sessions ∧ c₁'.logger.kind = .sessions ∧
      Agree c.session.settings (command, result) (command, result') := by
  obtain ⟨session, logger⟩ := c
  obtain ⟨session', logger'⟩ := c'
  obtain rfl : session = session' := hsession
  obtain ⟨elapsed, lg, scene₁, hperform, hlg, hdouble⟩ :=
    perform_elapsed ⟨session, logger⟩ command scene
  obtain ⟨elapsed', lg', scene₁', hperform', hlg', hdouble'⟩ :=
    perform_elapsed ⟨session, logger'⟩ command scene'
  refine ⟨_, _, _, _, scene₁, scene₁', hperform, hperform', rfl, rfl, hlg.trans hkind,
    hlg'.trans hkind', rfl, ?_⟩
  by_cases hrun : ∃ n, command = .runFrames n
  · obtain ⟨n, rfl⟩ := hrun
    -- Each of the two runs has been summed up, or it was too long for that.
    rcases reported_runFrames hkind hdouble with h | ⟨-, hwide, e, he, h⟩
    · rcases reported_runFrames hkind' hdouble' with h' | ⟨-, hwide', e, he, h'⟩
      · exact .inl (h.trans h'.symm)
      · exact .inr ⟨n, rfl, hwide', e, he, .inr h'⟩
    · exact .inr ⟨n, rfl, hwide, e, he, .inl h⟩
  · exact .inl (reported_elapsed hkind hkind'
      (fun frames cycles hran => hrun (Session.command_of_ran hran)) _ _)

/-- Consoles with the same session agree about any sequence of commands. -/
theorem performAll_agree (hsession : c.session = c'.session) (hkind : c.logger.kind = .sessions)
    (hkind' : c'.logger.kind = .sessions) (commands : List Command) (scene scene' : Scene) :
    let seen := ((c.performAll commands : InScene _) scene).1.2
    let seen' := ((c'.performAll commands : InScene _) scene').1.2
    List.Forall₂ (Agree c.session.settings) seen seen' ∧
      ((∀ n : Int, .runFrames n ∈ commands →
        Double.Fits (n.toNat * c.session.settings.cyclesPerFrame : Nat)) → seen = seen') := by
  induction commands generalizing c c' scene scene' with
  | nil => exact ⟨.nil, fun _ => rfl⟩
  | cons command commands ih =>
    obtain ⟨c₁, c₁', result, result', scene₁, scene₁', hperform, hperform', hafter, hsession₁,
      hkind₁, hkind₁', hagree⟩ := perform_agree hsession hkind hkind' command scene scene'
    rw [performAll_cons hperform rfl, performAll_cons hperform' rfl]
    have hsettings : c₁.session.settings = c.session.settings := by
      show c₁.session.restart.settings = c.session.restart.settings
      rw [hafter, Session.restart_perform]
    obtain ⟨hmore, hsame⟩ := ih hsession₁ hkind₁ hkind₁' scene₁ scene₁'
    rw [hsettings] at hmore hsame
    refine ⟨.cons hagree hmore, fun hfits => ?_⟩
    have hfirst : (command, result) = (command, result') :=
      hagree.eq_of_fits fun n hn => hfits n (hn ▸ List.mem_cons_self)
    exact congrArg₂ List.cons hfirst (hsame fun n hn => hfits n (List.mem_cons_of_mem _ hn))

/-! ### A reset and a fresh console -/

/-- Two consoles are opened with the same settings, from files that hold
the same program. The first one carries out any commands, whether they
succeed or fail, and is reset. If then both are given the same commands,
they end with the same session, so that the machine, both counters and the
tone are the same after each of them; and they have reported the same of
each, shown the same displays and raised the same errors.

With loggers that were asked for with the same options, and with the same
readings of the clock, this is all. The surroundings and the loggers of the
two may also differ, and it is still the same unless a run of frames is
asked for that has more cycles than a double can hold. What the two report
of such a run may depend on whether time has passed meanwhile: one of them
may have no summary. -/
theorem performAll_reset {path path' : String} {settings : Settings}
    {options? options?' : Option Log.Options} {rom : Rom} {c₀ c₁ c₂ c₀' c₂' : Console}
    {before after : List Command}
    {seen₁ seen seen' : List (Command × Except Error (Option Display))}
    {scene scene₀ scene₁ scene₂ scene₃ scene₄ scene' scene₀' scene₃' scene₄' : Scene}
    (hfile : scene.files path = .ok rom) (hfile' : scene'.files path' = .ok rom)
    (hstart : (start path settings options? : InScene _) scene = (.ok c₀, scene₀))
    (hstart' : (start path' settings options?' : InScene _) scene' = (.ok c₀', scene₀'))
    (hbefore : (c₀.performAll (before ++ [.reset]) : InScene _) scene₁ = ((c₁, seen₁), scene₂))
    (hafter : (c₁.performAll after : InScene _) scene₃ = ((c₂, seen), scene₄))
    (hafter' : (c₀'.performAll after : InScene _) scene₃' = ((c₂', seen'), scene₄')) :
    c₂.session = c₂'.session ∧
      (options? = options?' → scene₃.clock = scene₃'.clock → seen = seen') ∧
      ((∀ n : Int, .runFrames n ∈ after →
        Double.Fits (n.toNat * settings.cyclesPerFrame : Nat)) → seen = seen') ∧
      List.Forall₂ (Agree settings) seen seen' := by
  obtain ⟨rom₀, _, hrom, hsession, hmake, hkind⟩ := of_start hstart
  obtain ⟨rom₀', _, hrom', hsession', hmake', hkind'⟩ := of_start hstart'
  obtain rfl : rom = rom₀ := Except.ok.inj (hfile.symm.trans hrom)
  obtain rfl : rom = rom₀' := Except.ok.inj (hfile'.symm.trans hrom')
  obtain ⟨-, hrestart⟩ := Session.restart_of_start hsession
  obtain ⟨hsettings, -⟩ := Session.restart_of_start hsession'
  have hfresh : c₁.session = c₀'.session := by
    rw [session_of_performAll hbefore, Session.after_reset, hrestart]
    exact Except.ok.inj (hsession.symm.trans hsession')
  -- A console compared with itself shows that its logger stays as it was set up.
  have hself := (lockstep_performAll ⟨rfl, c₀.logger.setUpLike_refl, c₀.logger.setUpLike_refl⟩
    (before ++ [.reset]) scene₁ scene₁ rfl).1.1.left
  rw [hbefore] at hself
  obtain ⟨hagree, hfits⟩ := performAll_agree hfresh (hself.kind.trans hkind) hkind' after scene₃
    scene₃'
  rw [hafter, hafter', hfresh, hsettings] at hagree hfits
  refine ⟨?_, ?_, hfits, hagree⟩
  · rw [session_of_performAll hafter, session_of_performAll hafter', hfresh]
  · rintro rfl hclock
    have halike := (lockstep_performAll
      ⟨hfresh, hself, Log.Logger.setUpLike_of_make hmake hmake'⟩ after scene₃ scene₃' hclock).1.2
    rwa [hafter, hafter'] at halike

/-- A program draws a random byte, writes it over its own first word and
waits for a key. One console is told to hold a key down and to run frames,
is refused a key that does not exist, and is reset; another one is opened
from a copy of the program. -/
theorem performAll_reset_copy :
    let settings : Settings := ⟨11, 10000, 7, "INFO", true, by decide, by decide,
      Settings.writable_of_fits (by decide) (by decide)⟩
    let rom : Rom := [0xC0, 0xFF, 0xA2, 0x00, 0xF0, 0x55, 0xF1, 0x0A]
    let scene : Scene := { files := fun _ => .ok rom }
    let scene' : Scene := { files := fun _ => .ok rom, log := "fresh\n", terminal := true }
    let before : List Command := [.press 5, .runFrames 2, .press 99, .waitForFrame]
    let after : List Command := [.stepFrame, .press 3, .runFrames 4, .tick, .waitForFrame]
    ∃ c₀ c₀' scene₀ scene₀',
      (start "game.ch8" settings none : InScene _) scene = (.ok c₀, scene₀) ∧
      (start "copy.ch8" settings none : InScene _) scene' = (.ok c₀', scene₀') ∧
      ∃ c₁ seen₁ scene₂,
        (c₀.performAll (before ++ [.reset]) : InScene _) scene = ((c₁, seen₁), scene₂) ∧
        ∃ c₂ c₂' seen scene₄ scene₄',
          (c₁.performAll after : InScene _) scene = ((c₂, seen), scene₄) ∧
          (c₀'.performAll after : InScene _) scene' = ((c₂', seen), scene₄') ∧
          c₂.session = c₂'.session := by
  intro settings rom scene scene' before after
  have hlevel : (Log.Level.choose? settings.logLevel).isSome = true := by decide +kernel
  obtain ⟨level, hlevel⟩ := Option.isSome_iff_exists.1 hlevel
  obtain ⟨s₀, -, hload⟩ := Machine.ofSeed_load (by decide : FitsSigned 64 settings.seed)
    (by decide : rom.length ≤ Rom.maxSize)
  have hfile : scene.files "game.ch8" = .ok rom := rfl
  have hfile' : scene'.files "copy.ch8" = .ok rom := rfl
  obtain ⟨lg, scene₀, hstart⟩ := start_inScene hfile (by decide) hlevel hload
  obtain ⟨lg', scene₀', hstart'⟩ := start_inScene hfile' (by decide) hlevel hload
  let c₀ : Console := { session := { settings, initial := s₀, machine := s₀ }, logger := lg }
  let c₀' : Console := { session := { settings, initial := s₀, machine := s₀ }, logger := lg' }
  rcases hbefore : (c₀.performAll (before ++ [.reset]) : InScene _) scene
    with ⟨⟨c₁, seen₁⟩, scene₂⟩
  rcases hafter : (c₁.performAll after : InScene _) scene with ⟨⟨c₂, seen⟩, scene₄⟩
  rcases hafter' : (c₀'.performAll after : InScene _) scene' with ⟨⟨c₂', seen'⟩, scene₄'⟩
  obtain ⟨hsession, hsame, -, -⟩ :=
    performAll_reset hfile hfile' hstart hstart' hbefore hafter hafter'
  obtain rfl : seen = seen' := hsame rfl rfl
  exact ⟨c₀, c₀', scene₀, scene₀', hstart, hstart', c₁, seen₁, scene₂, hbefore, c₂, c₂', seen,
    scene₄, scene₄', hafter, hafter', hsession⟩

end Console

end Chip8
