import Chip8.Proofs.Session.Console
import Mathlib.Data.List.DropRight

/-!
# `Chip8.Proofs.Session.Ledger`: every cycle and frame is accounted for

A host drives a console by any commands in any order, and some of them
fail. A ledger has one entry for each command since the last reset. It
balances (`Session.Balances`) if the events of its entries lead from the
machine at the start of the program to the machine as it is, and if the
counters of the session are the numbers of cycles and of whole frames in
it.

`Balances.leads` adds one entry to a ledger, `Audited.perform` carries out
one command, and `performAll_balances` is the main statement, for every
sequence of commands.
-/

set_option autoImplicit false

namespace Chip8

namespace Session

variable {s t : Session} {ledger : List Entry}

/-! ### Balances -/

/-- A ledger accounts for a session. Each entry is sound for the machine
that the entries before it lead to. -/
structure Balances (s : Session) (ledger : List Entry) : Prop where
  replay_eq : s.initial.replay (ledger.flatMap Entry.events) = .ok s.machine
  cycles_eq : (ledger.flatMap Entry.events).count .cycle = s.cycles
  frames_eq : Entry.frameCount ledger = s.frames
  sound : ∀ before e after, ledger = before ++ e :: after →
    ∃ u, s.initial.replay (before.flatMap Entry.events) = .ok u ∧ e.Sound s.settings u

theorem restart_balances (s : Session) : s.restart.Balances [] where
  replay_eq := rfl
  cycles_eq := rfl
  frames_eq := rfl
  sound before e after h := by
    have hlength := congrArg List.length h
    rw [List.length_append, List.length_cons] at hlength
    exact absurd hlength (Nat.succ_ne_zero _).symm

/-- A further entry keeps the balance. -/
theorem Balances.leads {e : Entry} (hs : s.Balances ledger) (h : s.Leads e t) :
    t.Balances (ledger ++ [e]) := by
  have hinitial : t.initial = s.initial := by rw [h.session_eq]
  have hsettings : t.settings = s.settings := by rw [h.session_eq]
  have hcycles : t.cycles = s.cycles + e.events.count .cycle := by rw [h.session_eq]
  have hframes : t.frames = s.frames + e.frames := by rw [h.session_eq]
  have hevents : (ledger ++ [e]).flatMap Entry.events
      = ledger.flatMap Entry.events ++ e.events := by
    rw [List.flatMap_append, List.flatMap_singleton]
  refine ⟨?_, ?_, ?_, ?_⟩
  · rw [hevents, hinitial]
    exact Machine.replay_trans hs.replay_eq h.replay_eq
  · rw [hevents, List.count_append, hs.cycles_eq, hcycles]
  · rw [Entry.frameCount_append, hs.frames_eq, hframes]
    rfl
  · intro before e' after heq
    rw [hinitial, hsettings]
    -- The entry is the new one, or it has been in the ledger before.
    rcases List.eq_nil_or_concat after with rfl | ⟨rest, last, rfl⟩
    · obtain ⟨rfl, hlast⟩ := List.append_inj' heq rfl
      cases hlast
      exact ⟨s.machine, hs.replay_eq, h.sound⟩
    · rw [List.concat_eq_append, ← List.cons_append, ← List.append_assoc] at heq
      exact hs.sound before e' rest (List.append_inj' heq rfl).1

end Session

namespace Console

/-! ### Sequences of commands -/

section
variable {m : Type → Type} [Monad m] [Surroundings m]

/-- Carries out commands, one after the other, and tells what each has
led to. -/
def performAll (c : Console) :
    List Command → m (Console × List (Command × Except Error (Option Display)))
  | [] => return (c, [])
  | command :: commands => do
    let (c, result) ← c.perform command
    let (c, history) ← c.performAll commands
    return (c, (command, result) :: history)

end

/-- A console carries out the first command and then the others. -/
theorem performAll_cons {c c₁ c₂ : Console} {command : Command} {commands : List Command}
    {result : Except Error (Option Display)} {scene scene₁ scene₂ : Scene}
    {history : List (Command × Except Error (Option Display))}
    (hperform : (c.perform command : InScene _) scene = ((c₁, result), scene₁))
    (hmore : (c₁.performAll commands : InScene _) scene₁ = ((c₂, history), scene₂)) :
    (c.performAll (command :: commands) : InScene _) scene
      = ((c₂, (command, result) :: history), scene₂) := by
  rw [performAll, bind_inScene hperform]
  show (c₁.performAll commands >>= _ : InScene _) scene₁ = _
  rw [bind_inScene hmore]
  rfl

/-- The commands after the last reset, and whether they succeeded. -/
def sinceReset (history : List (Command × Except Error (Option Display))) :
    List (Command × Bool) :=
  (history.map fun (command, result) => (command, result.isOk)).rtakeWhile (·.1 ≠ .reset)

theorem sinceReset_append {command : Command} (h : command ≠ .reset)
    (history : List (Command × Except Error (Option Display)))
    (result : Except Error (Option Display)) :
    sinceReset (history ++ [(command, result)])
      = sinceReset history ++ [(command, result.isOk)] := by
  rw [sinceReset, List.map_append]
  exact List.rtakeWhile_concat_pos _ _ _ (decide_eq_true h)

theorem sinceReset_reset (history : List (Command × Except Error (Option Display)))
    (result : Except Error (Option Display)) :
    sinceReset (history ++ [(.reset, result)]) = [] := by
  rw [sinceReset, List.map_append]
  exact List.rtakeWhile_concat_neg _ _ _ (by simp)

/-- A console whose session has the settings and started with the machine
`s₀`, with a ledger of the commands that it has carried out since the
last reset. -/
structure Audited (c : Console) (settings : Settings) (s₀ : Machine)
    (history : List (Command × Except Error (Option Display))) (ledger : List Entry) : Prop where
  settings_eq : c.session.settings = settings
  initial_eq : c.session.initial = s₀
  commands_eq : (ledger.map fun e => (e.command, e.succeeded)) = sinceReset history
  balances : c.session.Balances ledger

variable {c : Console} {settings : Settings} {s₀ : Machine} {ledger : List Entry}
  {history : List (Command × Except Error (Option Display))}

/-- Every command but a reset has an entry that tells how the session goes
on and what the console reports. -/
theorem perform_leads (c : Console) {command : Command} (hreset : command ≠ .reset)
    (scene : Scene) :
    ∃ c' result scene' e, (c.perform command : InScene _) scene = ((c', result), scene') ∧
      e.command = command ∧ e.succeeded = result.isOk ∧ c.session.Leads e c'.session := by
  obtain ⟨elapsed, lg, scene', hperform⟩ := c.perform_inScene command scene
  obtain ⟨frames, events, hleads, hunlogged⟩ := c.session.perform_leads hreset
  -- What the console reports is the outcome, or a run of frames was not summed up.
  have hentry : c.session.Leads
      ⟨command, (c.reported elapsed (c.session.perform command)).isOk, frames, events⟩
      (c.session.perform command).session := by
    rcases c.isOk_reported elapsed command with heq | ⟨hrun, hok, hfailed⟩
    · rw [heq]
      exact hleads
    · rw [hfailed]
      exact hunlogged hrun hok
  exact ⟨_, _, scene', _, hperform, rfl, rfl, hentry⟩

/-- After a further command there is a ledger again. A reset closes the
old one. -/
theorem Audited.perform (hc : c.Audited settings s₀ history ledger) (command : Command)
    (scene : Scene) :
    ∃ c' result scene' ledger', (c.perform command : InScene _) scene = ((c', result), scene') ∧
      c'.Audited settings s₀ (history ++ [(command, result)]) ledger' := by
  -- A reset cannot fail and starts a ledger; any other command is entered into the old one.
  by_cases hreset : command = .reset
  · subst hreset
    obtain ⟨elapsed, lg, scene', hperform⟩ := c.perform_inScene .reset scene
    refine ⟨_, _, scene', [], hperform, hc.settings_eq, hc.initial_eq, ?_, ?_⟩
    · rw [sinceReset_reset]
      rfl
    · exact c.session.restart_balances
  · obtain ⟨c', result, scene', e, hperform, hcommand, hsucceeded, hleads⟩ :=
      c.perform_leads hreset scene
    refine ⟨c', result, scene', _, hperform, ?_, ?_, ?_, hc.balances.leads hleads⟩
    · rw [← hc.settings_eq, hleads.session_eq]
    · rw [← hc.initial_eq, hleads.session_eq]
    · rw [sinceReset_append hreset, List.map_append, hc.commands_eq, List.map_singleton, hcommand,
        hsucceeded]

/-- After further commands there is a ledger again. -/
theorem Audited.performAll (hc : c.Audited settings s₀ history ledger) (commands : List Command)
    (scene : Scene) :
    ∃ c' more scene' ledger',
      (c.performAll commands : InScene _) scene = ((c', more), scene') ∧
      more.map Prod.fst = commands ∧ c'.Audited settings s₀ (history ++ more) ledger' := by
  induction commands generalizing c history ledger scene with
  | nil => exact ⟨c, [], scene, ledger, rfl, rfl, by rwa [List.append_nil]⟩
  | cons command commands ih =>
    obtain ⟨c₁, result, scene₁, ledger₁, hperform, hc₁⟩ := hc.perform command scene
    obtain ⟨c₂, more, scene₂, ledger₂, hmore, hcommands, hc₂⟩ := ih hc₁ scene₁
    refine ⟨c₂, (command, result) :: more, scene₂, ledger₂, performAll_cons hperform hmore, ?_, ?_⟩
    · rw [List.map_cons, hcommands]
    · rwa [← List.append_cons] at hc₂

/-- Take a program that fits and settings that are accepted. A console
opens the program, and its session starts with the program put into a
fresh machine. After any commands, whether they succeed or fail, there
is a ledger with an entry for each command since the last reset. The
events of its entries lead from the first machine to the machine as it
is, the number of cycles among them is the count of cycles, and the
number of whole frames in it is the count of frames. An entry for a
command that failed has no events, except that a run of frames has the
frames before the one that went wrong. -/
theorem performAll_balances (path : String) (settings : Settings) (rom : Rom) (scene : Scene)
    (hfile : scene.files path = .ok rom) (hrom : rom.length ≤ Rom.maxSize)
    (hlevel : (Log.Level.choose? settings.logLevel).isSome = true)
    (hseed : FitsSigned 64 settings.seed) :
    ∃ s₀ c₀ scene₀, (Machine.ofSeed settings.seed >>= fun s => s.load rom) = .ok s₀ ∧
      (start path settings none : InScene _) scene = (.ok c₀, scene₀) ∧
      ∀ commands c history scene',
        (c₀.performAll commands : InScene _) scene₀ = ((c, history), scene') →
        history.map Prod.fst = commands ∧
        ∃ ledger, c.Audited settings s₀ history ledger := by
  obtain ⟨level, hlevel⟩ := Option.isSome_iff_exists.1 hlevel
  obtain ⟨s₀, -, hload⟩ := Machine.ofSeed_load hseed hrom
  obtain ⟨lg, scene₀, hstart⟩ := start_inScene hfile hrom hlevel hload
  refine ⟨s₀, _, scene₀, hload, hstart, fun commands c history scene' hperform => ?_⟩
  have haudited : Console.Audited
      { session := { settings, initial := s₀, machine := s₀ }, logger := lg } settings s₀ [] [] :=
    ⟨rfl, rfl, rfl, Session.restart_balances { settings, initial := s₀, machine := s₀ }⟩
  obtain ⟨c', more, scene'', ledger, hperform', hcommands, hc'⟩ :=
    haudited.performAll commands scene₀
  cases hperform.symm.trans hperform'
  exact ⟨hcommands, ledger, hc'⟩

/-- The program returns without a call. Asked for three frames, with
eleven cycles in each, it runs eleven cycles for each frame that it
completes. -/
theorem performAll_balances_runFrames :
    let settings : Settings := ⟨11, 10000, 0, "INFO", false, by decide, by decide,
      Settings.writable_of_fits (by decide) (by decide)⟩
    let rom : Rom := [0x00, 0xEE]
    let scene : Scene := { files := fun _ => .ok rom }
    scene.files "game.ch8" = .ok rom ∧ rom.length ≤ Rom.maxSize ∧
      (Log.Level.choose? settings.logLevel).isSome = true ∧ FitsSigned 64 settings.seed ∧
      ∃ c₀ scene₀, (start "game.ch8" settings none : InScene _) scene = (.ok c₀, scene₀) ∧
        ∀ c history scene',
          (c₀.performAll [.runFrames 3] : InScene _) scene₀ = ((c, history), scene') →
          c.session.cycles = c.session.frames * 11 := by
  intro settings rom scene
  have hlevel : (Log.Level.choose? settings.logLevel).isSome = true := by decide +kernel
  have hseed : FitsSigned 64 settings.seed := by decide
  have hrom : rom.length ≤ Rom.maxSize := by decide
  obtain ⟨s₀, c₀, scene₀, -, hstart, hall⟩ :=
    performAll_balances "game.ch8" settings rom scene rfl hrom hlevel hseed
  refine ⟨rfl, hrom, hlevel, hseed, c₀, scene₀, hstart, fun c history scene' hperform => ?_⟩
  obtain ⟨hcommands, ledger, hc⟩ := hall _ c history scene' hperform
  obtain ⟨⟨command, result⟩, rfl, rfl⟩ := List.map_eq_singleton_iff.1 hcommands
  have hsince : sinceReset [(.runFrames 3, result)] = [(.runFrames 3, result.isOk)] :=
    sinceReset_append (by decide : Command.runFrames 3 ≠ .reset) [] result
  obtain ⟨e, rfl, he⟩ := List.map_eq_singleton_iff.1 (hc.commands_eq.trans hsince)
  obtain ⟨u, -, hsound⟩ := hc.balances.sound [] e [] rfl
  have hevents := hsound.events_eq (congrArg Prod.fst he)
  rw [← hc.balances.cycles_eq, ← hc.balances.frames_eq, List.flatMap_singleton, hevents,
    Settings.count_frameEvents, hc.settings_eq]
  rfl

end Console

end Chip8
