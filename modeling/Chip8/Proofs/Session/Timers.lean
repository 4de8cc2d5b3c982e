import Chip8.Proofs.Machine.Timers
import Chip8.Proofs.Session.Ledger

/-!
# `Chip8.Proofs.Session.Timers`: the timers of a session

A host counts the timers down once for each whole frame, or by a command
of its own. `Entry.Ticks` says where the ticks are among the events of a
command: at the end of each frame that is completed, and nowhere in a
frame that goes wrong or in a wait for a frame.

A console is `Ticking` if a ledger of its commands since the last reset has
its ticks there, and `Ticking.performAll` finds such a ledger for any
sequence of commands. The main statement, `replay_performAll_countdown`,
puts this together with the count of the machine: for every run, a timer
holds what was put in last less the ticks since then, and for every console
the tone sounds as long as that is more than zero.
-/

set_option autoImplicit false

namespace Chip8

open Machine (Event Step countdown lastSet ticksSince)

/-! ### The ticks of a command -/

/-- Where the ticks are among the events of an entry. -/
structure Entry.Ticks (settings : Settings) (e : Entry) : Prop where
  stepFrame : e.command = .stepFrame →
    e.events = if e.succeeded then .replicate settings.cyclesPerFrame .cycle ++ [.tick] else []
  runFrames : ∀ n, e.command = .runFrames n → e.events
    = (List.replicate e.frames (.replicate settings.cyclesPerFrame .cycle ++ [.tick])).flatten
  waitForFrame : e.command = .waitForFrame → .tick ∉ e.events
  tick : e.command = .tick → e.events = if e.succeeded then [.tick] else []
  /-- Keys have nothing to do with the timers. -/
  keys : (∃ key, e.command = .press key) ∨ e.command = .release → .tick ∉ e.events

theorem Entry.Sound.ticks {settings : Settings} {s : Machine} {e : Entry}
    (he : e.Sound settings s) : e.Ticks settings where
  stepFrame h := by
    cases he with
    | stepFrame => exact settings.frameEvents_one
    | failed => rfl
    | _ => cases h
  runFrames n h := he.events_eq h
  waitForFrame h := by
    cases he with
    | waitForFrame n => exact fun hmem => nomatch List.eq_of_mem_replicate hmem
    | failed => exact List.not_mem_nil
    | _ => cases h
  tick h := by
    cases he with
    | tick | failed => rfl
    | _ => cases h
  keys h := by
    cases he with
    | press | release | failed => simp
    | _ => simp at h

namespace Console

variable {c : Console} {s₀ : Machine} {ledger : List Entry}
  {history : List (Command × Except Error (Option Display))}

/-! ### The ticks of a console -/

/-- A ledger of the commands since the last reset, which leads from the
machine `s₀` to the machine as it is. -/
structure Ticking (c : Console) (s₀ : Machine)
    (history : List (Command × Except Error (Option Display))) (ledger : List Entry) : Prop where
  commands_eq : (ledger.map fun e => (e.command, e.succeeded)) = sinceReset history
  replay_eq : s₀.replay (ledger.flatMap Entry.events) = .ok c.session.machine
  ticks : ∀ e ∈ ledger, e.Ticks c.session.settings

/-- A reset closes the ledger, and the program starts again. -/
theorem ticking_reset (c : Console) (scene : Scene) :
    ∃ c' result scene', (c.perform .reset : InScene _) scene = ((c', result), scene') ∧
      c'.session.settings = c.session.settings ∧ c'.session.initial = c.session.initial ∧
      ∀ history, c'.Ticking c.session.initial (history ++ [(.reset, result)]) [] := by
  obtain ⟨elapsed, lg, scene', hperform⟩ := c.perform_inScene .reset scene
  refine ⟨_, _, scene', hperform, rfl, rfl, fun history => ⟨?_, rfl, nofun⟩⟩
  rw [sinceReset_reset]
  rfl

/-- Any other command is entered into the ledger. -/
theorem Ticking.perform (hc : c.Ticking s₀ history ledger) {command : Command}
    (hreset : command ≠ .reset) (scene : Scene) :
    ∃ c' result scene' e, (c.perform command : InScene _) scene = ((c', result), scene') ∧
      c'.session.settings = c.session.settings ∧ c'.session.initial = c.session.initial ∧
      c'.Ticking s₀ (history ++ [(command, result)]) (ledger ++ [e]) := by
  obtain ⟨c', result, scene', e, hperform, rfl, hsucceeded, hleads⟩ := c.perform_leads hreset scene
  have hsettings : c'.session.settings = c.session.settings := by rw [hleads.session_eq]
  refine ⟨c', result, scene', e, hperform, hsettings, by rw [hleads.session_eq], ?_, ?_, ?_⟩
  · rw [sinceReset_append hreset, List.map_append, hc.commands_eq, List.map_singleton, hsucceeded]
  · rw [List.flatMap_append, List.flatMap_singleton]
    exact Machine.replay_trans hc.replay_eq hleads.replay_eq
  · intro e' he'
    rw [hsettings]
    obtain he' | he' := List.mem_append.1 he'
    · exact hc.ticks e' he'
    · rw [List.mem_singleton.1 he']
      exact hleads.sound.ticks

/-- After any commands there is a ledger of those since the last reset. -/
theorem Ticking.performAll (hc : c.Ticking s₀ history ledger) (commands : List Command)
    (scene : Scene) :
    ∃ c' more scene' ledger',
      (c.performAll commands : InScene _) scene = ((c', more), scene') ∧
      more.map Prod.fst = commands ∧ c'.session.settings = c.session.settings ∧
      c'.Ticking (if .reset ∈ commands then c.session.initial else s₀) (history ++ more)
        ledger' := by
  induction commands generalizing c s₀ history ledger scene with
  | nil => exact ⟨c, [], scene, ledger, rfl, rfl, rfl, by rwa [List.append_nil]⟩
  | cons command commands ih =>
    obtain ⟨c₁, result, scene₁, ledger₁, s₁, hperform, hsettings, hc₁, hs₁⟩ :
        ∃ c₁ result scene₁ ledger₁ s₁,
          (c.perform command : InScene _) scene = ((c₁, result), scene₁) ∧
          c₁.session.settings = c.session.settings ∧
          c₁.Ticking s₁ (history ++ [(command, result)]) ledger₁ ∧
          (if .reset ∈ commands then c₁.session.initial else s₁)
            = if .reset ∈ command :: commands then c.session.initial else s₀ := by
      by_cases hreset : command = .reset
      · subst hreset
        obtain ⟨c₁, result, scene₁, hperform, hsettings, hinitial, hc₁⟩ := c.ticking_reset scene
        refine ⟨c₁, result, scene₁, [], _, hperform, hsettings, hc₁ history, ?_⟩
        rw [hinitial, ite_self, if_pos List.mem_cons_self]
      · obtain ⟨c₁, result, scene₁, e, hperform, hsettings, hinitial, hc₁⟩ :=
          hc.perform hreset scene
        refine ⟨c₁, result, scene₁, _, s₀, hperform, hsettings, hc₁, ?_⟩
        rw [hinitial]
        simp [Ne.symm hreset]
    obtain ⟨c₂, more, scene₂, ledger₂, hmore, hcommands, hsettings₂, hc₂⟩ := ih hc₁ scene₁
    refine ⟨c₂, (command, result) :: more, scene₂, ledger₂, performAll_cons hperform hmore, ?_,
      hsettings₂.trans hsettings, ?_⟩
    · rw [List.map_cons, hcommands]
    · rwa [← List.append_cons, hs₁] at hc₂

/-! ### The count of a console -/

/-- The tone sounds as long as there is a tick to take off. -/
theorem soundActive_iff {start : UInt8} {done : List Step} {t : Session}
    (h : ((t.machine.timer .sound).toNat : Int) = countdown .sound start done) :
    t.soundActive = true ↔
      0 < ((lastSet .sound start done).toNat : Int) - ticksSince .sound done := by
  rw [Session.soundActive, decide_eq_true_iff, UInt8.lt_iff_toNat_lt]
  show 0 < (t.machine.timer .sound).toNat ↔ _
  rw [countdown] at h
  omega

/-- In every run of cycles, ticks and key events, each timer holds the
value that an instruction has put into it last, or that it had at the
start, less one for each tick since then, and zero where that would be
less than zero. An instruction in between that reads the delay timer gets
this value, for the steps before it.

Now let a console carry out any commands. What it has run since the last
reset is a ledger of entries. A frame that is completed is its cycles and
then one tick, and a run of frames is one such frame for each that is
completed. A frame that goes wrong and a wait for a frame have no ticks.
The timers hold what the count over all these events gives, and the tone
sounds just if the count for the sound timer is more than zero. -/
theorem replay_performAll_countdown :
    (∀ (s t : Machine) (es : List Event), s.replay es = .ok t →
      (∀ which, ((t.timer which).toNat : Int)
        = countdown which (s.timer which) (s.steps es)) ∧
      ∀ done st after x, s.steps es = done ++ st :: after → st.retired? = some (.getDelay x) →
        ((st.after.registers.get x).toNat : Int) = countdown .delay s.delay done) ∧
    ∀ (c c' : Console) (commands : List Command) (scene scene' : Scene)
      (history : List (Command × Except Error (Option Display))),
      (c.performAll commands : InScene _) scene = ((c', history), scene') →
      let s₀ := if .reset ∈ commands then c.session.initial else c.session.machine
      ∃ ledger : List Entry,
        let events := ledger.flatMap Entry.events
        history.map Prod.fst = commands ∧
        (ledger.map fun e => (e.command, e.succeeded)) = sinceReset history ∧
        (∀ e ∈ ledger, e.Ticks c.session.settings) ∧
        s₀.replay events = .ok c'.session.machine ∧
        (∀ which, ((c'.session.machine.timer which).toNat : Int)
          = countdown which (s₀.timer which) (s₀.steps events)) ∧
        (c'.session.soundActive = true ↔
          0 < ((lastSet .sound s₀.sound (s₀.steps events)).toNat : Int)
            - ticksSince .sound (s₀.steps events)) := by
  refine ⟨fun s t es h => ⟨Machine.replay_countdown h, fun done st after x => ?_⟩, ?_⟩
  · exact Machine.getDelay_countdown
  · intro c c' commands scene scene' history hperform s₀
    have hstart : c.Ticking c.session.machine [] [] := ⟨rfl, rfl, nofun⟩
    obtain ⟨c₁, more, scene₁, ledger, hperform', hcommands, hsettings, hc₁⟩ :=
      hstart.performAll commands scene
    cases hperform.symm.trans hperform'
    have hcount := fun which => Machine.replay_countdown hc₁.replay_eq which
    refine ⟨ledger, hcommands, hc₁.commands_eq, ?_, hc₁.replay_eq, hcount,
      soundActive_iff (hcount .sound)⟩
    rw [← hsettings]
    exact hc₁.ticks

/-- A program sets both timers to 5 in its first frame, which has three
cycles and a tick. Then the timers hold 4, the tone sounds, and the next
instruction reads 4. -/
theorem replay_performAll_countdown_frame :
    let settings : Settings := ⟨3, 10000, 0, "INFO", false, by decide, by decide,
      Settings.writable_of_fits (by decide) (by decide)⟩
    let rom : Rom := [0x60, 0x05, 0xF0, 0x15, 0xF0, 0x18, 0xF1, 0x07]
    let scene : Scene := { files := fun _ => .ok rom }
    let events : List Event := [.cycle, .cycle, .cycle, .tick, .cycle]
    ∃ c scene₀, (start "game.ch8" settings none : InScene _) scene = (.ok c, scene₀) ∧
      (∃ t done st, c.session.machine.replay events = .ok t ∧ t.delay.toNat = 4 ∧
        c.session.machine.steps events = done ++ [st] ∧ st.retired? = some (.getDelay 1) ∧
        (st.after.registers.get 1).toNat = 4) ∧
      ∃ c' history scene',
        (c.performAll [.stepFrame] : InScene _) scene₀ = ((c', history), scene') ∧
        c'.session.machine.delay.toNat = 4 ∧ c'.session.soundActive = true := by
  intro settings rom scene events
  have hlevel : (Log.Level.choose? settings.logLevel).isSome = true := by decide +kernel
  obtain ⟨level, hlevel⟩ := Option.isSome_iff_exists.1 hlevel
  have hcheck : (Machine.ofSeed settings.seed >>= fun s => s.load rom).toOption.any (fun s₀ =>
      let frame := s₀.steps (.replicate 3 .cycle ++ [.tick])
      let steps := s₀.steps events
      let outcome := Session.perform { settings, initial := s₀, machine := s₀ } .stepFrame
      countdown .delay s₀.delay frame == 4 &&
        decide (0 < ((lastSet .sound s₀.sound frame).toNat : Int) - ticksSince .sound frame) &&
        countdown .delay s₀.delay steps == 4 && countdown .delay s₀.delay steps.dropLast == 4 &&
        outcome.result.isOk && outcome.notice.isNone &&
        (s₀.replay events).toOption.any (fun _ => true) &&
        steps.getLast?.any fun st => st.retired? == some (.getDelay 1)) = true := by
    decide +kernel
  obtain ⟨s₀, hload, hcheck⟩ := ok_of_any hcheck
  simp only [Bool.and_eq_true, beq_iff_eq, decide_eq_true_eq, Option.isNone_iff_eq_none] at hcheck
  obtain ⟨⟨⟨⟨⟨⟨⟨hdelay, hsound⟩, hend⟩, hread⟩, hok⟩, hnotice⟩, hreplay⟩, hlast⟩ := hcheck
  have hfile : scene.files "game.ch8" = .ok rom := rfl
  obtain ⟨lg, scene₀, hstart⟩ := start_inScene hfile (by decide) hlevel hload
  obtain ⟨hruns, hconsoles⟩ := replay_performAll_countdown
  refine ⟨_, scene₀, hstart, ?_, ?_⟩
  · obtain ⟨t, ht, -⟩ := ok_of_any hreplay
    obtain ⟨st, hst, hlast⟩ := (Option.any_eq_true _ _).1 hlast
    obtain ⟨htimers, hreads⟩ := hruns s₀ t events ht
    have hsteps : s₀.steps events = (s₀.steps events).dropLast ++ [st] :=
      (List.dropLast_append_getLast? st hst).symm
    have hvalue := hreads _ st [] 1 hsteps (beq_iff_eq.1 hlast)
    rw [hread] at hvalue
    have htimer := htimers .delay
    rw [show s₀.timer .delay = s₀.delay from rfl, hend] at htimer
    exact ⟨t, _, st, ht, Int.ofNat.inj htimer, hsteps, beq_iff_eq.1 hlast, Int.ofNat.inj hvalue⟩
  · let c₀ : Console := { session := { settings, initial := s₀, machine := s₀ }, logger := lg }
    obtain ⟨elapsed, lg', scene', hperform⟩ := c₀.perform_inScene .stepFrame scene₀
    have hreported : c₀.reported elapsed (c₀.session.perform .stepFrame)
        = (c₀.session.perform .stepFrame).result := reported_of_none hnotice elapsed
    have hall : (c₀.performAll [.stepFrame] : InScene _) scene₀
        = ((_, [(.stepFrame, _)]), scene') :=
      performAll_cons hperform rfl
    obtain ⟨ledger, -, hledger, hticks, -, htimers, hsounds⟩ := hconsoles _ _ _ _ _ _ hall
    -- The ledger has one entry, and its events are those of the frame.
    have hsince := sinceReset_append (by decide : Command.stepFrame ≠ .reset) []
    obtain ⟨e, rfl, he⟩ := List.map_eq_singleton_iff.1 (hledger.trans (hsince _))
    obtain ⟨hcommand, hsucceeded⟩ := Prod.mk.inj he
    have hevents : e.events = .replicate 3 .cycle ++ [.tick] := by
      rw [(hticks e List.mem_cons_self).stepFrame hcommand, hsucceeded, hreported, if_pos hok]
    rw [List.flatMap_singleton, hevents] at htimers hsounds
    exact ⟨_, _, scene', hall, Int.ofNat.inj ((htimers .delay).trans hdelay), hsounds.2 hsound⟩

end Console

end Chip8
