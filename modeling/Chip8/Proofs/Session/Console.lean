import Chip8.Console
import Chip8.Proofs.Session.Contribution

/-!
# `Chip8.Proofs.Session.Console`: a console in a scene

In a scene every computation of a console has a result that can be
written down. What it writes to the log and what it reads from the clock
do not matter for the session: `perform_inScene` shows that a console
carries out a command as its session does, and `isOk_reported` that the
log changes the result in one case only, a run of frames that cannot be
summed up. `perform_elapsed` tells in addition what kind of logger and
which measured time there are afterwards, and `perform_noted`,
`perform_unnoted` and `perform_fault` give the scene as well. `readProgram_accept` reads any
file, `start_accept` opens it, and `of_start` tells what a console that has
been opened begins with.

A console that was opened and has carried out some commands is
`Reachable`. Its logger is one for sessions (`Reachable.kind_eq`).
-/

set_option autoImplicit false

namespace Chip8

/-- Two computations in a row in a scene. -/
theorem bind_inScene {α β : Type} {x : InScene α} {f : α → InScene β} {a : α}
    {scene scene' : Scene} (h : x scene = (a, scene')) : (x >>= f) scene = f a scene' := by
  show (f (x scene).1 (x scene).2) = f a scene'
  rw [h]

/-- The content of a file as a program, if it can be read and fits in
memory. -/
def Rom.accept (path : String) : Except FileError Rom → Except Error Rom
  | .error why => .error (.unreadable path why)
  | .ok rom => if maxSize < rom.length then .error (.romTooLarge rom.length) else .ok rom

theorem Rom.accept_eq_ok_iff {path : String} {file : Except FileError Rom} {rom : Rom} :
    accept path file = .ok rom ↔ file = .ok rom ∧ rom.length ≤ maxSize := by
  cases file with
  | error why => exact ⟨nofun, nofun⟩
  | ok content =>
    rw [accept]
    split
    next hlarge =>
      refine ⟨nofun, ?_⟩
      rintro ⟨⟨⟩, hfits⟩
      exact absurd hfits (Nat.not_le.2 hlarge)
    next hfits =>
      constructor
      · rintro ⟨⟩
        exact ⟨rfl, Nat.le_of_not_lt hfits⟩
      · rintro ⟨⟨⟩, -⟩
        rfl

/-- A session starts with the program in a fresh machine. -/
theorem Session.start_eq (settings : Settings) (rom : Rom) :
    start settings rom = (Machine.ofSeed settings.seed >>= fun s => s.load rom).map
      fun s => { settings, initial := s, machine := s } := by
  rw [start]
  cases Machine.ofSeed settings.seed with
  | error e => rfl
  | ok s =>
    show (s.load rom >>= _) = (s.load rom).map _
    cases s.load rom <;> rfl

/-! ### The logger -/

/-- A logger that is told something writes its records or fails. -/
theorem Log.Logger.call_inScene (lg : Log.Logger) (call : Log.Call) (scene : Scene) :
    ∃ scene', (lg.call call : InScene _) scene
      = ((lg.recordsOf call).map fun _ => lg.remember call, scene') := by
  exact ⟨_, rfl⟩

/-- A logger that can be told something writes its records, and remembers
a summary. -/
theorem Log.Logger.call_of_records {lg : Log.Logger} {call : Log.Call} {records : List Log.Record}
    (h : lg.recordsOf call = .ok records) (scene : Scene) :
    (lg.call call : InScene _) scene
      = (.ok (lg.remember call), ((lg.call call : InScene _) scene).2) := by
  obtain ⟨scene', hcall⟩ := lg.call_inScene call scene
  rw [hcall, h]
  rfl

/-- A logger that cannot be told something, and has nothing to write before
it finds out, writes nothing. -/
theorem Log.Logger.call_of_refused {lg : Log.Logger} {call : Log.Call} {e : Error}
    (h : lg.recordsOf call = .error e) (hnone : lg.recordsUntil call = []) (scene : Scene) :
    (lg.call call : InScene _) scene = (.error e, scene) := by
  rw [Log.Logger.call, h, hnone]
  rfl

/-- A run that cannot be summed up leaves nothing to be written. -/
theorem Log.Logger.recordsUntil_run_of_error {lg : Log.Logger} {summary : Log.RunSummary}
    {e : Error} (h : summary.text = .error e) : lg.recordsUntil (.run summary) = [] := by
  rw [recordsUntil, Log.Call.records, h]
  cases lg.kind.check (.run summary) <;> rfl

/-- Settings can be recorded by a logger for sessions, if all their values
can be written. -/
theorem Log.Logger.recordsOf_settings_isOk_iff {lg : Log.Logger}
    {entries : List (String × Log.Value)} :
    (∃ records, lg.recordsOf (.settings entries) = .ok records) ↔
      lg.kind = .sessions ∧ (entries.findSome? fun entry => entry.2.unwritable?) = none := by
  rw [recordsOf]
  cases lg.kind with
  | messages => exact iff_of_false nofun nofun
  | sessions =>
    show (∃ records, (Log.Call.settings entries).records = .ok records) ↔ _
    rw [Log.Call.records, and_iff_right rfl]
    cases entries.findSome? fun entry => entry.2.unwritable? with
    | none => exact iff_of_true ⟨_, rfl⟩ rfl
    | some v => exact iff_of_false nofun nofun

/-- All values of some settings can be written, if that of the seed can
be. -/
theorem Settings.findSome?_entriesWith (settings : Settings) {seed : Log.Value}
    (h : seed.unwritable? = none) :
    ((settings.entriesWith seed).findSome? fun entry => entry.2.unwritable?) = none := by
  obtain ⟨hcycles, hmax⟩ := settings.cycles_writable
  rw [List.findSome?_eq_none_iff]
  intro entry hentry
  simp only [entriesWith, List.mem_cons, List.not_mem_nil, or_false] at hentry
  rcases hentry with rfl | rfl | rfl | rfl | rfl
  · simp [Log.Value.unwritable?, Log.Value.numbers, hcycles]
  · simp [Log.Value.unwritable?, Log.Value.numbers, hmax]
  · exact h
  · rfl
  · rfl

theorem Settings.findSome?_entries {settings : Settings}
    (h : Text.Numeral.isWritable settings.seed = true) :
    (settings.entries.findSome? fun entry => entry.2.unwritable?) = none :=
  settings.findSome?_entriesWith (by simp [Log.Value.unwritable?, Log.Value.numbers, h])

/-- A logger can be made for every level that there is. The files and the
log stay as they are. -/
theorem Log.Logger.make_inScene {o : Log.Options} {level : Log.Level} (scene : Scene)
    (h : Log.Level.choose? o.level = some level) :
    ∃ lg scene', (Log.Logger.make o : InScene _) scene = (.ok lg, scene') ∧
      lg.kind = o.kind ∧ lg.level = level ∧
      scene'.files = scene.files ∧ scene'.log = scene.log := by
  rw [Log.Logger.make, h]
  refine ⟨_, scene.now.2, rfl, rfl, rfl, ?_⟩
  obtain ⟨clock, hclock⟩ := scene.now_snd
  rw [hclock]
  exact ⟨rfl, rfl⟩

/-- A logger for sessions can be told everything that is worth records. -/
theorem Log.Logger.recordsOf_of_sessions {lg : Log.Logger} (h : lg.kind = .sessions)
    (call : Log.Call) : lg.recordsOf call = call.records := by
  rw [recordsOf, h]
  rfl

/-- Every logger can be told a message. -/
theorem Log.Logger.recordsOf_message (lg : Log.Logger) (level : Log.Level) (text : String) :
    lg.recordsOf (.message level text) = .ok [⟨level, text⟩] := by
  rw [recordsOf]
  cases lg.kind <;> rfl

/-- A logger stays of its kind. -/
theorem Log.Logger.kind_remember (lg : Log.Logger) (call : Log.Call) :
    (lg.remember call).kind = lg.kind := by
  cases call <;> rfl

namespace Console

/-! ### Commands -/

/-- What a console reports of an outcome. An outcome that is worth a note
is reported if the note can be taken. -/
def reported (c : Console) (elapsed : Seconds) (o : Outcome) : Except Error (Option Display) :=
  match o.notice with
  | none => o.result
  | some notice => (c.logger.recordsOf (notice.call elapsed)).bind fun _ => o.result

theorem reported_of_none {c : Console} {o : Outcome} (h : o.notice = none) (elapsed : Seconds) :
    c.reported elapsed o = o.result := by
  rw [reported, h]

theorem reported_of_some {c : Console} {o : Outcome} {notice : Notice}
    (h : o.notice = some notice) (elapsed : Seconds) :
    c.reported elapsed o
      = (c.logger.recordsOf (notice.call elapsed)).bind fun _ => o.result := by
  rw [reported, h]

theorem note_inScene (c : Console) (elapsed : Seconds) (notice : Notice) (scene : Scene) :
    ∃ lg scene', (c.note elapsed notice : InScene _) scene
        = (({ c with logger := lg },
            (c.logger.recordsOf (notice.call elapsed)).map fun _ => ()), scene') ∧
      lg.kind = c.logger.kind := by
  obtain ⟨scene', hcall⟩ := c.logger.call_inScene (notice.call elapsed) scene
  rw [note, bind_inScene hcall]
  cases c.logger.recordsOf (notice.call elapsed) with
  | error e => exact ⟨_, _, rfl, rfl⟩
  | ok records => exact ⟨_, _, rfl, c.logger.kind_remember _⟩

/-- The length of a run of frames is measured as a double. -/
theorem elapsedTime_ran (started : Float) (frames : Int) (cycles : Nat) (scene : Scene) :
    ∃ x scene', (elapsedTime started (.ran frames cycles) : InScene Seconds) scene
      = (.double x, scene') :=
  ⟨_, _, rfl⟩

/-- A console carries out a command as its session does, with the same
kind of logger afterwards. -/
theorem perform_elapsed (c : Console) (command : Command) (scene : Scene) :
    ∃ elapsed lg scene', (c.perform command : InScene _) scene
        = (({ session := (c.session.perform command).session, logger := lg },
            c.reported elapsed (c.session.perform command)), scene') ∧
      lg.kind = c.logger.kind ∧
      ∀ frames cycles, (c.session.perform command).notice = some (.ran frames cycles) →
        ∃ x, elapsed = .double x := by
  rw [perform]
  rcases hstart : (startTime command : InScene Float) scene with ⟨started, scene₁⟩
  rw [bind_inScene hstart]
  cases hnotice : (c.session.perform command).notice with
  | none =>
    refine ⟨.whole 0, c.logger, scene₁, ?_, rfl, nofun⟩
    rw [reported_of_none hnotice]
    rfl
  | some notice =>
    rcases helapsed : (elapsedTime started notice : InScene Seconds) scene₁ with ⟨elapsed, scene₂⟩
    obtain ⟨lg, scene₃, hnote, hkind⟩ := note_inScene
      { c with session := (c.session.perform command).session } elapsed notice scene₂
    refine ⟨elapsed, lg, scene₃, ?_, hkind, ?_⟩
    · rw [reported_of_some hnotice]
      show (elapsedTime started notice >>= _ : InScene _) scene₁ = _
      rw [bind_inScene helapsed, bind_inScene hnote]
      cases c.logger.recordsOf (notice.call elapsed) <;> rfl
    · rintro frames cycles ⟨⟩
      obtain ⟨x, scene', hx⟩ := elapsedTime_ran started frames cycles scene₁
      exact ⟨x, congrArg Prod.fst (helapsed.symm.trans hx)⟩

/-- A console carries out a command as its session does. -/
theorem perform_inScene (c : Console) (command : Command) (scene : Scene) :
    ∃ elapsed lg scene', (c.perform command : InScene _) scene
      = (({ session := (c.session.perform command).session, logger := lg },
          c.reported elapsed (c.session.perform command)), scene') := by
  obtain ⟨elapsed, lg, scene', hperform, -, -⟩ := c.perform_elapsed command scene
  exact ⟨elapsed, lg, scene', hperform⟩

/-- Only a run of frames reads the clock when the command is given. -/
theorem startTime_inScene {command : Command} (hrun : ∀ n, command ≠ .runFrames n)
    (scene : Scene) : (startTime command : InScene Float) scene = (0, scene) := by
  cases command with
  | runFrames n => exact absurd rfl (hrun n)
  | _ => rfl

/-- A command that is not worth a note leaves the logger and the scene
alone. Only a run of frames would read the clock. -/
theorem perform_unnoted {c : Console} {command : Command} {o : Outcome}
    (ho : c.session.perform command = o) (hnotice : o.notice = none)
    (hrun : ∀ n, command ≠ .runFrames n) (scene : Scene) :
    (c.perform command : InScene _) scene
      = (({ c with session := o.session }, o.result), scene) := by
  subst ho
  rw [perform, bind_inScene (startTime_inScene hrun scene)]
  simp only [hnotice]
  rfl

/-- A command that is worth a note: the clock is read before it and, if
the note needs it, behind it, and then the logger is told. -/
theorem perform_noted {c : Console} {command : Command} {o : Outcome} {notice : Notice}
    {started : Float} {elapsed : Seconds} {told : Except Error Log.Logger}
    {scene scene₁ scene₂ scene₃ : Scene}
    (ho : c.session.perform command = o) (hnotice : o.notice = some notice)
    (hstart : (startTime command : InScene Float) scene = (started, scene₁))
    (helapsed : (elapsedTime started notice : InScene Seconds) scene₁ = (elapsed, scene₂))
    (htold : (c.logger.call (notice.call elapsed) : InScene _) scene₂ = (told, scene₃)) :
    (c.perform command : InScene _) scene
      = (({ session := o.session, logger := told.toOption.getD c.logger },
          told.bind fun _ => o.result), scene₃) := by
  subst ho
  have hnote : (note { c with session := (c.session.perform command).session } elapsed notice
      : InScene _) scene₂
        = (({ session := (c.session.perform command).session
              logger := told.toOption.getD c.logger }, told.map fun _ => ()), scene₃) := by
    rw [note, bind_inScene htold]
    cases told <;> rfl
  rw [perform, bind_inScene hstart]
  simp only [hnotice]
  rw [bind_inScene helapsed, bind_inScene hnote]
  cases told <;> rfl

/-- A command that fails with a fault: the logger is told of it, and the
session is what it was. -/
theorem perform_fault {c : Console} {command : Command} {f : Fault}
    (hkind : c.logger.kind = .sessions)
    (ho : c.session.perform command = c.session.failed (.fault f))
    (hrun : ∀ n, command ≠ .runFrames n) (scene : Scene) :
    (c.perform command : InScene _) scene
      = ((c, .error (.fault f)),
        ((c.logger.call (.fault c.session.machine.pc.toNat f.message) : InScene _) scene).2) := by
  have hrecords :=
    Log.Logger.recordsOf_of_sessions hkind (.fault c.session.machine.pc.toNat f.message)
  exact perform_noted ho rfl (startTime_inScene hrun scene) rfl
    (Log.Logger.call_of_records hrecords _)

/-- A report fails when the outcome has failed, and apart from that only
for a run of frames, which may not be summed up. -/
theorem isOk_reported (c : Console) (elapsed : Seconds) (command : Command) :
    (c.reported elapsed (c.session.perform command)).isOk
        = (c.session.perform command).result.isOk ∨
      (∃ n, command = .runFrames n) ∧ (c.session.perform command).result.isOk = true ∧
        (c.reported elapsed (c.session.perform command)).isOk = false := by
  cases hok : (c.session.perform command).result.isOk with
  | false =>
    -- Whether the note is taken or not, the outcome has failed.
    left
    cases hresult : (c.session.perform command).result with
    | ok display =>
      rw [hresult] at hok
      cases hok
    | error e =>
      cases hnotice : (c.session.perform command).notice with
      | none =>
        rw [reported_of_none hnotice, hresult]
        rfl
      | some notice =>
        rw [reported_of_some hnotice, hresult]
        cases c.logger.recordsOf (notice.call elapsed) <;> rfl
  | true =>
    rcases Session.notice_of_isOk hok with h | ⟨cycles, h⟩ | ⟨n, cycles, hrun, h⟩ | h
    · rw [reported_of_none h]
      exact .inl hok
    · rw [reported_of_some h, Notice.call, Log.Logger.recordsOf_message]
      exact .inl hok
    · rw [reported_of_some h]
      cases c.logger.recordsOf ((Notice.ran n cycles).call elapsed) with
      | ok records => exact .inl hok
      | error e => exact .inr ⟨⟨n, hrun⟩, rfl, rfl⟩
    · rw [reported_of_some h, Notice.call, Log.Logger.recordsOf_message]
      exact .inl hok

/-- The session of a console goes its own way, whatever is logged. -/
theorem session_of_perform {c c' : Console} {command : Command} {scene scene' : Scene}
    {result : Except Error (Option Display)}
    (h : (c.perform command : InScene _) scene = ((c', result), scene')) :
    c'.session = (c.session.perform command).session := by
  obtain ⟨elapsed, lg, scene₁, hperform⟩ := c.perform_inScene command scene
  cases h.symm.trans hperform
  rfl

/-- A command that a console reports to have gone well has gone well. -/
theorem isOk_of_perform {c c' : Console} {command : Command} {scene scene' : Scene}
    {result : Except Error (Option Display)}
    (h : (c.perform command : InScene _) scene = ((c', result), scene'))
    (hok : result.isOk = true) : (c.session.perform command).result.isOk = true := by
  obtain ⟨elapsed, lg, scene₁, hperform⟩ := c.perform_inScene command scene
  cases h.symm.trans hperform
  rcases c.isOk_reported elapsed command with hsame | ⟨-, hresult, -⟩
  · rw [← hsame]
    exact hok
  · exact hresult

/-! ### Opening a program -/

/-- Reading a program gives the content of the file or refuses it,
whatever is logged meanwhile. -/
theorem readProgram_accept (path : String) {entries : List (String × Log.Value)}
    {lg : Log.Logger} (hkind : lg.kind = .sessions)
    (hentries : (entries.findSome? fun entry => entry.2.unwritable?) = none) (scene : Scene) :
    ∃ scene', (readProgram path entries lg : InScene _) scene
      = (Rom.accept path (scene.files path), scene') := by
  have hread : (Rom.readFile path : InScene _) scene
      = ((scene.files path).mapError (.unreadable path), scene) := by
    have hfiles : (Surroundings.readFile path : InScene _) scene = (scene.files path, scene) := rfl
    rw [Rom.readFile, bind_inScene hfiles]
    cases scene.files path <;> rfl
  have htell : ∀ call records scene, Log.Call.records call = .ok records →
      lg.remember call = lg → ∃ scene', (lg.call call : InScene _) scene = (.ok lg, scene') := by
    intro call records scene hrecords hlg
    obtain ⟨scene', hcall⟩ := lg.call_inScene call scene
    rw [Log.Logger.recordsOf_of_sessions hkind, hrecords, hlg] at hcall
    exact ⟨scene', hcall⟩
  rw [readProgram, bind_inScene hread]
  cases hfile : scene.files path with
  | error why => exact ⟨scene, rfl⟩
  | ok rom =>
    show ∃ scene', (if Rom.maxSize < rom.length then _ else _ : InScene (Except Error Rom)) scene
      = (if Rom.maxSize < rom.length then _ else _, scene')
    by_cases hrom : Rom.maxSize < rom.length
    · obtain ⟨scene₁, hlogged⟩ :=
        htell (.message .error (Error.romTooLarge rom.length).message) _ scene rfl rfl
      rw [if_pos hrom, if_pos hrom, bind_inScene hlogged]
      exact ⟨scene₁, rfl⟩
    · have hsize : Text.Numeral.isWritable rom.length = true := by
        have hbound : Rom.maxSize < Text.Numeral.bound := by decide +kernel
        exact Text.Numeral.isWritable_iff.2 (Nat.lt_of_le_of_lt (Nat.le_of_not_lt hrom) hbound)
      obtain ⟨scene₁, hsettings⟩ := htell (.settings entries) _ scene
        (by rw [Log.Call.records, hentries]) rfl
      obtain ⟨scene₂, hloaded⟩ := htell (.romLoaded path rom.length) _ scene₁
        (if_pos hsize) rfl
      rw [if_neg hrom, if_neg hrom, bind_inScene hsettings]
      show ∃ scene', (lg.call (.romLoaded path rom.length) >>= _ : InScene _) scene₁ = _
      rw [bind_inScene hloaded]
      exact ⟨scene₂, rfl⟩

/-- A program is opened when its file is accepted and the session can be
started. Whatever else happens, the logger is for sessions. -/
theorem start_accept (path : String) {settings : Settings} {level : Log.Level}
    (options? : Option Log.Options)
    (hlevel : Log.Level.choose? (options?.getD { level := settings.logLevel }).level = some level)
    (hkind : (options?.getD { level := settings.logLevel }).kind = .sessions)
    (hseed : Text.Numeral.isWritable settings.seed = true) (scene : Scene) :
    ∃ lg scene', (start path settings options? : InScene _) scene
      = ((Rom.accept path (scene.files path) >>= Session.start settings).map
          fun session => { session, logger := lg }, scene') := by
  obtain ⟨lg, scene₁, hmake, hmade, -, hfiles, -⟩ := Log.Logger.make_inScene scene hlevel
  obtain ⟨scene₂, hread⟩ := readProgram_accept path (hmade.trans hkind)
    (Settings.findSome?_entries hseed) scene₁
  rw [hfiles] at hread
  refine ⟨lg, scene₂, ?_⟩
  rw [start, bind_inScene hmake]
  show (openWith path settings lg : InScene _) scene₁ = _
  rw [openWith, bind_inScene hread]
  cases Rom.accept path (scene.files path) with
  | error e => rfl
  | ok rom =>
    show _ = ((Session.start settings rom).map _, scene₂)
    simp only
    cases Session.start settings rom <;> rfl

/-- A program that fits is opened. The session starts with the program
put into a fresh machine. -/
theorem start_inScene {path : String} {settings : Settings} {rom : Rom} {s₀ : Machine}
    {level : Log.Level} {scene : Scene} (hfile : scene.files path = .ok rom)
    (hrom : rom.length ≤ Rom.maxSize) (hlevel : Log.Level.choose? settings.logLevel = some level)
    (hload : (Machine.ofSeed settings.seed >>= fun s => s.load rom) = .ok s₀) :
    ∃ lg scene', (start path settings none : InScene _) scene
      = (.ok { session := { settings, initial := s₀, machine := s₀ }, logger := lg }, scene') := by
  obtain ⟨s, hs, -⟩ := bind_eq_ok.1 hload
  have hseed := Text.Numeral.isWritable_of_fits (Machine.ofSeed_eq_ok_iff.1 hs).1
  obtain ⟨lg, scene', hstart⟩ := start_accept path none hlevel rfl hseed scene
  refine ⟨lg, scene', hstart.trans ?_⟩
  rw [Rom.accept_eq_ok_iff.2 ⟨hfile, hrom⟩]
  show ((Session.start settings rom).map _, _) = _
  rw [Session.start_eq, hload]
  rfl

/-- A logger that cannot be told of the settings is no help in reading a
program. -/
theorem recordsOf_of_readProgram {path : String} {entries : List (String × Log.Value)}
    {lg : Log.Logger} {rom : Rom} {scene scene' : Scene}
    (h : (readProgram path entries lg : InScene _) scene = (.ok rom, scene')) :
    ∃ records, lg.recordsOf (.settings entries) = .ok records := by
  cases hrecords : lg.recordsOf (.settings entries) with
  | ok records => exact ⟨records, rfl⟩
  | error e =>
    rcases hread : (Rom.readFile path : InScene _) scene with ⟨_ | content, scene₁⟩
    · rw [readProgram, bind_inScene hread] at h
      cases h
    · rw [readProgram, bind_inScene hread] at h
      simp only at h
      split at h
      · obtain ⟨scene₂, hcall⟩ := lg.call_inScene
          (.message .error (Error.romTooLarge content.length).message) scene₁
        rw [bind_inScene hcall, Log.Logger.recordsOf_message] at h
        cases h
      · obtain ⟨scene₂, hcall⟩ := lg.call_inScene (.settings entries) scene₁
        rw [bind_inScene hcall, hrecords] at h
        cases h

/-- A console that has been opened has the program of its file, and a
session that starts with it. -/
theorem of_start {path : String} {settings : Settings} {options? : Option Log.Options}
    {c : Console} {scene scene' : Scene}
    (h : (start path settings options? : InScene _) scene = (.ok c, scene')) :
    ∃ rom scene₁, scene.files path = .ok rom ∧ Session.start settings rom = .ok c.session ∧
      (Log.Logger.make (options?.getD { level := settings.logLevel }) : InScene _) scene
        = (.ok c.logger, scene₁) ∧
      c.logger.kind = .sessions := by
  rw [start] at h
  cases hlevel : Log.Level.choose? (options?.getD { level := settings.logLevel }).level with
  | none =>
    rw [Log.Logger.make, hlevel] at h
    cases h
  | some level =>
    obtain ⟨lg, scene₁, hmake, -, -, hfiles, -⟩ := Log.Logger.make_inScene scene hlevel
    rw [bind_inScene hmake] at h
    change (openWith path settings lg : InScene _) scene₁ = _ at h
    rcases hread : (readProgram path settings.entries lg : InScene _) scene₁
      with ⟨_ | rom, scene₂⟩
    · rw [openWith, bind_inScene hread] at h
      cases h
    · obtain ⟨hkind, hentries⟩ :=
        Log.Logger.recordsOf_settings_isOk_iff.1 (recordsOf_of_readProgram hread)
      obtain ⟨scene₃, haccept⟩ := readProgram_accept path hkind hentries scene₁
      have hrom : Rom.accept path (scene₁.files path) = .ok rom :=
        congrArg Prod.fst (haccept.symm.trans hread)
      rw [openWith, bind_inScene hread] at h
      cases hsession : Session.start settings rom with
      | error e =>
        simp only [hsession] at h
        cases h
      | ok session =>
        simp only [hsession] at h
        cases h
        exact ⟨rom, scene₁, hfiles ▸ (Rom.accept_eq_ok_iff.1 hrom).1, hsession, hmake, hkind⟩

/-! ### Consoles that can come about -/

/-- A console that is opened and then carries out commands. -/
inductive Reachable : Console → Prop where
  | start {path : String} {settings : Settings} {options? : Option Log.Options} {c : Console}
      {scene scene' : Scene}
      (h : (start path settings options? : InScene _) scene = (.ok c, scene')) : Reachable c
  | perform {c c' : Console} {command : Command} {result : Except Error (Option Display)}
      {scene scene' : Scene} (hc : Reachable c)
      (h : (c.perform command : InScene _) scene = ((c', result), scene')) : Reachable c'

/-- The logger of a console that can come about is one for sessions. -/
theorem Reachable.kind_eq {c : Console} (hc : c.Reachable) : c.logger.kind = .sessions := by
  induction hc with
  | start h =>
    obtain ⟨_, _, -, -, -, hkind⟩ := of_start h
    exact hkind
  | @perform c c' command result scene scene' hc h ih =>
    obtain ⟨elapsed, lg, scene₁, hperform, hkind, -⟩ := c.perform_elapsed command scene
    cases h.symm.trans hperform
    exact hkind.trans ih

end Console

end Chip8
