import Chip8.Log.Value
import Chip8.Surroundings
import Chip8.Text.Fixed
import Chip8.Time

/-!
# `Chip8.Log.Logger`: writing log records

A logger is told what happened by a `Call`. A call is worth a list of
records (`Call.records`), and the logger writes those whose level is at
least its own (`Logger.admits`), one line each (`Logger.write`). A call
with a number that cannot be written goes wrong, and settings that do so
have been written in part by then (`Call.begun`). A
summary of a run is also kept in the logger's history, whether or not it
is written. What happens to a session is noted by a logger made for
sessions only (`Kind`).
-/

set_option autoImplicit false

namespace Chip8.Log

/-- One line of the log, before it is set. -/
structure Record where
  /-- Its level. -/
  level : Level
  /-- Its text. -/
  text : String
deriving DecidableEq, Repr

/-- What is remembered of a run. -/
structure RunSummary where
  /-- The number of frames asked for. -/
  frames : Int
  /-- The number of cycles it took. -/
  cycles : Int
  /-- How long it took. -/
  elapsed : Seconds

namespace RunSummary

/-- How the length of a run is set. -/
def elapsedStyle : Text.FixedStyle := { places := 2 }

/-- How the speed of a run is set. -/
def rateStyle : Text.FixedStyle := { places := 0, grouped := true }

/-- The number of cycles in a second, zero unless the run took some
time. -/
def rate? (r : RunSummary) : Option Float :=
  if r.elapsed.isPositive then r.elapsed.rate? r.cycles else some 0

/-- The text of a summary. It shows the length and the speed of the run
as doubles. The speed is worked out first, and then the parts of the text
are set from left to right. -/
def text (r : RunSummary) : Except Error String :=
  match r.rate? with
  | none => .error (.tooWide r.cycles)
  | some rate =>
    if !Text.Numeral.isWritable r.frames then .error (.notWritable r.frames)
    else if !Text.Numeral.isWritable r.cycles then .error (.notWritable r.cycles)
    else
      match r.elapsed.toDouble? with
      | none => .error (.tooWide r.cycles)
      | some elapsed =>
        let length := elapsedStyle.format elapsed
        let speed := rateStyle.format rate
        .ok s!"Ran {r.frames} frames, {r.cycles} cycles in {length}s ({speed} cycles/s)"

end RunSummary

/-- Something that a logger is told. -/
inductive Call where
  /-- A message. -/
  | message (level : Level) (text : String)
  /-- A message at the level with the given name. -/
  | named (level text : String)
  /-- The settings of a session. -/
  | settings (entries : List (String × Value))
  /-- A program was loaded. -/
  | romLoaded (path : String) (size : Int)
  /-- A run came to its end. -/
  | run (summary : RunSummary)
  /-- A program went wrong. -/
  | fault (pc : Int) (text : String)

namespace Call

/-- The name that a call about a session goes by. A message has none. -/
def sessionName? : Call → Option String
  | message _ _ => none
  | named _ _ => none
  | settings _ => some "log_config"
  | romLoaded _ _ => some "log_rom_loaded"
  | run _ => some "log_run"
  | fault _ _ => some "log_fault"

/-- The record in front of some settings. -/
def settingsHeading : Record := ⟨.debug, "Interpreter configuration:"⟩

/-- The record of one of the settings. -/
def settingRecord (entry : String × Value) : Record :=
  ⟨.debug, s!"  {entry.1}: {entry.2.render}"⟩

/-- The records that a call is worth, if all numbers in it can be
written. -/
def records : Call → Except Error (List Record)
  | message level text => .ok [⟨level, text⟩]
  | named name text =>
    match Level.ofName? name with
    | some level => .ok [⟨level, text⟩]
    | none => .error (.unknownRecordLevel name)
  | settings entries =>
    match entries.findSome? fun entry => entry.2.unwritable? with
    | none => .ok (settingsHeading :: entries.map settingRecord)
    | some v => .error (.notWritable v)
  | romLoaded path size =>
    if Text.Numeral.isWritable size then .ok [⟨.info, s!"Loaded ROM {path} ({size} bytes)"⟩]
    else .error (.notWritable size)
  | run summary => summary.text.map fun text => [⟨.info, text⟩]
  | fault pc text =>
    .ok [⟨.error, s!"Machine fault near pc=0x{Text.paddedHex 3 pc}: {text}"⟩]

/-- The records of a call that goes wrong that come before it does.
Settings are recorded one by one, up to the first that cannot be. -/
def begun : Call → List Record
  | settings entries =>
    settingsHeading
      :: (entries.takeWhile fun entry => entry.2.unwritable?.isNone).map settingRecord
  | _ => []

end Call

/-- What a logger can be told. -/
inductive Kind where
  /-- Messages, and nothing else. -/
  | messages
  /-- Messages, and what happens to a session. -/
  | sessions
deriving DecidableEq, Repr

namespace Kind

/-- The name of a kind of logger. -/
def name : Kind → String
  | messages => "ConsoleLogger"
  | sessions => "InterpreterLogger"

/-- Checks that loggers of a kind can be told of a call. -/
def check (k : Kind) (c : Call) : Except Error Unit :=
  match k, c.sessionName? with
  | messages, some call => .error (.unsupported k.name call)
  | _, _ => .ok ()

end Kind

/-- How a logger is to be set up. -/
structure Options where
  /-- What it can be told. -/
  kind : Kind := .sessions
  /-- The name that stands in each line. -/
  name : String := "chix8"
  /-- The name of the least level that is written, in any letter case. -/
  level : String := "INFO"
  /-- Whether to set warnings and errors off by colour on a terminal. -/
  colors : Bool := true
  /-- Whether each line starts with the time since the logger was made. -/
  timestamps : Bool := true

/-- A logger. -/
structure Logger where
  /-- What it can be told. -/
  kind : Kind := .sessions
  /-- The name that stands in each line. -/
  name : String
  /-- The least level that is written. -/
  level : Level
  /-- Whether warnings and errors are set off by colour. -/
  colors : Bool
  /-- Whether each line starts with the time since the logger was made. -/
  timestamps : Bool
  /-- The time when the logger was made. -/
  started : Float
  /-- The runs that came to their end, the latest last. -/
  history : List RunSummary := []

namespace Logger

/-- Whether records of the given level are written. -/
def admits (lg : Logger) (l : Level) : Bool := lg.level.rank ≤ l.rank

/-- Whether records of the level with the given name are written. -/
def admitsNamed (lg : Logger) (name : String) : Except Error Bool :=
  match Level.ofName? name with
  | some level => .ok (lg.admits level)
  | none => .error (.unknownRecordLevel name)

/-- How the time at the front of a line is set. -/
def timeStyle : Text.FixedStyle := { places := 2, width := 8 }

/-- The control sequence that starts the colour of a level. -/
def highlight? : Level → Option String
  | .warning => some "\x1b[33m"
  | .error => some "\x1b[31m"
  | _ => none

/-- The level of a record in brackets, set off by colour if need be. -/
def tag (lg : Logger) (l : Level) : String :=
  let tag := "[" ++ l.name ++ "]"
  match highlight? l with
  | some color => if lg.colors then color ++ tag ++ "\x1b[0m" else tag
  | none => tag

/-- The line of a record without the time. -/
def untimedLine (lg : Logger) (r : Record) : String :=
  lg.tag r.level ++ "[" ++ lg.name ++ "] " ++ r.text ++ "\n"

/-- The line of a record written at the time `now`. -/
def timedLine (lg : Logger) (r : Record) (now : Float) : String :=
  "[" ++ timeStyle.format (now - lg.started) ++ "s]" ++ lg.untimedLine r

/-- The logger after a call: a summary of a run is added to the
history. -/
def remember (lg : Logger) : Call → Logger
  | .run summary => { lg with history := lg.history ++ [summary] }
  | _ => lg

variable {m : Type → Type} [Monad m] [Surroundings m]

/-- Makes a logger, which reads the clock once. -/
def make (o : Options) : m (Except Error Logger) :=
  match Level.choose? o.level with
  | none => return .error (.unknownLevel o.level)
  | some level => do
    let terminal ← Surroundings.onTerminal
    let started ← Surroundings.now
    return .ok
      { kind := o.kind
        name := o.name
        level
        colors := o.colors && terminal
        timestamps := o.timestamps
        started }

/-- Writes a record. -/
def write (lg : Logger) (r : Record) : m Unit := do
  if lg.timestamps then
    Surroundings.report (lg.timedLine r (← Surroundings.now))
  else
    Surroundings.report (lg.untimedLine r)

/-- The records that a call to the logger is worth. -/
def recordsOf (lg : Logger) (c : Call) : Except Error (List Record) :=
  (lg.kind.check c).bind fun _ => c.records

/-- The records of a call that are there to be written, whether the call
goes wrong or not. A logger that cannot be told of the call has none. -/
def recordsUntil (lg : Logger) (c : Call) : List Record :=
  match lg.kind.check c with
  | .error _ => []
  | .ok _ =>
    match c.records with
    | .ok records => records
    | .error _ => c.begun

/-- Tells the logger something. -/
def call (lg : Logger) (c : Call) : m (Except Error Logger) := do
  ((lg.recordsUntil c).filter fun r => lg.admits r.level).forM lg.write
  return (lg.recordsOf c).map fun _ => lg.remember c

end Logger

end Chip8.Log
