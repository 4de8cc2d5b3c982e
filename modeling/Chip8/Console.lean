import Chip8.Log.Logger
import Chip8.Session

/-!
# `Chip8.Console`: a session that keeps a log

A console is a session with a logger. It opens the file of a program,
and passes on to the logger what is worth a note. The time that a run of
frames took is measured here.
-/

set_option autoImplicit false

namespace Chip8

/-- A session with a logger. -/
structure Console where
  /-- The session. -/
  session : Session
  /-- The logger. -/
  logger : Log.Logger

/-- The settings as a list of names and values, with `seed` as the value
of the seed. -/
def Settings.entriesWith (s : Settings) (seed : Log.Value) : List (String × Log.Value) :=
  [("cycles_per_frame", .number s.cyclesPerFrame),
   ("max_cycles_per_frame", .number s.maxCyclesPerFrame),
   ("seed", seed),
   ("log_level", .text s.logLevel),
   ("show_progress", .flag s.showProgress)]

/-- The settings as a list of names and values. -/
def Settings.entries (s : Settings) : List (String × Log.Value) := s.entriesWith (.number s.seed)

/-- What the logger is told of a notice, if the time `elapsed` passed
since the command was given. -/
def Notice.call (elapsed : Seconds) : Notice → Log.Call
  | fault pc f => .fault pc f.message
  | noFrame cycles => .message .warning s!"No frame after {cycles} cycles"
  | ran frames cycles => .run { frames, cycles, elapsed }
  | reset => .message .debug "Interpreter reset"

namespace Console

variable {m : Type → Type} [Monad m] [Surroundings m]

/-- Reads the program in the file `path`. A program that is too large is
logged as an error; otherwise the given settings and the size of the
program are logged. -/
def readProgram (path : String) (entries : List (String × Log.Value)) (logger : Log.Logger) :
    m (Except Error Rom) := do
  match ← Rom.readFile path with
  | .error e => return .error e
  | .ok rom =>
    if Rom.maxSize < rom.length then
      let e := Error.romTooLarge rom.length
      return (← logger.call (.message .error e.message)).bind fun _ => .error e
    else
      match ← logger.call (.settings entries) with
      | .error e => return .error e
      | .ok logger => return (← logger.call (.romLoaded path rom.length)).map fun _ => rom

/-- Opens the program in the file `path`. The machine is set up after the
program is read. -/
def openWith (path : String) (settings : Settings) (logger : Log.Logger) :
    m (Except Error Console) := do
  match ← readProgram path settings.entries logger with
  | .error e => return .error e
  | .ok rom =>
    match Session.start settings rom with
    | .ok session => return .ok { session, logger }
    | .error e => return .error e

/-- Opens the program in the file `path` with a logger of its own. Unless
it is told how to set the logger up, it takes the level from the
settings. -/
def start (path : String) (settings : Settings) (options? : Option Log.Options) :
    m (Except Error Console) := do
  match ← Log.Logger.make (options?.getD { level := settings.logLevel }) with
  | .ok logger => openWith path settings logger
  | .error e => return .error e

/-- Tells the logger of a notice, and gives the console with the logger
after that. -/
def note (c : Console) (elapsed : Seconds) (notice : Notice) : m (Console × Except Error Unit) := do
  match ← c.logger.call (notice.call elapsed) with
  | .ok logger => return ({ c with logger }, .ok ())
  | .error e => return (c, .error e)

/-- The time when a command is given. Only a run of frames needs it. -/
def startTime : Command → m Float
  | .runFrames _ => Surroundings.now
  | _ => return 0

/-- The time since `started` that a notice tells of. Only the notice
that a run came to its end tells of any. -/
def elapsedTime (started : Float) : Notice → m Seconds
  | .ran _ _ => return .double ((← Surroundings.now) - started)
  | _ => return .whole 0

/-- Carries out a command and logs what is worth a note. A run of frames
reads the clock when it starts and, unless the program went wrong, when
it has come to its end. -/
def perform (c : Console) (command : Command) :
    m (Console × Except Error (Option Display)) := do
  let started ← startTime command
  let outcome := c.session.perform command
  let c := { c with session := outcome.session }
  match outcome.notice with
  | none => return (c, outcome.result)
  | some notice =>
    let elapsed ← elapsedTime started notice
    let (c, logged) ← c.note elapsed notice
    return (c, logged.bind fun _ => outcome.result)

end Console

end Chip8
