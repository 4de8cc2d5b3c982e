import Chip8.CommandLine.Request
import Chip8.CommandLine.Usage
import Chip8.Console
import Chip8.Picture

/-!
# `Chip8.CommandLine.Run`: from arguments to a picture

`CommandLine.run` reads the arguments, runs the program they name
without a window, and gives the picture on the screen afterwards.
Errors of the program and its file are reported. Settings that cannot be
used, numbers that are too wide for their place, and flags without a
value are passed on to the caller.
-/

set_option autoImplicit false

namespace Chip8.CommandLine

/-- What keeps a run from coming to its end. -/
inductive Obstacle where
  /-- Something went wrong. -/
  | error (e : Error)
  /-- The value of a flag is needed that was left without one. -/
  | vacant (v : Valued)
deriving DecidableEq, Repr

namespace Obstacle

/-- What is said when the value of a flag is needed that was left without
one. -/
def vacantMessage : Valued → String
  | .frames => "unsupported format string passed to list.__format__"
  | .cyclesPerFrame => "'<=' not supported between instances of 'list' and 'int'"
  | .seed =>
    "PRNGKey accepts a scalar seed, but was given an array of shape (0,) != (). " ++
    "Use jax.vmap for batching"
  | .key => "int() argument must be a string, a bytes-like object or a real number, not 'list'"
  | .logLevel => "'list' object has no attribute 'upper'"

/-- The text of an obstacle. -/
def message : Obstacle → String
  | error e => e.message
  | vacant v => vacantMessage v

end Obstacle

/-- How a command line came to its end. -/
inductive Ending where
  /-- The program was run, or an error was reported. -/
  | finished (code : Nat) (output : String)
  /-- There was nothing to run. -/
  | declined (code : Nat) (output : String)
  /-- Something that is not reported here. -/
  | escaped (o : Obstacle)
deriving DecidableEq, Repr

namespace Request

/-- The value of a flag that cannot be done without. -/
def need {α : Type} (v : Valued) : Option α → Except Obstacle α
  | some a => .ok a
  | none => .error (.vacant v)

/-- The settings for a request. They are checked before the level of the
log is looked at. -/
def settings (r : Request) : Except Obstacle Settings := do
  let cyclesPerFrame ← need .cyclesPerFrame r.cyclesPerFrame
  let draft : Settings.Draft :=
    { cyclesPerFrame, seed := r.seed.getD 0, showProgress := r.progress }
  let settings ← draft.check.mapError .error
  let level ← need .logLevel r.logLevel
  return { settings with logLevel := level.name }

variable {m : Type → Type} [Monad m] [Surroundings m]

/-- Opens the program. Without a seed this comes to its end where the
machine is to be set up. -/
def start (r : Request) (settings : Settings) : m (Except Obstacle Console) := do
  match ← Log.Logger.make { level := settings.logLevel } with
  | .error e => return .error (.error e)
  | .ok logger =>
    match r.seed with
    | some _ => return (← Console.openWith r.rom settings logger).mapError .error
    | none =>
      match ← Console.readProgram r.rom (settings.entriesWith (.list [])) logger with
      | .error e => return .error (.error e)
      | .ok _ => return .error (.vacant .seed)

/-- Holds down the key asked for, if any. -/
def holdKey (r : Request) (console : Console) : m (Except Obstacle Console) := do
  match r.key with
  | none => return .ok console
  | some none => return .error (.vacant .key)
  | some (some key) =>
    match ← console.perform (.press key) with
    | (console, .ok _) => return .ok console
    | (_, .error e) => return .error (.error e)

/-- Runs the frames asked for, with the key held down from the start,
and gives the display afterwards. -/
def display (r : Request) (settings : Settings) : m (Except Obstacle (Option Display)) := do
  match ← r.start settings with
  | .error o => return .error o
  | .ok console =>
    match ← r.holdKey console with
    | .error o => return .error o
    | .ok console =>
      match r.frames with
      | none => return .error (.vacant .frames)
      | some frames => return (← console.perform (.runFrames frames)).2.mapError .error

/-- The picture of a display, as it is printed. -/
def picture (d : Display) : String :=
  Picture.render Picture.litMark Picture.darkMark d.toRows ++ "\n"

/-- Reports what came of a run. -/
def conclude : Except Obstacle (Option Display) → m Ending
  | .ok shown => return .finished 0 ((shown.map picture).getD "")
  | .error (.vacant v) => return .escaped (.vacant v)
  | .error (.error (.tooWide value)) => return .escaped (.error (.tooWide value))
  | .error (.error e) => do
    Surroundings.report s!"Error: {e.message}\n"
    return .finished 1 ""

/-- Runs what was asked for. -/
def run (r : Request) : m Ending :=
  match r.settings with
  | .error o => return .escaped o
  | .ok settings => do conclude (← r.display settings)

end Request

variable {m : Type → Type} [Monad m] [Surroundings m]

/-- What the program does when it is started with the given
arguments. -/
def run (arguments : List String) : m Ending :=
  match Request.ofArguments arguments with
  | .ok request => request.run
  | .error .help => return .declined 0 help
  | .error (.refused why) => do
    Surroundings.report why.explanation
    return .declined 2 ""

end Chip8.CommandLine
