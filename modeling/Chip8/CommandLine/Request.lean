import Chip8.CommandLine.Token
import Chip8.Settings

/-!
# `Chip8.CommandLine.Request`: what the arguments ask for

The sorted arguments are read from left to right into a draft
(`Draft.read`). The first plain argument names the file; flags may stand
anywhere, and the last of a repeated flag counts. Two dashes as the value
of a flag leave it without a value, which only the run finds fault with.
Reading ends early where help is asked for or a flag makes no sense. What
is left over is collected and refused at the end.
-/

set_option autoImplicit false

namespace Chip8.CommandLine

/-- What a run was asked for. A flag that was left without a value has the
value `none`. -/
structure Request where
  /-- The name of the file with the program. -/
  rom : String
  /-- The number of frames to run. -/
  frames : Option Int
  /-- The number of cycles in a frame. -/
  cyclesPerFrame : Option Int
  /-- The seed of the random source. -/
  seed : Option Int
  /-- Whether a key is to be held down, and its number. -/
  key : Option (Option Int)
  /-- The least level that is logged. -/
  logLevel : Option Log.Level
  /-- Whether to show how far the run has come. -/
  progress : Bool
deriving DecidableEq, Repr

/-- What ends the reading of the arguments before a run. -/
inductive Stop where
  /-- Help was asked for. -/
  | help
  /-- The arguments make no sense. -/
  | refused (why : Refusal)
deriving DecidableEq, Repr

/-- A request while the arguments are being read. -/
structure Draft where
  /-- The name of the file with the program. -/
  rom : Option String := none
  /-- The number of frames to run. -/
  frames : Option Int := some 60
  /-- The number of cycles in a frame. -/
  cyclesPerFrame : Option Int := some 11
  /-- The seed of the random source. -/
  seed : Option Int := some 0
  /-- Whether a key is to be held down, and its number. -/
  key : Option (Option Int) := none
  /-- The least level that is logged. -/
  logLevel : Option Log.Level := some .info
  /-- Whether to show how far the run has come. -/
  progress : Bool := false
  /-- The arguments that meant nothing, in their order. -/
  leftOver : List String := []
deriving DecidableEq, Repr

namespace Draft

/-- Takes the value of a flag, if it can be read. -/
def assign? (d : Draft) (v : Valued) (text : String) : Option Draft :=
  match v with
  | .frames => (Text.Numeral.read? 10 text).map fun n => { d with frames := some n }
  | .cyclesPerFrame => (Text.Numeral.read? 10 text).map fun n => { d with cyclesPerFrame := some n }
  | .seed => (Text.Numeral.read? 10 text).map fun n => { d with seed := some n }
  | .key => (Text.Numeral.read? 16 text).map fun n => { d with key := some (some n) }
  | .logLevel => (Log.Level.ofName? text).map fun l => { d with logLevel := some l }

/-- Leaves a flag without a value. -/
def vacate (d : Draft) : Valued → Draft
  | .frames => { d with frames := none }
  | .cyclesPerFrame => { d with cyclesPerFrame := none }
  | .seed => { d with seed := none }
  | .key => { d with key := some none }
  | .logLevel => { d with logLevel := none }

/-- Takes the value of a flag, or refuses it. -/
def assign (d : Draft) (v : Valued) (text : String) : Except Stop Draft :=
  if text = "--" then .ok (d.vacate v)
  else match d.assign? v text with
    | some d => .ok d
    | none => .error (.refused (.valueInvalid v text))

/-- Puts an argument aside. -/
def setAside (d : Draft) (text : String) : Draft := { d with leftOver := d.leftOver ++ [text] }

/-- What the text attached to the short flag for help leads to. The flag
may be repeated there; anything else is a value that it does not take. -/
def helpCluster : List Char → Stop
  | ['h'] => .help
  | 'h' :: cs => helpCluster cs
  | cs => .refused (.valueUnwanted .help (String.ofList cs))

/-- Reads the sorted arguments. The end of the flags is dropped where it
stands next to the argument that names the file. -/
def read (d : Draft) : List Token → Except Stop Draft
  | [] => .ok d
  | .plain text :: rest =>
    match d.rom, rest with
    | none, .separator :: rest => { d with rom := some text }.read rest
    | none, rest => { d with rom := some text }.read rest
    | some _, rest => (d.setAside text).read rest
  | .separator :: rest =>
    match d.rom, rest with
    | none, .plain text :: rest => { d with rom := some text }.read rest
    | _, rest => (d.setAside "--").read rest
  | .unknown text :: rest => (d.setAside text).read rest
  | .helpCluster text :: _ => .error (helpCluster text)
  | .flag .help none :: _ => .error .help
  | .flag .progress none :: rest => { d with progress := true }.read rest
  | .flag (.valued v) (some text) :: rest => do
    let d ← d.assign v text
    d.read rest
  | .flag (.valued v) none :: .plain text :: rest => do
    let d ← d.assign v text
    d.read rest
  | .flag (.valued v) none :: _ => .error (.refused (.valueMissing v))
  | .flag f (some value) :: _ => .error (.refused (.valueUnwanted f value))

/-- The request that a draft amounts to. -/
def finish (d : Draft) : Except Stop Request :=
  match d.rom with
  | none => .error (.refused .romMissing)
  | some rom =>
    if d.leftOver.isEmpty then
      .ok
        { rom
          frames := d.frames
          cyclesPerFrame := d.cyclesPerFrame
          seed := d.seed
          key := d.key
          logLevel := d.logLevel
          progress := d.progress }
    else .error (.refused (.unrecognized d.leftOver))

end Draft

/-- What the arguments ask for. -/
def Request.ofArguments (arguments : List String) : Except Stop Request := do
  let tokens ← (Token.classifyAll arguments).mapError .refused
  let draft ← ({} : Draft).read tokens
  draft.finish

end Chip8.CommandLine
