import Chip8.CommandLine.Flag
import Chip8.Log.Level
import Chip8.Text.Quoted

/-!
# `Chip8.CommandLine.Refusal`: arguments that make no sense

A command line that cannot be understood is refused, for one of the
causes listed in `Refusal`. `Refusal.message` puts the cause into words.
-/

set_option autoImplicit false

namespace Chip8.CommandLine

/-- Why a command line is refused. -/
inductive Refusal where
  /-- A shortened flag that can mean several. -/
  | ambiguous (text : String) (flags : List Flag)
  /-- A flag without its value. -/
  | valueMissing (v : Valued)
  /-- A value attached to a flag that has none. -/
  | valueUnwanted (f : Flag) (value : String)
  /-- A value that cannot be read. -/
  | valueInvalid (v : Valued) (value : String)
  /-- No file is named. -/
  | romMissing
  /-- Arguments that mean nothing. -/
  | unrecognized (arguments : List String)
deriving DecidableEq, Repr

namespace Refusal

/-- What is wrong with the value of a flag. -/
def invalidValue (v : Valued) (value : String) : String :=
  match v with
  | .logLevel =>
    let choices := ", ".intercalate (Log.Level.all.map fun l => Text.quoted l.name)
    s!"invalid choice: {Text.quoted value} (choose from {choices})"
  | .key => s!"invalid <lambda> value: {Text.quoted value}"
  | _ => s!"invalid int value: {Text.quoted value}"

/-- The text of a refusal. -/
def message : Refusal → String
  | ambiguous text flags =>
    s!"ambiguous option: {text} could match " ++ ", ".intercalate (flags.map Flag.name)
  | valueMissing v => s!"argument {v.name}: expected one argument"
  | valueUnwanted f value => s!"argument {f.label}: ignored explicit argument {Text.quoted value}"
  | valueInvalid v value => s!"argument {v.name}: {invalidValue v value}"
  | romMissing => "the following arguments are required: rom"
  | unrecognized arguments => s!"unrecognized arguments: " ++ " ".intercalate arguments

end Refusal

end Chip8.CommandLine
