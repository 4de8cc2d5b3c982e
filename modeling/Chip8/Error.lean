import Chip8.Fault
import Chip8.Log.Level
import Chip8.Machine.Basic
import Chip8.Text.Numeral
import Chip8.Text.Quoted

/-!
# `Chip8.Error`: what can go wrong on the host's side

Besides the faults of a running program, the host meets programs that do
not fit, files that cannot be read, and values that are out of range.
`Error.message` puts all of them into words.
-/

set_option autoImplicit false

namespace Chip8

/-- Why a file could not be read or written. -/
inductive FileError where
  /-- There is no such file. -/
  | missing
  /-- The name is that of a directory. -/
  | directory
  /-- The way to the file leads through one that is no directory. -/
  | notDirectory
  /-- The name, or a part of it, is longer than any name can be. -/
  | nameTooLong
  /-- The name holds a character that no file name can hold. -/
  | nulInName
  /-- Any other cause, with its number and its description. -/
  | other (number : Nat) (reason : String)
deriving DecidableEq, Repr

/-- The text that says why the file `name` could not be used. -/
def FileError.message (name : String) : FileError → String
  | missing => s!"[Errno 2] No such file or directory: {Text.quoted name}"
  | directory => s!"[Errno 21] Is a directory: {Text.quoted name}"
  | notDirectory => s!"[Errno 20] Not a directory: {Text.quoted name}"
  | nameTooLong => s!"[Errno 36] File name too long: {Text.quoted name}"
  | nulInName => "embedded null byte"
  | other number reason => s!"[Errno {number}] {reason}: {Text.quoted name}"

/-- Why something that the host asked for was not done. -/
inductive Error where
  /-- The program did something that the machine cannot do. -/
  | fault (f : Fault)
  /-- The program does not fit in memory. -/
  | romTooLarge (size : Nat)
  /-- The file of the program cannot be used. -/
  | unreadable (name : String) (why : FileError)
  /-- There is no key with this number. -/
  | keyOutOfRange (key : Int)
  /-- A setting that must be positive is not. -/
  | notPositive (setting : String) (value : Int)
  /-- A logger was asked for a level that does not exist. -/
  | unknownLevel (text : String)
  /-- A record was given a level that does not exist. -/
  | unknownRecordLevel (text : String)
  /-- An enumeration has no member with this number. -/
  | notAMember (value : Int) (enumeration : String)
  /-- A number needs more bits than the place it is meant for has. -/
  | tooWide (value : Int)
  /-- A number has too many digits to be written. -/
  | notWritable (value : Int)
  /-- Loggers of this kind cannot be told of this call. -/
  | unsupported (kind call : String)
deriving DecidableEq, Repr

/-- A text that tells an integer, or what is said instead if the integer
cannot be written. -/
def Error.telling (value : Int) (text : String) : String :=
  if Text.Numeral.isWritable value then text else Text.Numeral.notWritable

/-- The text of an error. -/
def Error.message : Error → String
  | fault f => f.message
  | romTooLarge size => s!"ROM is {size} bytes, at most {Rom.maxSize} bytes fit in memory"
  | unreadable name why => why.message name
  | keyOutOfRange key => telling key s!"Key must be in 0..15, got {key}"
  | notPositive setting value => telling value s!"{setting} must be positive, got {value}"
  | unknownLevel text =>
    let available := ", ".intercalate (Log.Level.all.map fun l => Text.quoted l.name)
    "Unknown log level '" ++ text ++ "'. Available: [" ++ available ++ "]"
  | unknownRecordLevel _ => "tuple.index(x): x not in tuple"
  | notAMember value enumeration => telling value s!"{value} is not a valid {enumeration}"
  | tooWide value => s!"{value} is out of range"
  | notWritable _ => Text.Numeral.notWritable
  | unsupported kind call => s!"'{kind}' object has no attribute '{call}'"

end Chip8
