/-!
# `Chip8.Log.Level`: how urgent a log record is

Levels are ranked from `debug` to `off`. A level can be chosen in any
letter case (`Level.choose?`), but is called by its exact name
(`Level.ofName?`).
-/

set_option autoImplicit false

namespace Chip8.Log

/-- The level of a log record, and of a logger that filters records. -/
inductive Level where
  /-- Details of interest when something is being looked into. -/
  | debug
  /-- What happens in a run. -/
  | info
  /-- Something that may not be what was wanted. -/
  | warning
  /-- Something that ended a run. -/
  | error
  /-- Above all other levels. -/
  | off
deriving DecidableEq, Repr

namespace Level

/-- The levels from the least to the most urgent. -/
def all : List Level := [debug, info, warning, error, off]

/-- The place of a level in the order of urgency. -/
def rank : Level → Nat
  | debug => 0
  | info => 1
  | warning => 2
  | error => 3
  | off => 4

/-- The name of a level. -/
def name : Level → String
  | debug => "DEBUG"
  | info => "INFO"
  | warning => "WARNING"
  | error => "ERROR"
  | off => "OFF"

/-- The level with exactly the given name. -/
def ofName? (s : String) : Option Level := all.find? fun l => l.name == s

/-- A character in upper case, as far as the names of the levels are
concerned. Outside ASCII only two characters have upper-case forms made
of letters that occur in a name: the dotless `ı` and the ligature `ﬀ`. -/
def upperChar (c : Char) : List Char :=
  match c with
  | 'ı' => ['I']
  | 'ﬀ' => ['F', 'F']
  | c => [c.toUpper]

/-- The level with the given name in any letter case. -/
def choose? (s : String) : Option Level :=
  ofName? (String.ofList (s.toList.flatMap upperChar))

end Level

end Chip8.Log
