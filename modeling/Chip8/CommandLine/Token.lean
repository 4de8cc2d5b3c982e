import Chip8.CommandLine.Refusal
import Chip8.Text.Numeral

/-!
# `Chip8.CommandLine.Token`: what each argument is

Before anything is read from the arguments, each is sorted by its looks
alone (`Token.classify`). A lone `--` ends the flags: whatever follows it
is a plain argument. So is what does not start with a dash, a lone dash,
a negative number, and an unknown flag with a blank in it.
-/

set_option autoImplicit false

namespace Chip8.CommandLine

/-- An argument, sorted. -/
inductive Token where
  /-- A plain argument. -/
  | plain (text : String)
  /-- The end of the flags. -/
  | separator
  /-- A flag, with the text after `=` if there is any. -/
  | flag (f : Flag) (attached : Option String)
  /-- The short flag for help with text attached, after `=` or not. -/
  | helpCluster (text : List Char)
  /-- Something that looks like a flag but is none. -/
  | unknown (text : String)
deriving DecidableEq, Repr

/-- The text before and after the first `=`. -/
def splitAtEquals (cs : List Char) : List Char × Option (List Char) :=
  match cs.dropWhile (· != '=') with
  | [] => (cs, none)
  | _ :: attached => (cs.takeWhile (· != '='), some attached)

/-- Whether a character is a decimal digit of any script. -/
def isDigit (c : Char) : Bool := (Text.Numeral.decimalValue? c).isSome

/-- Whether text looks like a negative number: a minus sign and digits,
perhaps with a decimal point that digits follow. A line feed may stand
at the end. -/
def looksNegative : List Char → Bool
  | '-' :: cs =>
    let cs := if cs.getLast? = some '\n' then cs.dropLast else cs
    match cs.dropWhile isDigit with
    | [] => !cs.isEmpty
    | '.' :: places => !places.isEmpty && places.all isDigit
    | _ => false
  | _ => false

namespace Token

/-- The flag and attached text that an argument with two dashes may be
short for. -/
def abbreviation? (text : String) : Except Refusal (Option Token) :=
  let (start, attached) := splitAtEquals text.toList
  match Flag.startingWith start with
  | [] => .ok none
  | [f] => .ok (some (.flag f (attached.map String.ofList)))
  | flags => .error (.ambiguous text flags)

/-- The flag that an argument starting with a dash gives, if any. -/
def flag? (text : String) : Except Refusal (Option Token) :=
  match Flag.named? text with
  | some f => .ok (some (.flag f none))
  | none =>
    match text.toList with
    | '-' :: '-' :: _ =>
      let (name, attached) := splitAtEquals text.toList
      match Flag.named? (String.ofList name), attached with
      | some f, some attached => .ok (some (.flag f (some (String.ofList attached))))
      | _, _ => abbreviation? text
    | '-' :: 'h' :: '=' :: attached => .ok (some (.helpCluster attached))
    | '-' :: 'h' :: attached => .ok (some (.helpCluster attached))
    | _ => .ok none

/-- What an argument before the end of the flags is. -/
def classify (text : String) : Except Refusal Token :=
  match text.toList with
  | ['-', '-'] => .ok .separator
  | '-' :: c :: cs => do
    match ← flag? text with
    | some token => return token
    | none =>
      if looksNegative ('-' :: c :: cs) || (c :: cs).contains ' ' then return .plain text
      else return .unknown text
  | _ => .ok (.plain text)

/-- Sorts all arguments. -/
def classifyAll : List String → Except Refusal (List Token)
  | [] => .ok []
  | text :: rest => do
    match ← classify text with
    | .separator => return .separator :: rest.map .plain
    | token => return token :: (← classifyAll rest)

end Token

end Chip8.CommandLine
