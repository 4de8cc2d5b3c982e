import Chip8.Text.Printable

/-!
# `Chip8.Text.Quoted`: text in quotation marks

Quoted text stands between single quotes, or between double quotes if
it holds a single quote and no double quote. The mark and the backslash
are escaped, tab, line feed and carriage return have escapes of their
own, and any other character that is not printable is given by its
number in hexadecimal: two digits, or four, or eight, as few as hold it.
-/

set_option autoImplicit false

namespace Chip8.Text

/-- The number of a character as an escape. -/
def numericEscape (c : Char) : List Char :=
  let v := c.toNat
  let hex (width : Nat) := (Nat.toDigits 16 v).leftpad width '0'
  if v < 0x100 then '\\' :: 'x' :: hex 2
  else if v < 0x10000 then '\\' :: 'u' :: hex 4
  else '\\' :: 'U' :: hex 8

/-- A character as it stands between the quotation marks `mark`. -/
def quoteChar (mark c : Char) : List Char :=
  if c = mark ∨ c = '\\' then ['\\', c]
  else match c with
    | '\t' => ['\\', 't']
    | '\n' => ['\\', 'n']
    | '\r' => ['\\', 'r']
    | c => if isPrintable c then [c] else numericEscape c

/-- The quotation mark that needs the fewest escapes. -/
def quotationMark (cs : List Char) : Char :=
  if '\'' ∈ cs ∧ '"' ∉ cs then '"' else '\''

/-- Text in quotation marks. -/
def quoted (s : String) : String :=
  let cs := s.toList
  let mark := quotationMark cs
  String.ofList (mark :: cs.flatMap (quoteChar mark) ++ [mark])

end Chip8.Text
