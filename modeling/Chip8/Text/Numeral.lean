import Chip8.Width

/-!
# `Chip8.Text.Numeral`: reading integers

A numeral may stand between blanks and have a sign. Its digits may be
those of any script, and single underscores may stand between digits.
In radix sixteen the digits may follow `0x`, and then also `0x_`; that
zero may be of any script too.
Decimal numerals of more than `maxDecimalDigits` digits are neither read
nor written.
-/

set_option autoImplicit false

namespace Chip8.Text.Numeral

/-- The blanks that may surround a numeral. -/
def isBlank (c : Char) : Bool :=
  let v := c.toNat
  (9 ≤ v && v ≤ 13) || v == 0x20 || v == 0x85 || v == 0xA0 || v == 0x1680
    || (0x2000 ≤ v && v ≤ 0x200A) || v == 0x2028 || v == 0x2029 || v == 0x202F || v == 0x205F
    || v == 0x3000

/-- The zeros of the decimal digits of all scripts; the digits one to
nine follow each of them. -/
def zeros : List Nat :=
  [0x30, 0x660, 0x6F0, 0x7C0, 0x966, 0x9E6, 0xA66, 0xAE6, 0xB66, 0xBE6, 0xC66, 0xCE6, 0xD66,
   0xDE6, 0xE50, 0xED0, 0xF20, 0x1040, 0x1090, 0x17E0, 0x1810, 0x1946, 0x19D0, 0x1A80, 0x1A90,
   0x1B50, 0x1BB0, 0x1C40, 0x1C50, 0xA620, 0xA8D0, 0xA900, 0xA9D0, 0xA9F0, 0xAA50, 0xABF0,
   0xFF10, 0x104A0, 0x10D30, 0x11066, 0x110F0, 0x11136, 0x111D0, 0x112F0, 0x11450, 0x114D0,
   0x11650, 0x116C0, 0x11730, 0x118E0, 0x11950, 0x11C50, 0x11D50, 0x11DA0, 0x16A60, 0x16AC0,
   0x16B50, 0x1D7CE, 0x1D7D8, 0x1D7E2, 0x1D7EC, 0x1D7F6, 0x1E140, 0x1E2F0, 0x1E950, 0x1FBF0]

/-- The value of a decimal digit of any script. -/
def decimalValue? (c : Char) : Option Nat :=
  (zeros.find? fun z => z ≤ c.toNat && c.toNat < z + 10).map (c.toNat - ·)

/-- A decimal digit of any script as one of `0` to `9`. Other characters
stay as they are. -/
def plainDigit (c : Char) : Char :=
  match decimalValue? c with
  | some v => Char.ofNat ('0'.toNat + v)
  | none => c

/-- The value of a letter as a digit above nine. -/
def letterValue? (c : Char) : Option Nat :=
  if 'a' ≤ c ∧ c ≤ 'z' then some (c.toNat - 'a'.toNat + 10)
  else if 'A' ≤ c ∧ c ≤ 'Z' then some (c.toNat - 'A'.toNat + 10)
  else none

/-- The value of a digit in the given radix. -/
def digitValue? (radix : Nat) (c : Char) : Option Nat :=
  ((decimalValue? c).orElse fun _ => letterValue? c).filter (· < radix)

/-- The values of a run of digits, single underscores between them. -/
def digitValues? (radix : Nat) : List Char → Option (List Nat)
  | [] => none
  | [c] => do return [← digitValue? radix c]
  | c :: '_' :: rest => do return (← digitValue? radix c) :: (← digitValues? radix rest)
  | c :: rest => do return (← digitValue? radix c) :: (← digitValues? radix rest)

/-- The most digits that a decimal numeral may have. -/
def maxDecimalDigits : Nat := 4300

/-- The value of an unsigned numeral in radix ten or sixteen. -/
def readNat? (radix : Nat) (cs : List Char) : Option Nat := do
  let cs := match radix, cs.map plainDigit with
    | 16, '0' :: 'x' :: '_' :: rest | 16, '0' :: 'X' :: '_' :: rest => rest
    | 16, '0' :: 'x' :: rest | 16, '0' :: 'X' :: rest => rest
    | _, cs => cs
  let values ← digitValues? radix cs
  if radix = 10 ∧ maxDecimalDigits < values.length then none
  else return values.foldl (fun v d => radix * v + d) 0

/-- The value of a numeral in radix ten or sixteen. -/
def read? (radix : Nat) (s : String) : Option Int :=
  let cs := ((s.toList.dropWhile isBlank).reverse.dropWhile isBlank).reverse
  match cs with
  | '-' :: rest => (readNat? radix rest).map fun v => -(v : Int)
  | '+' :: rest => (readNat? radix rest).map fun v => (v : Int)
  | rest => (readNat? radix rest).map fun v => (v : Int)

/-- The least number with too many digits. It is much too large to be
worked out on the way. -/
@[irreducible]
def bound : Nat := Nat.pow 10 maxDecimalDigits

/-- Whether the decimal numeral of an integer has few enough digits. -/
def isWritable (v : Int) : Bool := v.natAbs < bound

theorem isWritable_iff {v : Int} : isWritable v = true ↔ v.natAbs < bound := by
  rw [isWritable, decide_eq_true_iff]

/-- A number of few bits can be written. -/
theorem isWritable_of_fits {v : Int} (h : FitsSigned 64 v) : isWritable v = true := by
  have hbound : signedBound 64 < bound := by decide +kernel
  obtain ⟨hlow, hhigh⟩ := h
  rw [isWritable_iff]
  omega

/-- What is said of an integer that is not writable. -/
def notWritable : String :=
  s!"Exceeds the limit ({maxDecimalDigits} digits) for integer string conversion; " ++
  "use sys.set_int_max_str_digits() to increase the limit"

end Chip8.Text.Numeral
