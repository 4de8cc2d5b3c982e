import Chip8.Double

/-!
# `Chip8.Text.Fixed`: numbers with a fixed number of decimal places

A double is a whole number of halves, quarters, and so on, so its value
with a given number of decimal places is an exact quotient, rounded to
the nearest, a half to the even neighbour. `FixedStyle` says how the
digits are then set: how many places, whether thousands are grouped by
commas, and the least width, blanks to the left. The sign of a number
that rounds to zero is kept.
-/

set_option autoImplicit false

namespace Chip8.Text

/-- Commas between groups of three, counted from the front. -/
def groupThree : List Char → List Char
  | a :: b :: c :: d :: rest => a :: b :: c :: ',' :: groupThree (d :: rest)
  | rest => rest

/-- The decimal digits of a number, with or without commas between the
thousands. -/
def decimalDigits (grouped : Bool) (n : Nat) : List Char :=
  let digits := Nat.toDigits 10 n
  if grouped then (groupThree digits.reverse).reverse else digits

/-- An integer with commas between the thousands. -/
def grouped (v : Int) : String :=
  (if v < 0 then "-" else "") ++ String.ofList (decimalDigits true v.natAbs)

/-- An integer in upper-case hexadecimal with at least `width`
characters, zeros between the sign and the digits. -/
def paddedHex (width : Nat) (v : Int) : String :=
  let digits := (Nat.toDigits 16 v.natAbs).map Char.toUpper
  if v < 0 then "-" ++ String.ofList (digits.leftpad (width - 1) '0')
  else String.ofList (digits.leftpad width '0')

/-- How a number with decimal places is set. -/
structure FixedStyle where
  /-- The number of decimal places. -/
  places : Nat
  /-- Whether commas group the thousands. -/
  grouped : Bool := false
  /-- The least number of characters. -/
  width : Nat := 0

namespace FixedStyle

/-- The magnitude `scaled / 10 ^ places`, written out. -/
def digits (style : FixedStyle) (scaled : Nat) : List Char :=
  let unit := Nat.pow 10 style.places
  let whole := decimalDigits style.grouped (scaled / unit)
  if style.places = 0 then whole
  else whole ++ '.' :: (Nat.toDigits 10 (scaled % unit)).leftpad style.places '0'

/-- The magnitude of the double with the given exponent and fraction
fields, in units of the last decimal place. -/
def scale (style : FixedStyle) (exponent fraction : Nat) : Nat :=
  let significand := if exponent = 0 then fraction else fraction + Nat.pow 2 52
  let exponent := max exponent 1
  let num := significand * Nat.pow 10 style.places
  if 1075 ≤ exponent then num * Nat.pow 2 (exponent - 1075)
  else roundDiv num (Nat.pow 2 (1075 - exponent))

/-- A double in the given style. -/
def format (style : FixedStyle) (v : Float) : String :=
  let bits := v.toBits.toNat
  let exponent := bits / Nat.pow 2 52 % 2048
  let fraction := bits % Nat.pow 2 52
  let sign := if Nat.pow 2 63 ≤ bits then ['-'] else []
  let text :=
    if exponent = 2047 then
      if fraction = 0 then sign ++ ['i', 'n', 'f'] else ['n', 'a', 'n']
    else sign ++ style.digits (style.scale exponent fraction)
  String.ofList (text.leftpad style.width ' ')

end FixedStyle

end Chip8.Text
