/-!
# `Chip8.Double`: the double nearest to an exact value

An exact value is a quotient of integers. `Double.nearest?` rounds it to
a double: to the nearest, and half way between two to the one whose last
bit is zero. There is none for a value that would round to infinity
(`Double.bound`).
-/

set_option autoImplicit false

namespace Chip8

/-- The quotient rounded to the nearest, a half to the even neighbour. -/
def roundDiv (num den : Nat) : Nat :=
  let q := num / den
  let r := num % den
  if 2 * r < den ∨ (2 * r = den ∧ q % 2 = 0) then q else q + 1

namespace Double

/-- The least magnitude that rounds to infinity. It lies half a unit of
the last place beyond the largest double. -/
def bound : Nat := Nat.pow 2 1024 - Nat.pow 2 970

theorem bound_pos : 0 < bound := by decide +kernel

/-- The integers that do not round to infinity. -/
abbrev Fits (v : Int) : Prop := v.natAbs < bound

/-- The power of two that the last bit of the double nearest to
`num / den` stands for. -/
def lastPlace (num den : Nat) : Int :=
  let e : Int := num.log2 - den.log2
  let isBelow := num * Nat.pow 2 (-e).toNat < den * Nat.pow 2 e.toNat
  max ((if isBelow then e - 1 else e) - 52) (-1074)

/-- The bits of the double nearest to `num / den`. A significand that
rounds up to the next power of two carries into the exponent. -/
def nearestBits (num den : Nat) : Nat :=
  let e := lastPlace num den
  let significand := roundDiv (num * Nat.pow 2 (-e).toNat) (den * Nat.pow 2 e.toNat)
  if significand < Nat.pow 2 52 then significand
  else (e + 1075).toNat * Nat.pow 2 52 + (significand - Nat.pow 2 52)

example : nearestBits 1 10 = 0x3FB999999999999A := by decide +kernel

/-- The double nearest to `num / den`, unless that rounds to infinity. -/
def nearest? (num den : Nat) : Option Float :=
  if num < bound * den then some (Float.ofBits (UInt64.ofNat (nearestBits num den))) else none

/-- The double nearest to a quotient of integers. -/
def quotient? (a b : Int) : Option Float :=
  (nearest? a.natAbs b.natAbs).map fun x => if (a < 0) ≠ (b < 0) then -x else x

/-- The double nearest to an integer. -/
def ofInt? (v : Int) : Option Float := quotient? v 1

end Double

end Chip8
