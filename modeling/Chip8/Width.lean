/-!
# `Chip8.Width`: numbers that fit a register

An integer has as many digits as it needs, but a register does not. A
signed register of `bits` bits holds the integers of `FitsSigned bits`.
-/

set_option autoImplicit false

namespace Chip8

/-- How many integers below zero a signed register of `bits` bits can
hold. -/
def signedBound (bits : Nat) : Nat := Nat.pow 2 (bits - 1)

theorem signedBound_pos (bits : Nat) : 0 < signedBound bits := Nat.pow_pos Nat.two_pos

/-- The integers that a signed register of `bits` bits can hold. -/
def FitsSigned (bits : Nat) (v : Int) : Prop :=
  -(signedBound bits : Int) ≤ v ∧ v < signedBound bits

-- A comparison of natural numbers can be unfolded for an integer that is not known.
instance (bits : Nat) (v : Int) : Decidable (FitsSigned bits v) :=
  decidable_of_iff (v.toNat < signedBound bits ∧ (-v).toNat ≤ signedBound bits) <| by
    have hpos := signedBound_pos bits
    rw [FitsSigned]
    omega

example (v : Int) : FitsSigned 32 v ↔ -2147483648 ≤ v ∧ v < 2147483648 := Iff.rfl

example (v : Int) :
    FitsSigned 64 v ↔ -9223372036854775808 ≤ v ∧ v < 9223372036854775808 := Iff.rfl

end Chip8
