/-!
# `Chip8.Alu`: arithmetic on two bytes

Nine operations take two bytes to a result byte; five of them also give
a flag: the carry of an addition, the absence of a borrow for the two
subtractions, the bit that a shift moves out. The shifts move the first
byte by one place and ignore the second.
-/

set_option autoImplicit false

namespace Chip8

/-- An operation on two bytes. -/
inductive AluOp where
  /-- The second byte. -/
  | move
  /-- The bits set in either byte. -/
  | or
  /-- The bits set in both bytes. -/
  | and
  /-- The bits set in exactly one byte. -/
  | xor
  /-- The sum, with its carry. -/
  | add
  /-- The first byte minus the second, with the flag set if there is no
  borrow. -/
  | sub
  /-- The first byte shifted right, with the bit that falls out. -/
  | shiftRight
  /-- The second byte minus the first, with the flag set if there is no
  borrow. -/
  | subFrom
  /-- The first byte shifted left, with the bit that falls out. -/
  | shiftLeft
deriving DecidableEq, Repr

/-- One for a condition that holds, zero for one that does not. -/
def bit (c : Bool) : UInt8 := if c then 1 else 0

namespace AluOp

/-- The result byte. -/
def result (a b : UInt8) : AluOp → UInt8
  | move => b
  | or => a ||| b
  | and => a &&& b
  | xor => a ^^^ b
  | add => a + b
  | sub => a - b
  | shiftRight => a / 2
  | subFrom => b - a
  | shiftLeft => a + a

/-- The flag, for the operations that have one. -/
def flag? (a b : UInt8) : AluOp → Option UInt8
  | move | or | and | xor => none
  | add => some (bit (255 < a.toNat + b.toNat))
  | sub => some (bit (b ≤ a))
  | shiftRight => some (a % 2)
  | subFrom => some (bit (a ≤ b))
  | shiftLeft => some (bit (128 ≤ a))

end AluOp

end Chip8
