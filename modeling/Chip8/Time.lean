import Chip8.Double

/-!
# `Chip8.Time`: seconds

A length of time is a number of seconds, whole or with places. What is
worked out from a whole number of seconds is rounded only once.
-/

set_option autoImplicit false

namespace Chip8

/-- A length of time in seconds. -/
inductive Seconds where
  /-- A whole number of seconds. -/
  | whole (n : Int)
  /-- A number of seconds with places. -/
  | double (x : Float)

namespace Seconds

/-- Whether any time has passed. -/
def isPositive : Seconds → Bool
  | whole n => 0 < n
  | double x => 0 < x

/-- The double nearest to a length of time, if it is not too large. -/
def toDouble? : Seconds → Option Float
  | whole n => Double.ofInt? n
  | double x => some x

/-- How many of `count` things happened in a second, if that is not too
large for a double. -/
def rate? (count : Int) : Seconds → Option Float
  | whole n => Double.quotient? count n
  | double x => (Double.ofInt? count).map (· / x)

end Seconds

end Chip8
