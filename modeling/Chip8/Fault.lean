/-!
# `Chip8.Fault`: what a running program can do wrong

A fault is something a program asks for that the machine cannot do. It
carries the numbers that describe it; `Fault.message` is the one place
where faults are put into words.
-/

set_option autoImplicit false

namespace Chip8

/-- Why an instruction could not be carried out. -/
inductive Fault where
  /-- A call with all sixteen levels of the call stack in use. -/
  | stackOverflow
  /-- A return with no call to return from. -/
  | stackUnderflow
  /-- An instruction word that does not lie wholly inside memory. -/
  | fetchOutOfRange (pc : Nat)
  /-- A run of `length` bytes at the index register that does not lie
  wholly inside memory. -/
  | accessOutOfRange (index length : Nat)
  /-- A sum that the index register cannot hold. -/
  | indexOverflow (index addend : Nat)
deriving DecidableEq, Repr

/-- The text of a fault, which ends by saying that a check failed. -/
def Fault.message (f : Fault) : String :=
  let text := match f with
    | .stackOverflow => "call stack overflow: more than 16 nested calls"
    | .stackUnderflow => "call stack underflow: return with empty stack"
    | .fetchOutOfRange pc => s!"fetch out of range: pc={pc}"
    | .accessOutOfRange index length => s!"memory access out of range: I={index} length={length}"
    | .indexOverflow index addend => s!"index register overflow: I={index} + {addend}"
  text ++ " (`check` failed)"

end Chip8
