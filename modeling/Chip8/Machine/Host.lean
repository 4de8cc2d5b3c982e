import Chip8.Machine.Batch
import Chip8.Machine.Load
import Chip8.Width

/-!
# `Chip8.Machine.Host`: the machine in the hands of a host

A host names words, keys, seeds and numbers of cycles by integers. Here
such a number either fits its place or is refused with an `Error`, and a
fault of the program becomes an error of the host. More than one cycle at
a time is a `Batch`, so that the fault is the one that a batch reports.
-/

set_option autoImplicit false

namespace Chip8

/-- The word with the value `w`. -/
def Word.lookUp (w : Int) : Except Error Word :=
  match ofInt? w with
  | some w => .ok w
  | none => .error (.tooWide w)

/-- The word with the value `w`, taken apart. -/
def Decoded.lookUp (w : Int) : Except Error Decoded := do
  let w ← Word.lookUp w
  return .ofWord w

/-- The key with the given number, or no key for `-1`. -/
def KeySymbol.lookUp (code : Int) : Except Error KeySymbol :=
  match ofCode? code with
  | some symbol => .ok symbol
  | none => .error (.notAMember code "Key")

/-- The opcode with the given number. -/
def Opcode.lookUp (v : Int) : Except Error Opcode :=
  match ofInt? v with
  | some opcode => .ok opcode
  | none => .error (.notAMember v "Operation")

/-- The random key for a seed that fits 64 bits. -/
def RandomKey.ofSeed? (seed : Int) : Option RandomKey :=
  if FitsSigned 64 seed then some (.ofSeed seed) else none

namespace Machine

/-- The machine before a program is loaded, for a seed of the random
source. -/
def ofSeed (seed : Int) : Except Error Machine :=
  match RandomKey.ofSeed? seed with
  | some random => .ok (boot random)
  | none => .error (.tooWide seed)

/-- Carries out the low sixteen bits of an integer that fits 32 bits. -/
def executeInt (s : Machine) (w : Int) : Except Error Machine :=
  if FitsSigned 32 w then (s.execute (.decode (.ofInt w))).mapError .fault
  else .error (.tooWide w)

/-- The given number of cycles in one go, none at all if it is negative.
The number must not be too large for a counter of 32 bits. -/
def runCycles (s : Machine) (n : Int) : Except Error Machine :=
  if n.toNat < signedBound 32 then
    ((Batch.start s).run n.toNat).result.mapError .fault
  else .error (.tooWide n)

/-- Cycles in one go until an instruction completes a frame, and the number
of cycles taken. A frame that was ready before does not count. The budget
has to fit a counter of 32 bits; a negative budget is spent from the
start. -/
def runWithin (s : Machine) (budget : Int) : Except Error (Machine × Nat) :=
  if FitsSigned 32 budget then
    let loop := (Batch.start { s with frameReady := false }).runToFrame 0 budget.toNat
    (loop.1.result.map fun t => (t, loop.2)).mapError .fault
  else .error (.tooWide budget)

/-- Holds the key with the given number down. -/
def pressInt (s : Machine) (key : Int) : Except Error Machine :=
  match Key.ofInt? key with
  | some k => .ok (s.press k)
  | none => .error (.keyOutOfRange key)

end Machine

end Chip8
