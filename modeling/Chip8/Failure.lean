import Chip8.Fault

/-!
# `Chip8.Failure`: the checks that have failed

When many cycles are carried out in one go, a check that fails does not
stop them. It is noted as a `Failure`, which says where in a cycle the
check stands and what it has found. Of the failures with a fault of one
kind only the first is kept (`Failure.note`). Of those that are kept, one
for each kind at most, the one whose check stands first in a cycle is
reported (`Failure.report?`). It need not be the one that came first.
-/

set_option autoImplicit false

namespace Chip8

/-- The kinds of fault. Faults of one kind come with numbers of the same
types. -/
inductive Fault.Kind where
  /-- No numbers. -/
  | bare
  /-- An address. -/
  | address
  /-- An address and a length. -/
  | access
  /-- An address and a byte. -/
  | sum
deriving DecidableEq, Repr

/-- The kind of a fault. -/
def Fault.kind : Fault → Fault.Kind
  | .stackOverflow | .stackUnderflow => .bare
  | .fetchOutOfRange _ => .address
  | .accessOutOfRange _ _ => .access
  | .indexOverflow _ _ => .sum

/-- A check that has failed. -/
structure Failure where
  /-- The place of the check in a cycle. -/
  place : Nat
  /-- What the check has found. -/
  fault : Fault
deriving DecidableEq, Repr

namespace Failure

/-- Keeps a failure behind those that came before, unless there is one of
its kind among them. -/
def note (kept : List Failure) (f : Failure) : List Failure :=
  if kept.any fun g => g.fault.kind == f.fault.kind then kept else kept ++ [f]

/-- The failure that is reported, of those that were kept: the one with
the least place, and none if there are none. -/
def report? : List Failure → Option Failure
  | [] => none
  | f :: rest =>
    match report? rest with
    | none => some f
    | some g => some (if g.place < f.place then g else f)

end Failure

end Chip8
