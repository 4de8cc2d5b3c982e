import Chip8.Fault

/-!
# `Chip8.CallStack`: the addresses to return to

The call stack has sixteen slots, filled from the bottom. `push` and
`pop` keep the slots above the top at zero: a popped slot is cleared.
`CallStack.entries` is the list of pending return addresses, oldest
first.
-/

set_option autoImplicit false

namespace Chip8

/-- The call stack: its slots, and how many of them are in use. -/
structure CallStack where
  /-- The slots, oldest first. -/
  slots : Vector UInt16 16
  /-- The number of slots in use. -/
  depth : Nat
  /-- No more slots are in use than there are. -/
  depth_le : depth ≤ 16 := by omega
deriving DecidableEq

namespace CallStack

/-- The stack with no pending return. -/
def empty : CallStack where
  slots := Vector.replicate 16 0
  depth := 0

/-- The addresses in use, oldest first. -/
def entries (s : CallStack) : List UInt16 := s.slots.toList.take s.depth

/-- Adds the low twelve bits of a return address on top. -/
def push (s : CallStack) (a : UInt16) : Except Fault CallStack :=
  if h : s.depth < 16 then
    .ok { slots := s.slots.set s.depth (UInt16.ofNat (a.toNat % 4096)), depth := s.depth + 1 }
  else .error .stackOverflow

/-- Takes the topmost address off and clears its slot. -/
def pop (s : CallStack) : Except Fault (CallStack × UInt16) :=
  if h : 0 < s.depth then
    have := s.depth_le
    .ok ({ slots := s.slots.set (s.depth - 1) 0, depth := s.depth - 1 }, s.slots[s.depth - 1])
  else .error .stackUnderflow

end CallStack

end Chip8
