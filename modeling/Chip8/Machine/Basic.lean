import Chip8.CallStack
import Chip8.Display
import Chip8.Font
import Chip8.Keypad
import Chip8.Memory
import Chip8.Random
import Chip8.Registers

/-!
# `Chip8.Machine`: the state of the machine

A `Machine` holds everything a program can observe or change. It starts
as `Machine.boot`, with the font in memory and all else zero, and a
program is placed at `Rom.start` by `Machine.loadRom?`. Besides the
program, the host acts on the machine: it presses and releases keys and
counts the timers down.
-/

set_option autoImplicit false

namespace Chip8

/-- A program: the bytes of its file. -/
abbrev Rom := List UInt8

namespace Rom

/-- The address where programs are placed, and where they start. -/
def start : Nat := 0x200

/-- The number of bytes between `start` and the end of memory. -/
def maxSize : Nat := Memory.size - start

end Rom

/-- The state of the machine. -/
@[ext] structure Machine where
  /-- The memory. -/
  memory : Memory
  /-- The general registers. -/
  registers : Registers
  /-- The index register, `I`. -/
  index : UInt16
  /-- The address of the next instruction word. -/
  pc : UInt16
  /-- The pending returns. -/
  stack : CallStack
  /-- The screen. -/
  display : Display
  /-- The delay timer. -/
  delay : UInt8
  /-- The sound timer; the tone sounds while it is not zero. -/
  sound : UInt8
  /-- The latch of the keypad. -/
  key : Latch
  /-- Whether the instruction carried out last completed a frame. -/
  frameReady : Bool
  /-- The key of the random source. -/
  random : RandomKey
deriving DecidableEq

/-- A timer counted down by one, but not below zero. -/
def Timer.tick (t : UInt8) : UInt8 := if t = 0 then 0 else t - 1

namespace Machine

/-- The machine before a program is loaded: the font lies in memory. -/
def boot (random : RandomKey) : Machine where
  memory := Memory.zero.writeBlock Font.start Font.data
  registers := .zero
  index := 0
  pc := UInt16.ofNat Rom.start
  stack := .empty
  display := .blank
  delay := 0
  sound := 0
  key := .empty
  frameReady := false
  random := random

/-- The machine with a program put at `Rom.start`, or `none` if the
program does not fit there. -/
def loadRom? (s : Machine) (rom : Rom) : Option Machine :=
  if rom.length ≤ Rom.maxSize then
    some { s with memory := s.memory.writeBlock Rom.start rom }
  else none

/-- Holds `k` down, in place of any other key. -/
def press (s : Machine) (k : Key) : Machine := { s with key := .holding k }

/-- Lets go of the key. -/
def release (s : Machine) : Machine := { s with key := .empty }

/-- Counts both timers down by one. -/
def tick (s : Machine) : Machine :=
  { s with delay := Timer.tick s.delay, sound := Timer.tick s.sound }

end Machine

end Chip8
