import Chip8.Machine.Execute

/-!
# `Chip8.Machine.Run`: running a program

One cycle fetches the word at the program counter, steps over it, and
carries it out. Between the cycles of a program the host counts the timers
down and works the keypad. `Machine.replay` carries out a sequence of
such events, one at a time, up to the first that fails.
-/

set_option autoImplicit false

namespace Chip8.Machine

/-- The word at the program counter, and the machine stepped past it. -/
def fetch (s : Machine) : Except Fault (Machine × Word) :=
  let pc := s.pc.toNat
  if pc + 1 < Memory.size then
    .ok ({ s with pc := s.pc + 2 }, Word.ofBytes (s.memory.read pc) (s.memory.read (pc + 1)))
  else .error (.fetchOutOfRange pc)

/-- Fetches one instruction and carries it out. -/
def cycle (s : Machine) : Except Fault Machine := do
  let (s, w) ← s.fetch
  s.execute (.decode w)

/-- Something that moves the machine on: a cycle of the program, or an
act of the host. -/
inductive Event where
  /-- One cycle. -/
  | cycle
  /-- The timers count down. -/
  | tick
  /-- A key goes down. -/
  | press (k : Key)
  /-- The key comes up. -/
  | release
deriving DecidableEq, Repr

/-- What an event does to the machine. -/
def apply (s : Machine) : Event → Except Fault Machine
  | .cycle => s.cycle
  | .tick => .ok s.tick
  | .press k => .ok (s.press k)
  | .release => .ok s.release

/-- What a sequence of events does to the machine. -/
def replay (s : Machine) (events : List Event) : Except Fault Machine := events.foldlM apply s

end Chip8.Machine
