import Chip8.Failure
import Chip8.Machine.Run

/-!
# `Chip8.Machine.Batch`: many cycles in one go

A batch of cycles does not stop at a fault. The check that fails is noted,
its instruction is carried out as far as it can be, and the batch goes on
to its end: to the last of its cycles (`Batch.run`), or to the first that
completes a frame (`Batch.runToFrame`). Only then is it looked at what was
noted (`Batch.result`). If a check has failed, one failure is reported, and
the machine is lost.

The checks have their places in the order in which a cycle comes to them:
the fetch first, and then the instructions by their numbers.
-/

set_option autoImplicit false

namespace Chip8

/-- The byte at address `a`, or the last one if `a` lies past the end. -/
def Memory.readClamped (m : Memory) (a : Nat) : UInt8 := m.read (min a (size - 1))

/-- Puts the low twelve bits of a return address into the topmost slot, in
place of what it holds. -/
def CallStack.overwrite (s : CallStack) (a : UInt16) : CallStack :=
  { s with slots := s.slots.set 15 (UInt16.ofNat (a.toNat % 4096)) }

/-- Clears the lowest slot. -/
def CallStack.clearLowest (s : CallStack) : CallStack := { s with slots := s.slots.set 0 0 }

/-- What an instruction does although its check has failed. Bytes past the
end of memory are not written, and read as the last byte of memory. A sum
that the index register cannot hold wraps around. A return from an empty
stack takes what the lowest slot holds, and a call with a full one
overwrites the topmost. -/
def Machine.performAnyway (s : Machine) : Instruction → Machine
  | .ret => { s with stack := s.stack.clearLowest, pc := s.stack.slots[0] }
  | .call target => { s with stack := s.stack.overwrite s.pc, pc := target.toWord }
  | .draw x y height =>
    let rows := (List.range height).map fun i => s.memory.readClamped (s.index.toNat + i)
    let sprite := Display.ofSprite ((s.registers.get x).toNat % Display.width)
      ((s.registers.get y).toNat % Display.height) rows
    let collision := bit (s.display.overlaps sprite)
    { s.setRegister Registers.flag collision with display := s.display.xor sprite }
  | .addIndex x =>
    { s with index := UInt16.ofNat (s.index.toNat + (s.registers.get x).toNat) }
  | .decimal x =>
    let v := s.registers.get x
    { s with memory := s.memory.writeBlock s.index.toNat [v / 100, v / 10 % 10, v % 10] }
  | .store x => { s with memory := s.memory.writeBlock s.index.toNat (s.registers.upTo x) }
  | .load x =>
    { s with
      registers := s.registers.loadUpTo x fun i => s.memory.readClamped (s.index.toNat + i) }
  | _ => s

/-- A machine in the middle of a batch. -/
structure Batch where
  /-- The machine. -/
  machine : Machine
  /-- The number of calls that have found the stack full and have not
  returned yet. -/
  excess : Nat := 0
  /-- The failures that are kept, the oldest first. -/
  failures : List Failure := []
deriving DecidableEq

namespace Batch

/-- A batch at its start. -/
def start (s : Machine) : Batch := { machine := s }

/-- The word at the program counter, and the batch stepped past it. -/
def fetch (b : Batch) : Batch × Word :=
  let s := b.machine
  match s.fetch with
  | .ok (t, w) => ({ b with machine := t }, w)
  | .error f =>
    -- The second address is a word of its own, so behind the last word comes address zero.
    ({ b with
        machine := { s with pc := s.pc + 2 }
        failures := Failure.note b.failures ⟨0, f⟩ },
      .ofBytes (s.memory.readClamped s.pc.toNat) (s.memory.readClamped (s.pc + 1).toNat))

/-- What an instruction does, the frame flag apart. A return from a call
that found the stack full goes to what the topmost slot holds, and leaves
it there. -/
def perform (b : Batch) (i : Instruction) : Batch :=
  if i = .ret ∧ 0 < b.excess then
    -- The stack is not empty, so no check fails here.
    { b with
      machine := { b.machine with pc := b.machine.stack.slots[15] }
      excess := b.excess - 1 }
  else
    match b.machine.perform i with
    | .ok s => { b with machine := s }
    | .error f =>
      { machine := b.machine.performAnyway i
        excess := if f = .stackOverflow then b.excess + 1 else b.excess
        failures := Failure.note b.failures ⟨i.opcode + 1, f⟩ }

/-- Carries out an instruction, and notes whether it completed a
frame. -/
def execute (b : Batch) (i : Instruction) : Batch :=
  let b := b.perform i
  { b with machine := { b.machine with frameReady := i.completesFrame } }

/-- Fetches one instruction and carries it out. -/
def cycle (b : Batch) : Batch :=
  let (b, w) := b.fetch
  b.execute (.decode w)

/-- The given number of cycles. -/
def run (b : Batch) : Nat → Batch
  | 0 => b
  | n + 1 => b.cycle.run n

/-- Cycles until a frame is complete, at most `budget` of them; `count`
cycles have gone before. Gives the number of cycles, those `count`
included. -/
def runToFrame (b : Batch) (count : Nat) : Nat → Batch × Nat
  | 0 => (b, count)
  | budget + 1 =>
    if b.machine.frameReady then (b, count) else b.cycle.runToFrame (count + 1) budget

/-- What comes of a batch: its machine, or the fault that is reported. -/
def result (b : Batch) : Except Fault Machine :=
  match Failure.report? b.failures with
  | none => .ok b.machine
  | some f => .error f.fault

end Batch

end Chip8
