import Chip8.Instruction
import Chip8.Machine.Basic

/-!
# `Chip8.Machine.Execute`: carrying out one instruction

`Machine.execute` carries out a decoded instruction; the program counter
already points past it. Operands are read before anything is written,
and a flag is written last, so it wins when the result register is `VF`
itself. An instruction that the machine cannot carry out gives a
`Fault`, and then there is no new state.
-/

set_option autoImplicit false

namespace Chip8.Machine

/-- Steps over the next word if `c` holds. -/
def skipIf (s : Machine) (c : Bool) : Machine := if c then { s with pc := s.pc + 2 } else s

/-- Puts `b` into register `x`. -/
def setRegister (s : Machine) (x : Fin 16) (b : UInt8) : Machine :=
  { s with registers := s.registers.set x b }

/-- Fails unless the `length` bytes at the index register lie inside
memory. Of an empty run of bytes the start must not lie past the end. -/
def checkAccess (s : Machine) (length : Nat) : Except Fault Unit :=
  if s.index.toNat + length ≤ Memory.size then .ok ()
  else .error (.accessOutOfRange s.index.toNat length)

/-- The sprite of `height` rows at the index register, with its corner
at the coordinates in `VX` and `VY`, brought onto the screen. -/
def sprite (s : Machine) (x y height : Fin 16) : Display :=
  .ofSprite ((s.registers.get x).toNat % Display.width) ((s.registers.get y).toNat % Display.height)
    (s.memory.readBlock s.index.toNat height)

/-- Whether the key that is held down is the one in the low nibble of
`VX`. -/
def keyMatches (s : Machine) (x : Fin 16) : Bool :=
  s.key.holds ⟨(s.registers.get x).toNat % 16, by omega⟩

/-- What an instruction does, the frame flag apart. -/
def perform (s : Machine) : Instruction → Except Fault Machine
  | .idle => .ok s
  | .clear => .ok { s with display := .blank }
  | .ret => do
    let (stack, a) ← s.stack.pop
    return { s with stack, pc := a }
  | .jump target => .ok { s with pc := target.toWord }
  | .call target => do
    let stack ← s.stack.push s.pc
    return { s with stack, pc := target.toWord }
  | .skipEqByte x b => .ok (s.skipIf (s.registers.get x == b))
  | .skipNeByte x b => .ok (s.skipIf (s.registers.get x != b))
  | .skipEq x y => .ok (s.skipIf (s.registers.get x == s.registers.get y))
  | .skipNe x y => .ok (s.skipIf (s.registers.get x != s.registers.get y))
  | .setByte x b => .ok (s.setRegister x b)
  | .addByte x b => .ok (s.setRegister x (s.registers.get x + b))
  | .alu op x y =>
    let a := s.registers.get x
    let b := s.registers.get y
    let t := s.setRegister x (op.result a b)
    match op.flag? a b with
    | some flag => .ok (t.setRegister Registers.flag flag)
    | none => .ok t
  | .setIndex target => .ok { s with index := target.toWord }
  | .jumpOffset target =>
    let sum := target.val + (s.registers.get Registers.offset).toNat
    .ok { s with pc := UInt16.ofNat (sum % Memory.size) }
  | .random x mask =>
    .ok { s.setRegister x (s.random.byte &&& mask) with random := s.random.next }
  | .draw x y height => do
    s.checkAccess height
    let sprite := s.sprite x y height
    let collision := bit (s.display.overlaps sprite)
    return { s.setRegister Registers.flag collision with display := s.display.xor sprite }
  | .skipKey x => .ok (s.skipIf (s.keyMatches x))
  | .skipNoKey x => .ok (s.skipIf !(s.keyMatches x))
  | .getDelay x => .ok (s.setRegister x s.delay)
  | .waitKey x =>
    match s.key.byte? with
    | some b => .ok (s.setRegister x b)
    | none => .ok { s with pc := s.pc - 2 }
  | .setDelay x => .ok { s with delay := s.registers.get x }
  | .setSound x => .ok { s with sound := s.registers.get x }
  | .addIndex x =>
    let sum := s.index.toNat + (s.registers.get x).toNat
    if sum < 65536 then .ok { s with index := UInt16.ofNat sum }
    else .error (.indexOverflow s.index.toNat (s.registers.get x).toNat)
  | .glyph x =>
    let digit := (s.registers.get x).toNat % 16
    .ok { s with index := UInt16.ofNat (Font.start + digit * Font.glyphSize) }
  | .decimal x => do
    s.checkAccess 3
    let v := s.registers.get x
    return { s with memory := s.memory.writeBlock s.index.toNat [v / 100, v / 10 % 10, v % 10] }
  | .store x => do
    s.checkAccess (x + 1)
    return { s with memory := s.memory.writeBlock s.index.toNat (s.registers.upTo x) }
  | .load x => do
    s.checkAccess (x + 1)
    return { s with registers := s.registers.loadUpTo x fun i => s.memory.read (s.index.toNat + i) }

/-- Carries out an instruction, and notes whether it completed a
frame. -/
def execute (s : Machine) (i : Instruction) : Except Fault Machine := do
  let t ← s.perform i
  return { t with frameReady := i.completesFrame }

end Chip8.Machine
