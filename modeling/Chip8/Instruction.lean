import Chip8.Alu
import Chip8.Word

/-!
# `Chip8.Instruction`: the instruction set

`Instruction` lists what the machine can be told to do, each
instruction with its operands. `Instruction.decode` reads a word. It
looks at no more of the word than it needs: group `0` and the groups
`E` and `F` are told apart by the low byte alone, group `8` by the low
nibble, and `5` and `9` ignore the low nibble. A word without a meaning
decodes to `idle`.

Every kind of instruction has a number, `Instruction.opcode`, and a
mnemonic, `Opcode.mnemonic`. `Decoded` is a word taken apart for someone
who looks at it from outside: its number and all of its operands, whether
the instruction uses them or not.
-/

set_option autoImplicit false

namespace Chip8

/-- An instruction with its operands. -/
inductive Instruction where
  /-- Nothing; also every word without a meaning. -/
  | idle
  /-- Darken the screen. -/
  | clear
  /-- Return from a subroutine. -/
  | ret
  /-- Go on at `target`. -/
  | jump (target : Address)
  /-- Call the subroutine at `target`. -/
  | call (target : Address)
  /-- Skip the next word if `VX` is `b`. -/
  | skipEqByte (x : Fin 16) (b : UInt8)
  /-- Skip the next word unless `VX` is `b`. -/
  | skipNeByte (x : Fin 16) (b : UInt8)
  /-- Skip the next word if `VX` is `VY`. -/
  | skipEq (x y : Fin 16)
  /-- Set `VX` to `b`. -/
  | setByte (x : Fin 16) (b : UInt8)
  /-- Add `b` to `VX`, without a carry. -/
  | addByte (x : Fin 16) (b : UInt8)
  /-- Put the result of `op` on `VX` and `VY` into `VX`, and its flag
  into `VF`. -/
  | alu (op : AluOp) (x y : Fin 16)
  /-- Skip the next word unless `VX` is `VY`. -/
  | skipNe (x y : Fin 16)
  /-- Set the index register. -/
  | setIndex (target : Address)
  /-- Go on at `target` plus `V0`. -/
  | jumpOffset (target : Address)
  /-- Set `VX` to the bits of a random byte that `mask` keeps. -/
  | random (x : Fin 16) (mask : UInt8)
  /-- Draw the sprite of `height` rows at the index register. -/
  | draw (x y height : Fin 16)
  /-- Skip the next word if the key `VX` is held down. -/
  | skipKey (x : Fin 16)
  /-- Skip the next word unless the key `VX` is held down. -/
  | skipNoKey (x : Fin 16)
  /-- Set `VX` to the delay timer. -/
  | getDelay (x : Fin 16)
  /-- Wait for a key and put its number into `VX`. -/
  | waitKey (x : Fin 16)
  /-- Set the delay timer to `VX`. -/
  | setDelay (x : Fin 16)
  /-- Set the sound timer to `VX`. -/
  | setSound (x : Fin 16)
  /-- Add `VX` to the index register. -/
  | addIndex (x : Fin 16)
  /-- Point the index register at the glyph of the digit in `VX`. -/
  | glyph (x : Fin 16)
  /-- Store the three decimal digits of `VX` at the index register. -/
  | decimal (x : Fin 16)
  /-- Store `V0` to `VX` at the index register. -/
  | store (x : Fin 16)
  /-- Load `V0` to `VX` from the index register. -/
  | load (x : Fin 16)
deriving DecidableEq, Repr

/-- The number of a kind of instruction. -/
abbrev Opcode := Fin 35

/-- The mnemonics in the order of the opcodes. -/
def Opcode.mnemonics : Vector String 35 :=
  #v["SYS", "CLS", "RET", "JP", "CALL", "SE_VX_BYTE", "SNE_VX_BYTE", "SE_VX_VY", "LD_VX_BYTE",
    "ADD_VX_BYTE", "LD_VX_VY", "OR", "AND", "XOR", "ADD_VX_VY", "SUB", "SHR", "SUBN", "SHL",
    "SNE_VX_VY", "LD_I_ADDR", "JP_V0", "RND", "DRW", "SKP", "SKNP", "LD_VX_DT", "LD_VX_K",
    "LD_DT_VX", "LD_ST_VX", "ADD_I_VX", "LD_F_VX", "LD_B_VX", "LD_I_VX", "LD_VX_I"]

/-- The mnemonic of an opcode. -/
def Opcode.mnemonic (o : Opcode) : String := mnemonics[o]

/-- The opcode with the given number, for numbers in `0 .. 34`. -/
def Opcode.ofInt? (v : Int) : Option Opcode :=
  if h : 0 ≤ v ∧ v < 35 then some ⟨v.toNat, by omega⟩ else none

namespace Instruction

/-- The number of the kind of an instruction. -/
def opcode : Instruction → Opcode
  | idle => 0
  | clear => 1
  | ret => 2
  | jump _ => 3
  | call _ => 4
  | skipEqByte _ _ => 5
  | skipNeByte _ _ => 6
  | skipEq _ _ => 7
  | setByte _ _ => 8
  | addByte _ _ => 9
  | alu .move _ _ => 10
  | alu .or _ _ => 11
  | alu .and _ _ => 12
  | alu .xor _ _ => 13
  | alu .add _ _ => 14
  | alu .sub _ _ => 15
  | alu .shiftRight _ _ => 16
  | alu .subFrom _ _ => 17
  | alu .shiftLeft _ _ => 18
  | skipNe _ _ => 19
  | setIndex _ => 20
  | jumpOffset _ => 21
  | random _ _ => 22
  | draw _ _ _ => 23
  | skipKey _ => 24
  | skipNoKey _ => 25
  | getDelay _ => 26
  | waitKey _ => 27
  | setDelay _ => 28
  | setSound _ => 29
  | addIndex _ => 30
  | glyph _ => 31
  | decimal _ => 32
  | store _ => 33
  | load _ => 34

/-- Whether an instruction completes a frame: clearing and drawing do. -/
def completesFrame : Instruction → Bool
  | clear | draw _ _ _ => true
  | _ => false

/-- The words of group `0`. -/
def decodeSystem (w : Word) : Instruction :=
  match w.kk.toNat with
  | 0xE0 => clear
  | 0xEE => ret
  | _ => idle

/-- The words of group `8`. -/
def decodeAlu (w : Word) : Instruction :=
  match w.n.val with
  | 0x0 => alu .move w.x w.y
  | 0x1 => alu .or w.x w.y
  | 0x2 => alu .and w.x w.y
  | 0x3 => alu .xor w.x w.y
  | 0x4 => alu .add w.x w.y
  | 0x5 => alu .sub w.x w.y
  | 0x6 => alu .shiftRight w.x w.y
  | 0x7 => alu .subFrom w.x w.y
  | 0xE => alu .shiftLeft w.x w.y
  | _ => idle

/-- The words of group `E`. -/
def decodeKeypad (w : Word) : Instruction :=
  match w.kk.toNat with
  | 0x9E => skipKey w.x
  | 0xA1 => skipNoKey w.x
  | _ => idle

/-- The words of group `F`. -/
def decodeMisc (w : Word) : Instruction :=
  match w.kk.toNat with
  | 0x07 => getDelay w.x
  | 0x0A => waitKey w.x
  | 0x15 => setDelay w.x
  | 0x18 => setSound w.x
  | 0x1E => addIndex w.x
  | 0x29 => glyph w.x
  | 0x33 => decimal w.x
  | 0x55 => store w.x
  | 0x65 => load w.x
  | _ => idle

/-- The instruction that a word stands for. -/
def decode (w : Word) : Instruction :=
  match w.group.val with
  | 0x0 => decodeSystem w
  | 0x1 => jump w.nnn
  | 0x2 => call w.nnn
  | 0x3 => skipEqByte w.x w.kk
  | 0x4 => skipNeByte w.x w.kk
  | 0x5 => skipEq w.x w.y
  | 0x6 => setByte w.x w.kk
  | 0x7 => addByte w.x w.kk
  | 0x8 => decodeAlu w
  | 0x9 => skipNe w.x w.y
  | 0xA => setIndex w.nnn
  | 0xB => jumpOffset w.nnn
  | 0xC => random w.x w.kk
  | 0xD => draw w.x w.y w.n
  | 0xE => decodeKeypad w
  | _ => decodeMisc w

end Instruction

/-- A word taken apart. -/
structure Decoded where
  /-- The word. -/
  raw : Word
  /-- The number of the instruction that it stands for. -/
  operation : Opcode
  /-- The second nibble. -/
  x : Fin 16
  /-- The third nibble. -/
  y : Fin 16
  /-- The lowest nibble. -/
  n : Fin 16
  /-- The low byte. -/
  kk : UInt8
  /-- The low twelve bits. -/
  nnn : Address
deriving DecidableEq, Repr

/-- Takes a word apart. -/
def Decoded.ofWord (w : Word) : Decoded where
  raw := w
  operation := (Instruction.decode w).opcode
  x := w.x
  y := w.y
  n := w.n
  kk := w.kk
  nnn := w.nnn

end Chip8
