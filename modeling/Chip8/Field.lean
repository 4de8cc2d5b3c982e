/-!
# `Chip8.Field`: the fields of an integer

A host may hold an instruction as an integer of any size. `Field.read`
reads a field off it with a mask and a shift. The bits of a negative
integer are those of its two's complement, with ones without end on the
left: the bits of `-(m + 1)` are those of `m` turned over (`andMask`).
-/

set_option autoImplicit false

namespace Chip8

/-- The bits of an integer that a mask keeps. -/
def andMask (mask : Nat) : Int → Int
  | .ofNat m => .ofNat (m &&& mask)
  | .negSucc m => .ofNat (mask ^^^ (m &&& mask))

/-- A field of an instruction. -/
inductive Field where
  /-- The top nibble, which selects the group of instructions. -/
  | group
  /-- The second nibble, the number of the register `VX`. -/
  | x
  /-- The third nibble, the number of the register `VY`. -/
  | y
  /-- The lowest nibble. -/
  | n
  /-- The low byte. -/
  | kk
  /-- The low twelve bits. -/
  | nnn
deriving DecidableEq, Repr

namespace Field

/-- The bits of a field. -/
def mask : Field → Nat
  | group => 0xF000
  | x => 0x0F00
  | y => 0x00F0
  | n => 0x000F
  | kk => 0x00FF
  | nnn => 0x0FFF

/-- How many bits lie below a field. -/
def shift : Field → Nat
  | group => 12
  | x => 8
  | y => 4
  | n | kk | nnn => 0

/-- The value of a field in an integer. -/
def read (f : Field) (w : Int) : Int := andMask f.mask w >>> f.shift

end Field

end Chip8
