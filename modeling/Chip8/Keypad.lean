/-!
# `Chip8.Keypad`: the hexadecimal keypad

The machine sees one key at a time: the latch holds the number of the
key that was pressed last and has not been released since, or `-1`. The
latch is a register like any other, wide enough for numbers that no key
has. Such a number counts as a key that is held down, but it is none of
the sixteen.
-/

set_option autoImplicit false

namespace Chip8

/-- A key of the keypad. -/
abbrev Key := Fin 16

/-- The key with the given number, for numbers in `0 .. 15`. -/
def Key.ofInt? (k : Int) : Option Key :=
  if h : 0 ≤ k ∧ k < 16 then some ⟨k.toNat, by omega⟩ else none

/-- A key, or no key at all. Each of these seventeen has a number and a
name. -/
abbrev KeySymbol := Option Key

namespace KeySymbol

/-- The number of a key, `-1` for none. -/
def code : KeySymbol → Int
  | none => -1
  | some k => k.val

/-- The name of a key. -/
def name : KeySymbol → String
  | none => "NONE"
  | some k => "KEY_" ++ (Nat.toDigits 16 k.val |>.map Char.toUpper |> String.ofList)

/-- No key, and then all keys. -/
def all : List KeySymbol := none :: (List.finRange 16).map some

/-- The key with the given number, or no key for `-1`. -/
def ofCode? (code : Int) : Option KeySymbol :=
  if code = -1 then some none else (Key.ofInt? code).map some

end KeySymbol

/-- The register that tells which key is held down. -/
structure Latch where
  /-- The number in the register. -/
  code : Int32
deriving DecidableEq

namespace Latch

/-- The latch while no key is held down. -/
def empty : Latch := ⟨Int32.ofInt (-1)⟩

/-- The latch while the key `k` is held down. -/
def holding (k : Key) : Latch := ⟨Int32.ofNat k.val⟩

/-- Whether the key `k` is held down. -/
def holds (l : Latch) (k : Key) : Bool := l == holding k

/-- The low byte of the number of the key that is held down, if any. -/
def byte? (l : Latch) : Option UInt8 :=
  if l = empty then none else some l.code.toUInt32.toUInt8

@[simp] theorem holding_ne_empty (k : Key) : holding k ≠ empty := by
  revert k
  decide

@[simp] theorem byte?_empty : byte? empty = none := rfl

@[simp] theorem byte?_holding (k : Key) : (holding k).byte? = some (UInt8.ofNat k.val) := by
  revert k
  decide

@[simp] theorem holds_empty (k : Key) : empty.holds k = false := by
  revert k
  decide

@[simp] theorem holds_holding (j k : Key) : (holding j).holds k = decide (j = k) := by
  revert j k
  decide

end Latch

end Chip8
