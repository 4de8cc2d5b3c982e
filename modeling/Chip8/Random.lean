/-!
# `Chip8.Random`: the source of random bytes

Randomness is a pure function of a key of two 32-bit words. A draw
splits the key in two: one half is the next key, the other is spent on
the byte. `threefry` is the Threefry-2x32 block function with twenty
rounds: five groups of four rounds, each followed by adding in a key
word and the number of the group.
-/

set_option autoImplicit false

namespace Chip8

/-- A key of the random source, or one block of its output. -/
structure RandomKey where
  /-- The first word. -/
  fst : UInt32
  /-- The second word. -/
  snd : UInt32
deriving DecidableEq, Repr

namespace RandomKey

/-- The key for a seed: its low 32 bits, below a word that is zero. -/
def ofSeed (seed : Int) : RandomKey := ⟨0, UInt32.ofNat (seed % 4294967296).toNat⟩

/-- The bits of a word moved up by `r` places, those that leave at the
top entering at the bottom. -/
def rotateLeft (w r : UInt32) : UInt32 := (w <<< r) ||| (w >>> (32 - r))

/-- One round: add, rotate by `r`, exclusive or. -/
def round (b : RandomKey) (r : UInt32) : RandomKey :=
  let sum := b.fst + b.snd
  ⟨sum, rotateLeft b.snd r ^^^ sum⟩

/-- Four rounds, then the key words `k₁` and `k₂` and the group number
are added in. -/
def group (rotations : List UInt32) (k₁ k₂ number : UInt32) (b : RandomKey) : RandomKey :=
  let b := rotations.foldl round b
  ⟨b.fst + k₁, b.snd + k₂ + number⟩

/-- The block that the key `k` gives for the counter `(a, b)`. -/
def threefry (k : RandomKey) (a b : UInt32) : RandomKey :=
  let k₂ := k.fst ^^^ k.snd ^^^ 0x1BD11BDA
  let even : List UInt32 := [13, 15, 26, 6]
  let odd : List UInt32 := [17, 29, 16, 24]
  (⟨a + k.fst, b + k.snd⟩ : RandomKey)
    |> group even k.snd k₂ 1
    |> group odd k₂ k.fst 2
    |> group even k.fst k.snd 3
    |> group odd k.snd k₂ 4
    |> group even k₂ k.fst 5

/-- The two keys that a key splits into. -/
def split (k : RandomKey) : RandomKey × RandomKey := (k.threefry 0 0, k.threefry 0 1)

/-- The key that follows `k` after one draw. -/
def next (k : RandomKey) : RandomKey := k.split.1

/-- The byte that one draw from `k` gives. -/
def byte (k : RandomKey) : UInt8 :=
  let block := k.split.2.split.2.threefry 0 0
  (block.fst ^^^ block.snd).toUInt8

example : (ofSeed 0).byte = 14 ∧ (ofSeed 0).next = ⟨1797259609, 2579123966⟩ := by decide +kernel

example : (ofSeed 42).byte = 13 ∧ (ofSeed 42).next = ⟨1832780943, 270669613⟩ := by decide +kernel

end RandomKey

end Chip8
