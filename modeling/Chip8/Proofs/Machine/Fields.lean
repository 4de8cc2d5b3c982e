import Chip8.Field
import Chip8.Proofs.Machine.Decode
import Mathlib.Data.Int.Bitwise

/-!
# `Chip8.Proofs.Machine.Fields`: the fields of an integer

An integer is cut into the fields of an instruction by masks and shifts. The
mask of a field is a block of ones, so a field is what a division and a
remainder leave, whatever the sign of the integer (`Field.read_eq`). From there
on the word of the low sixteen bits stands for the integer
(`Field.read_eq_field`), and the laws of its fields are those of the fields of
a word.

`Field.read_lossless` puts this together. The fields overlap as they should and
hold the low sixteen bits, neither less nor more. Every choice of four nibbles
belongs to exactly one word. A word is taken apart into the same fields, and a
machine that is handed an integer carries out the word of its low bits.
-/

set_option autoImplicit false

namespace Chip8

/-! ### Masks that are blocks of ones -/

/-- A mask keeps what the conjunction of two's complements keeps. -/
theorem andMask_eq_land (mask : Nat) (w : Int) : andMask mask w = w.land mask := by
  cases w with
  | ofNat m => rfl
  | negSucc m =>
    refine congrArg Int.ofNat (Nat.eq_of_testBit_eq fun i => ?_)
    rw [Nat.testBit_xor, Nat.testBit_and, Nat.testBit_ldiff]
    cases mask.testBit i <;> cases m.testBit i <;> rfl

/-- In a block of ones, turning over the bits of a number takes the number
away from the block. -/
theorem ones_xor {width q : Nat} (h : q < 2 ^ width) :
    (2 ^ width - 1) ^^^ q = 2 ^ width - (q + 1) := by
  refine Nat.eq_of_testBit_eq fun i => ?_
  rw [Nat.testBit_xor, Nat.testBit_two_pow_sub_one, Nat.testBit_two_pow_sub_succ h]
  by_cases hi : i < width
  · rw [decide_eq_true hi, Bool.true_xor, Bool.true_and]
  · have hle : 2 ^ width ≤ 2 ^ i := Nat.pow_le_pow_right Nat.two_pos (Nat.le_of_not_lt hi)
    rw [decide_eq_false hi, Bool.false_xor, Bool.false_and]
    exact Nat.testBit_lt_two_pow (h.trans_le hle)

/-- A block of ones cuts its digits out of an integer. -/
theorem andMask_ones (width shift : Nat) (w : Int) :
    andMask ((2 ^ width - 1) <<< shift) w >>> shift = w / 2 ^ shift % 2 ^ width := by
  have hcut (m : Nat) :
      (m &&& (2 ^ width - 1) <<< shift) >>> shift = m >>> shift % 2 ^ width := by
    rw [Nat.shiftRight_and_distrib, Nat.shiftLeft_shiftRight, Nat.and_two_pow_sub_one_eq_mod]
  have hpow (k : Nat) : ((2 ^ k : Nat) : Int) = 2 ^ k := Int.natCast_pow 2 k
  rw [← hpow, ← hpow, ← Int.shiftRight_eq_div_pow]
  cases w with
  | ofNat m =>
    show (((m &&& (2 ^ width - 1) <<< shift) >>> shift : Nat) : Int)
      = (m >>> shift : Nat) % (2 ^ width : Nat)
    rw [hcut, Int.natCast_emod]
  | negSucc m =>
    -- Both sides are the digits of `m` turned over: the mask does it within its block.
    show ((((2 ^ width - 1) <<< shift ^^^ (m &&& (2 ^ width - 1) <<< shift)) >>> shift : Nat) : Int)
      = .negSucc (m >>> shift) % (2 ^ width : Nat)
    have hpos : 0 < 2 ^ width := Nat.two_pow_pos width
    have hlt : m >>> shift % 2 ^ width < 2 ^ width := Nat.mod_lt _ hpos
    rw [Nat.shiftRight_xor_distrib, hcut, Nat.shiftLeft_shiftRight, ones_xor hlt,
      Int.negSucc_emod _ (Int.natCast_pos.2 hpos), ← Int.natCast_emod, Int.natCast_sub hlt]
    omega

/-! ### Fields and words -/

/-- The value of a field in a word. -/
def Word.field (w : Word) : Field → Nat
  | .group => w.group
  | .x => w.x
  | .y => w.y
  | .n => w.n
  | .kk => w.kk.toNat
  | .nnn => w.nnn

namespace Field

/-- How many bits a field has. -/
def width : Field → Nat
  | group | x | y | n => 4
  | kk => 8
  | nnn => 12

theorem mask_eq (f : Field) : f.mask = (2 ^ f.width - 1) <<< f.shift := by
  cases f <;> rfl

/-- A field is a block of digits to the base two. -/
theorem read_eq (f : Field) (w : Int) : f.read w = w / 2 ^ f.shift % 2 ^ f.width := by
  rw [read, mask_eq, andMask_ones]

example : (group.read (-1), nnn.read (-61441)) = (0xF, 0xFFF) := by decide

/-- The fields of an integer are those of the word of its low bits. -/
theorem read_eq_field (f : Field) (w : Int) : f.read w = (Word.ofInt w).field f := by
  have := Word.toNat_ofInt w
  rw [read_eq]
  cases f <;>
    simp only [shift, width, Word.field, Word.group, Word.x, Word.y, Word.n, Word.nnn,
      Word.toNat_kk] <;>
    omega

/-- A field of a word, read off its value. -/
theorem read_toNat (f : Field) (w : Word) : f.read w.toNat = w.field f := by
  rw [read_eq_field, Word.ofInt_toNat]

theorem read_nonneg (f : Field) (w : Int) : 0 ≤ f.read w := by
  rw [read_eq_field]
  exact Int.natCast_nonneg _

/-- A field of four bits is a nibble. -/
theorem read_le_of_width {f : Field} (h : f.width = 4) (w : Int) : f.read w ≤ 15 := by
  rw [read_eq, h]
  omega

/-- The low byte is made of the two lower nibbles. -/
theorem read_kk (w : Int) : kk.read w = 16 * y.read w + n.read w := by
  simp only [read_eq_field, Word.field]
  exact_mod_cast Word.kk_eq_y_n (Word.ofInt w)

/-- The low twelve bits are a nibble and the low byte. -/
theorem read_nnn (w : Int) : nnn.read w = 256 * x.read w + kk.read w := by
  simp only [read_eq_field, Word.field]
  exact_mod_cast Word.nnn_eq_x_kk (Word.ofInt w)

/-- The group and the low twelve bits are the low sixteen bits. -/
theorem read_group_nnn (w : Int) : 4096 * group.read w + nnn.read w = w % 65536 := by
  rw [← Word.toNat_ofInt]
  simp only [read_eq_field, Word.field]
  exact_mod_cast (Word.toNat_eq_group_nnn (Word.ofInt w)).symm

/-- The four nibbles are the low sixteen bits. -/
theorem read_nibbles (w : Int) :
    4096 * group.read w + 256 * x.read w + 16 * y.read w + n.read w = w % 65536 := by
  have := read_group_nnn w
  have := read_nnn w
  have := read_kk w
  omega

/-- Two integers have the same fields exactly if they have the same low
sixteen bits. -/
theorem read_eq_read_iff {v w : Int} :
    (∀ f : Field, f.read v = f.read w) ↔ v % 65536 = w % 65536 := by
  constructor
  · intro h
    rw [← read_nibbles v, ← read_nibbles w, h, h, h, h]
  · intro h f
    rw [read_eq_field, read_eq_field, Word.ofInt_eq_ofInt_iff.2 h]

/-- Every choice of four nibbles belongs to exactly one word. -/
theorem existsUnique_read (a b c d : Fin 16) :
    ∃! w : Int, (0 ≤ w ∧ w < 65536) ∧
      group.read w = a ∧ x.read w = b ∧ y.read w = c ∧ n.read w = d := by
  let v := Word.ofNibbles a b c d
  have hlt : v.toNat < 65536 := v.toNat_lt
  have hv : group.read v.toNat = a ∧ x.read v.toNat = b ∧ y.read v.toNat = c ∧
      n.read v.toNat = d := by
    simp only [v, read_toNat, Word.field, Word.group_ofNibbles a.isLt, Word.x_ofNibbles,
      Word.y_ofNibbles, Word.n_ofNibbles, and_self]
  refine ⟨v.toNat, ⟨⟨by omega, by omega⟩, hv⟩, ?_⟩
  -- Another such word has the same nibbles, and these give the word back.
  rintro w ⟨hw, ha, hb, hc, hd⟩
  obtain ⟨hva, hvb, hvc, hvd⟩ := hv
  have := read_nibbles w
  have := read_nibbles v.toNat
  omega

end Field

/-! ### Words taken apart -/

namespace Decoded

/-- The word that is taken apart is `w`, and the operands are its
fields. -/
structure Carries (d : Decoded) (w : Int) : Prop where
  raw : (d.raw.toNat : Int) = w
  x : (d.x : Int) = Field.x.read w
  y : (d.y : Int) = Field.y.read w
  n : (d.n : Int) = Field.n.read w
  kk : (d.kk.toNat : Int) = Field.kk.read w
  nnn : (d.nnn : Int) = Field.nnn.read w

theorem carries_ofWord (w : Word) : (ofWord w).Carries w.toNat where
  raw := rfl
  x := (Field.read_toNat .x w).symm
  y := (Field.read_toNat .y w).symm
  n := (Field.read_toNat .n w).symm
  kk := (Field.read_toNat .kk w).symm
  nnn := (Field.read_toNat .nnn w).symm

/-- A word is never refused. -/
theorem lookUp_toNat (w : Word) : lookUp w.toNat = .ok (ofWord w) := by
  have := w.toNat_lt
  rw [lookUp, Word.lookUp, Word.ofInt?, if_pos ⟨by omega, by omega⟩, Word.ofInt_toNat]
  rfl

/-- The low sixteen bits of an integer are taken apart. -/
theorem lookUp_emod (w : Int) : lookUp (w % 65536) = .ok (ofWord (.ofInt w)) := by
  rw [← Word.toNat_ofInt, lookUp_toNat]

/-- A word carries its fields, and an instruction works on no other
operands. -/
theorem lookUp_carries {w : Int} (h : 0 ≤ w ∧ w < 65536) :
    ∃ d, lookUp w = .ok d ∧ d.Carries w ∧ (Instruction.decode d.raw).FieldsOf d.raw := by
  have hmod : w % 65536 = w := by omega
  have hlook := lookUp_emod w
  have hcarries := carries_ofWord (.ofInt w)
  rw [hmod] at hlook
  rw [Word.toNat_ofInt, hmod] at hcarries
  exact ⟨_, hlook, hcarries, Instruction.decode_fieldsOf _⟩

end Decoded

namespace Field

/-- The fields of an integer are lossless. Any integer is cut into four
nibbles, its low byte and its low twelve bits, which overlap as they should
and are its low sixteen bits, no less and no more. Every choice of four
nibbles belongs to exactly one word. The word is taken apart into the same
fields, and they are what its instruction works on. Of an integer of 32 bits
a machine carries out the word of its low bits. -/
theorem read_lossless :
    (∀ w : Int,
      (∀ f ∈ [group, x, y, n], 0 ≤ f.read w ∧ f.read w ≤ 15) ∧
      kk.read w = 16 * y.read w + n.read w ∧
      nnn.read w = 256 * x.read w + kk.read w ∧
      4096 * group.read w + nnn.read w = w % 65536) ∧
    (∀ v w : Int, (∀ f : Field, f.read v = f.read w) ↔ v % 65536 = w % 65536) ∧
    (∀ a b c d : Fin 16, ∃! w : Int, (0 ≤ w ∧ w < 65536) ∧
      group.read w = a ∧ x.read w = b ∧ y.read w = c ∧ n.read w = d) ∧
    (∀ w : Int, 0 ≤ w ∧ w < 65536 →
      ∃ d, Decoded.lookUp w = .ok d ∧ d.Carries w ∧
        (Instruction.decode d.raw).FieldsOf d.raw) ∧
    (∀ (s : Machine) (w : Int), FitsSigned 32 w →
      s.executeInt w = s.executeInt (w % 65536) ∧
      ∃ d, Decoded.lookUp (w % 65536) = .ok d ∧
        s.executeInt w = (s.execute (.decode d.raw)).mapError .fault) := by
  refine ⟨fun w => ⟨?_, read_kk w, read_nnn w, read_group_nnn w⟩, fun v w => read_eq_read_iff,
    existsUnique_read, fun w hw => Decoded.lookUp_carries hw, fun s w hw => ⟨?_, ?_⟩⟩
  · have hwidth : ∀ f ∈ [group, x, y, n], f.width = 4 := by decide
    exact fun f hf => ⟨read_nonneg f w, read_le_of_width (hwidth f hf) w⟩
  · exact (Machine.executeInt_emod hw).symm
  · exact ⟨_, Decoded.lookUp_emod w, Machine.executeInt_eq hw⟩

/-- The low sixteen bits of -11985 are the word `D12F`. -/
theorem read_lossless_negative :
    group ∈ [group, x, y, n] ∧ (0 ≤ group.read (-11985) ∧ group.read (-11985) ≤ 15) ∧
      (-11985 : Int) % 65536 = 0xD12F ∧ (∀ f : Field, f.read (-11985) = f.read 0xD12F) ∧
      (∃ d, Decoded.lookUp 0xD12F = .ok d ∧ d.Carries 0xD12F) ∧
      FitsSigned 32 (-11985) ∧
      (Machine.boot (.ofSeed 0)).executeInt (-11985)
        = (Machine.boot (.ofSeed 0)).executeInt 0xD12F := by
  obtain ⟨hlaws, hiff, -, hdecoded, hexecute⟩ := read_lossless
  have hgroup : group ∈ [group, x, y, n] := by decide
  have hmod : (-11985 : Int) % 65536 = 0xD12F := by decide
  have hfits : FitsSigned 32 (-11985) := by decide
  obtain ⟨d, hd, hcarries, -⟩ := hdecoded 0xD12F (by decide)
  exact ⟨hgroup, (hlaws _).1 group hgroup, hmod, (hiff _ _).2 hmod, ⟨d, hd, hcarries⟩, hfits,
    (hexecute _ _ hfits).1⟩

end Field

end Chip8
