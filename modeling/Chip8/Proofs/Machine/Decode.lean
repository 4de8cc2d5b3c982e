import Chip8.Proofs.Machine.PendingReturns

/-!
# `Chip8.Proofs.Machine.Decode`: what a word stands for

The operands of a decoded instruction are fields of its word
(`Instruction.decode_fieldsOf`). In the other direction a word is written
down by its nibbles (`Word.ofNibbles`), or by its group and an address
(`Word.ofAddress`).

`Word.Undefined` lists the words that match none of the patterns of the
instruction set. Almost all of them decode to `idle`, which does nothing.
The exception are words of group `0`, where only the low byte is looked
at: `01E0` clears the screen like `00E0`, and `01EE` returns like `00EE`.
`execute_undefined_iff` tells the two kinds apart for every word and every
machine, and `undefined_return_fails` is a word of the second kind that
ends in a fault.
-/

set_option autoImplicit false

namespace Chip8

variable {w : Word}

/-! ### The operands -/

namespace Instruction

/-- The operands of an instruction are fields of the word `w`. -/
def FieldsOf (w : Word) : Instruction → Prop
  | idle | clear | ret => True
  | jump target | call target | setIndex target | jumpOffset target => target = w.nnn
  | skipEqByte x b | skipNeByte x b | setByte x b | addByte x b | random x b =>
    x = w.x ∧ b = w.kk
  | skipEq x y | skipNe x y | alu _ x y => x = w.x ∧ y = w.y
  | draw x y height => x = w.x ∧ y = w.y ∧ height = w.n
  | skipKey x | skipNoKey x | getDelay x | waitKey x | setDelay x | setSound x | addIndex x
  | glyph x | decimal x | store x | load x => x = w.x

theorem decodeSystem_fieldsOf (w : Word) : (decodeSystem w).FieldsOf w := by
  rw [decodeSystem]
  split <;> trivial

theorem decodeAlu_fieldsOf (w : Word) : (decodeAlu w).FieldsOf w := by
  rw [decodeAlu]
  split <;> simp only [FieldsOf, and_self]

theorem decodeKeypad_fieldsOf (w : Word) : (decodeKeypad w).FieldsOf w := by
  rw [decodeKeypad]
  split <;> trivial

theorem decodeMisc_fieldsOf (w : Word) : (decodeMisc w).FieldsOf w := by
  rw [decodeMisc]
  split <;> trivial

/-- A word is decoded to an instruction on its own fields. -/
theorem decode_fieldsOf (w : Word) : (decode w).FieldsOf w := by
  rw [decode]
  -- Four groups have tables of their own; a word of any other group has its operands outright.
  split
  case h_1 => exact decodeSystem_fieldsOf w
  case h_9 => exact decodeAlu_fieldsOf w
  case h_15 => exact decodeKeypad_fieldsOf w
  case h_16 => exact decodeMisc_fieldsOf w
  all_goals simp only [FieldsOf, and_self]

end Instruction

/-! ### Words from their fields -/

namespace Word

/-- The word with the given nibbles, the group on top. -/
def ofNibbles (group : Nat) (x y n : Fin 16) : Word :=
  UInt16.ofNat (4096 * group + 256 * x + 16 * y + n)

/-- The word with the given group and the address in the other three
nibbles. -/
def ofAddress (group : Nat) (a : Address) : Word := UInt16.ofNat (4096 * group + a)

section
variable {group : Nat} {x y n : Fin 16} {a : Address}

theorem group_ofNibbles (h : group < 16) : (ofNibbles group x y n).group = ⟨group, h⟩ := by
  ext
  simp only [Word.group, ofNibbles, UInt16.toNat_ofNat']
  omega

@[simp] theorem x_ofNibbles : (ofNibbles group x y n).x = x := by
  ext
  simp only [Word.x, ofNibbles, UInt16.toNat_ofNat']
  omega

@[simp] theorem y_ofNibbles : (ofNibbles group x y n).y = y := by
  ext
  simp only [Word.y, ofNibbles, UInt16.toNat_ofNat']
  omega

@[simp] theorem n_ofNibbles : (ofNibbles group x y n).n = n := by
  ext
  simp only [Word.n, ofNibbles, UInt16.toNat_ofNat']
  omega

theorem toNat_kk_ofNibbles : (ofNibbles group x y n).kk.toNat = 16 * y + n := by
  rw [kk_eq_y_n, y_ofNibbles, n_ofNibbles]

theorem group_ofAddress (h : group < 16) : (ofAddress group a).group = ⟨group, h⟩ := by
  ext
  simp only [Word.group, ofAddress, UInt16.toNat_ofNat']
  omega

@[simp] theorem nnn_ofAddress : (ofAddress group a).nnn = a := by
  ext
  simp only [Word.nnn, ofAddress, UInt16.toNat_ofNat']
  omega

end

end Word

namespace Instruction

theorem decode_draw (x y height : Fin 16) : decode (.ofNibbles 0xD x y height) = draw x y height := by
  rw [decode, Word.group_ofNibbles (by decide)]
  simp only [Word.x_ofNibbles, Word.y_ofNibbles, Word.n_ofNibbles]

theorem decode_setIndex (a : Address) : decode (.ofAddress 0xA a) = setIndex a := by
  rw [decode, Word.group_ofAddress (by decide)]
  simp only [Word.nnn_ofAddress]

theorem decode_jump (a : Address) : decode (.ofAddress 0x1 a) = jump a := by
  rw [decode, Word.group_ofAddress (by decide)]
  simp only [Word.nnn_ofAddress]

/-- The words of group `F` are told apart by their low byte. -/
theorem decode_misc {x y n : Fin 16} :
    decode (.ofNibbles 0xF x y n) = decodeMisc (.ofNibbles 0xF x y n) := by
  rw [decode, Word.group_ofNibbles (by decide)]
  rfl

theorem decode_waitKey (x : Fin 16) : decode (.ofNibbles 0xF x 0x0 0xA) = waitKey x := by
  rw [decode_misc, decodeMisc, Word.toNat_kk_ofNibbles]
  exact congrArg waitKey Word.x_ofNibbles

theorem decode_decimal (x : Fin 16) : decode (.ofNibbles 0xF x 0x3 0x3) = decimal x := by
  rw [decode_misc, decodeMisc, Word.toNat_kk_ofNibbles]
  exact congrArg decimal Word.x_ofNibbles

theorem decode_glyph (x : Fin 16) : decode (.ofNibbles 0xF x 0x2 0x9) = glyph x := by
  rw [decode_misc, decodeMisc, Word.toNat_kk_ofNibbles]
  exact congrArg glyph Word.x_ofNibbles

theorem decode_store (x : Fin 16) : decode (.ofNibbles 0xF x 0x5 0x5) = store x := by
  rw [decode_misc, decodeMisc, Word.toNat_kk_ofNibbles]
  exact congrArg store Word.x_ofNibbles

theorem decode_load (x : Fin 16) : decode (.ofNibbles 0xF x 0x6 0x5) = load x := by
  rw [decode_misc, decodeMisc, Word.toNat_kk_ofNibbles]
  exact congrArg load Word.x_ofNibbles

end Instruction

/-! ### Words without a pattern -/

namespace Word

/-- The words that match no pattern of the instruction set: `0nnn` other
than `00E0` and `00EE`, `8xyN` with `N` from `8` to `D` or `F`, `Exkk`
other than `Ex9E` and `ExA1`, and `Fxkk` with none of the nine low bytes
that have a meaning. -/
def Undefined (w : Word) : Prop :=
  w.group.val = 0x0 ∧ w ≠ 0x00E0 ∧ w ≠ 0x00EE ∨
  w.group.val = 0x8 ∧ (0x8 ≤ w.n.val ∧ w.n.val ≤ 0xD ∨ w.n.val = 0xF) ∨
  w.group.val = 0xE ∧ w.kk ≠ 0x9E ∧ w.kk ≠ 0xA1 ∨
  w.group.val = 0xF ∧ w.kk ∉ ([0x07, 0x0A, 0x15, 0x18, 0x1E, 0x29, 0x33, 0x55, 0x65] : List UInt8)

instance (w : Word) : Decidable w.Undefined :=
  inferInstanceAs (Decidable (_ ∨ _ ∨ _ ∨ _))

/-- The words of group `0` whose low byte is that of `00E0` or
`00EE`. -/
def HasSystemByte (w : Word) : Prop := w.group.val = 0x0 ∧ (w.kk = 0xE0 ∨ w.kk = 0xEE)

theorem toNat_kk_ne {b : UInt8} (h : w.kk ≠ b) : w.kk.toNat ≠ b.toNat :=
  fun heq => h (UInt8.toNat.inj heq)

end Word

namespace Instruction

theorem decodeSystem_eq_idle (h : w.kk ≠ 0xE0) (h' : w.kk ≠ 0xEE) : decodeSystem w = idle := by
  rw [decodeSystem]
  split
  · exact absurd ‹_› (Word.toNat_kk_ne h)
  · exact absurd ‹_› (Word.toNat_kk_ne h')
  · rfl

theorem decodeAlu_eq_idle (h : 0x8 ≤ w.n.val ∧ w.n.val ≤ 0xD ∨ w.n.val = 0xF) :
    decodeAlu w = idle := by
  rw [decodeAlu]
  -- Each row but the last is for a nibble that is ruled out.
  split <;> first | rfl | omega

theorem decodeKeypad_eq_idle (h : w.kk ≠ 0x9E) (h' : w.kk ≠ 0xA1) : decodeKeypad w = idle := by
  rw [decodeKeypad]
  split
  · exact absurd ‹_› (Word.toNat_kk_ne h)
  · exact absurd ‹_› (Word.toNat_kk_ne h')
  · rfl

theorem decodeMisc_eq_idle
    (h : w.kk ∉ ([0x07, 0x0A, 0x15, 0x18, 0x1E, 0x29, 0x33, 0x55, 0x65] : List UInt8)) :
    decodeMisc w = idle := by
  simp only [List.mem_cons, List.not_mem_nil, or_false, not_or, ← UInt8.toNat_inj,
    UInt8.reduceToNat] at h
  rw [decodeMisc]
  split <;> first | rfl | omega

/-- A word of group `0` is told apart by its low byte. -/
theorem decode_of_group_zero (h : w.group.val = 0x0) : decode w = decodeSystem w := by
  rw [decode, h]
  rfl

/-- A word without a pattern does nothing, unless it has the low byte of
one of the two words of group `0` that have a pattern. -/
theorem decode_of_undefined (h : w.Undefined) (hs : ¬w.HasSystemByte) : decode w = idle := by
  rcases h with ⟨hg, -, -⟩ | ⟨hg, hn⟩ | ⟨hg, hkk, hkk'⟩ | ⟨hg, hkk⟩
  · rw [decode_of_group_zero hg]
    exact decodeSystem_eq_idle (fun h => hs ⟨hg, .inl h⟩) fun h => hs ⟨hg, .inr h⟩
  · rw [decode, hg]
    exact decodeAlu_eq_idle hn
  · rw [decode, hg]
    exact decodeKeypad_eq_idle hkk hkk'
  · rw [decode, hg]
    exact decodeMisc_eq_idle hkk

end Instruction

namespace Machine

/-- The words that match no pattern, carried out by any machine. Unless
the word has a low byte of group `0` that means something, the machine is
left as it was but for the frame flag, which is taken away. The words that
have such a byte clear the screen or return from a subroutine, and that
never leaves the machine as it was. -/
theorem execute_undefined_iff (s : Machine) (w : Word) (h : w.Undefined) :
    (s.execute (.decode w) = .ok { s with frameReady := false } ↔ ¬w.HasSystemByte) ∧
    (w.group.val = 0x0 → w.kk = 0xE0 → s.execute (.decode w) = s.execute .clear) ∧
    (w.group.val = 0x0 → w.kk = 0xEE → s.execute (.decode w) = s.execute .ret) := by
  have hclear : w.group.val = 0x0 → w.kk = 0xE0 → Instruction.decode w = .clear := by
    intro hg hkk
    rw [Instruction.decode_of_group_zero hg, Instruction.decodeSystem, hkk]
    rfl
  have hret : w.group.val = 0x0 → w.kk = 0xEE → Instruction.decode w = .ret := by
    intro hg hkk
    rw [Instruction.decode_of_group_zero hg, Instruction.decodeSystem, hkk]
    rfl
  refine ⟨⟨?_, ?_⟩, fun hg hkk => by rw [hclear hg hkk], fun hg hkk => by rw [hret hg hkk]⟩
  · rintro hexec ⟨hg, hkk | hkk⟩
    -- Clearing the screen sets the flag, and a return makes the call stack less deep.
    · rw [hclear hg hkk] at hexec
      cases congrArg Machine.frameReady (Except.ok.inj hexec)
    · rw [hret hg hkk] at hexec
      obtain ⟨u, hu, heq⟩ := execute_eq_ok_iff.1 hexec
      obtain ⟨⟨stack, a⟩, hpop, hpure⟩ := bind_eq_ok.1 hu
      obtain ⟨-, -, hdepth, -⟩ := CallStack.pop_eq_ok hpop
      cases hpure
      have hsame : s.stack = stack := congrArg Machine.stack heq
      rw [hsame] at hdepth
      exact absurd hdepth (Nat.ne_of_lt (Nat.lt_succ_self _))
  · intro hs
    rw [Instruction.decode_of_undefined h hs]
    rfl

/-- `8ABF` names no operation on two bytes. -/
theorem execute_undefined_iff_alu :
    (0x8ABF : Word).Undefined ∧
      (boot (.ofSeed 0)).execute (.decode 0x8ABF)
        = .ok { boot (.ofSeed 0) with frameReady := false } := by
  have h : (0x8ABF : Word).Undefined := by decide
  have hgroup : (0x8ABF : Word).group.val ≠ 0x0 := by decide
  exact ⟨h, (execute_undefined_iff (boot (.ofSeed 0)) 0x8ABF h).1.2 fun hs => hgroup hs.1⟩

/-- The word `01EE` matches no pattern, and yet a fresh machine fails on
it: it is taken for a return without a call. -/
theorem undefined_return_fails :
    (0x01EE : Word).Undefined ∧
      (boot (.ofSeed 0)).execute (.decode 0x01EE) = .error .stackUnderflow ∧
      ¬∀ (s : Machine) (w : Word), w.Undefined →
        s.execute (.decode w) = .ok { s with frameReady := false } := by
  have h : (0x01EE : Word).Undefined := by decide
  have hfails : (boot (.ofSeed 0)).execute (.decode 0x01EE) = .error .stackUnderflow := rfl
  refine ⟨h, hfails, fun hall => ?_⟩
  cases hfails.symm.trans (hall _ _ h)

end Machine

end Chip8
