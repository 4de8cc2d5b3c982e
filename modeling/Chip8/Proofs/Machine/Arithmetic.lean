import Chip8.Proofs.Machine.Decode
import Chip8.Proofs.Machine.Within

/-!
# `Chip8.Proofs.Machine.Arithmetic`: results and flags of two bytes

The words of group `8` put the result of an operation on `VX` and `VY` into
`VX`, and five of the nine operations leave a flag in `VF`. A byte and its
flag make up for each other: the carry of an addition counts 256, a borrow
is what a subtraction lacks, and the bit that a shift moves out is the one
that halving or doubling would lose. `AluOp.add_balances` and the four
lemmas after it are these equations between natural numbers.

An instruction may name one register more than once. Its operands are read
before anything is written, and the flag is written last, so that
`LeavesFlag` and `LeavesByte` need no case for registers that coincide,
except that a result in `VF` gives way to the flag.

The main statement, `execute_arithmetic`, has the nine words, and that a
subtraction is undone by an addition, with the opposite flag.
-/

set_option autoImplicit false

namespace Chip8

/-! ### Result and flag -/

theorem toNat_bit (c : Bool) : (bit c).toNat = if c then 1 else 0 := by
  cases c <;> rfl

theorem toNat_bit_le (c : Bool) : (bit c).toNat ≤ 1 := by
  cases c <;> decide

namespace AluOp

variable (a b : UInt8)

/-- The carry is worth 256. -/
theorem add_balances :
    (a + b).toNat + 256 * (bit (255 < a.toNat + b.toNat)).toNat = a.toNat + b.toNat := by
  have ha := a.toNat_lt
  have hb := b.toNat_lt
  simp only [UInt8.toNat_add, toNat_bit, decide_eq_true_eq]
  split <;> omega

/-- A borrow is worth 256, and the flag stands for its absence. -/
theorem sub_balances : (a - b).toNat + b.toNat = a.toNat + 256 * (1 - (bit (b ≤ a)).toNat) := by
  have ha := a.toNat_lt
  have hb := b.toNat_lt
  simp only [UInt8.toNat_sub, toNat_bit, decide_eq_true_eq, UInt8.le_iff_toNat_le]
  split <;> omega

theorem shiftRight_balances : 2 * (a / 2).toNat + (a % 2).toNat = a.toNat := by
  simp only [UInt8.toNat_div, UInt8.toNat_mod, UInt8.reduceToNat]
  omega

theorem shiftLeft_balances :
    (a + a).toNat + 256 * (bit (128 ≤ a)).toNat = 2 * a.toNat := by
  have ha := a.toNat_lt
  simp only [UInt8.toNat_add, toNat_bit, decide_eq_true_eq, UInt8.le_iff_toNat_le,
    UInt8.reduceToNat]
  split <;> omega

theorem shiftRight_flag_le : (a % 2).toNat ≤ 1 := by
  simp only [UInt8.toNat_mod, UInt8.reduceToNat]
  omega

/-- The low nibble of the words for an operation. The shift to the left
stands apart from the others. -/
def nibble : AluOp → Nat
  | move => 0x0
  | or => 0x1
  | and => 0x2
  | xor => 0x3
  | add => 0x4
  | sub => 0x5
  | shiftRight => 0x6
  | subFrom => 0x7
  | _ => 0xE

end AluOp

theorem Instruction.decode_alu (op : AluOp) (x y : Fin 16) :
    decode (.ofNibbles 0x8 x y (Fin.ofNat 16 op.nibble)) = alu op x y := by
  rw [decode, Word.group_ofNibbles (by decide)]
  simp only [decodeAlu, Word.x_ofNibbles, Word.y_ofNibbles, Word.n_ofNibbles]
  cases op <;> rfl

namespace Machine

variable {s t : Machine} {op : AluOp} {x y : Fin 16} {law : Nat → Nat → Prop} {f : UInt8}

/-! ### The instructions -/

/-- The word `w` leaves a flag in `VF`, and a byte in `VX` that `law` ties
to it. If `VX` is `VF`, the flag alone is left. No other register is
written, and nothing else but the frame flag. -/
def LeavesFlag (s : Machine) (w : Word) (x : Fin 16) (law : Nat → Nat → Prop) : Prop :=
  ∃ (t : Machine) (r f : UInt8), s.execute (.decode w) = .ok t ∧
    f.toNat ≤ 1 ∧ law r.toNat f.toNat ∧
    t.registers.get Registers.flag = f ∧ (x ≠ Registers.flag → t.registers.get x = r) ∧
    (∀ v, v ≠ x → v ≠ Registers.flag → t.registers.get v = s.registers.get v) ∧
    t = { s with registers := t.registers, frameReady := false }

/-- The word `w` leaves the byte `b` in `VX`. No other register is written,
and nothing else but the frame flag. -/
def LeavesByte (s : Machine) (w : Word) (x : Fin 16) (b : UInt8) : Prop :=
  ∃ t : Machine, s.execute (.decode w) = .ok t ∧ t.registers.get x = b ∧
    (∀ v, v ≠ x → t.registers.get v = s.registers.get v) ∧
    t = { s with registers := t.registers, frameReady := false }

/-- An operation with a flag writes the flag last. -/
theorem execute_alu_of_flag (h : op.flag? (s.registers.get x) (s.registers.get y) = some f) :
    s.execute (.alu op x y) = .ok { s with
      registers := (s.registers.set x (op.result (s.registers.get x) (s.registers.get y))).set
        Registers.flag f
      frameReady := false } := by
  simp only [execute, perform, h]
  rfl

theorem execute_alu_of_noFlag (h : op.flag? (s.registers.get x) (s.registers.get y) = none) :
    s.execute (.alu op x y) = .ok { s with
      registers := s.registers.set x (op.result (s.registers.get x) (s.registers.get y))
      frameReady := false } := by
  simp only [execute, perform, h]
  rfl

/-- What an operation leaves in two registers, whichever they are. -/
theorem leavesFlag_alu (op : AluOp)
    (h : op.flag? (s.registers.get x) (s.registers.get y) = some f)
    (hf : f.toNat ≤ 1)
    (hlaw : law (op.result (s.registers.get x) (s.registers.get y)).toNat f.toNat) :
    s.LeavesFlag (.ofNibbles 0x8 x y (Fin.ofNat 16 op.nibble)) x law := by
  rw [LeavesFlag, Instruction.decode_alu]
  refine ⟨_, _, f, execute_alu_of_flag h, hf, hlaw, ?_, fun hx => ?_, fun v hvx hvf => ?_, rfl⟩
  · rw [Registers.get_set, if_pos rfl]
  · rw [Registers.get_set, if_neg hx, Registers.get_set, if_pos rfl]
  · rw [Registers.get_set, if_neg hvf, Registers.get_set, if_neg hvx]

theorem leavesByte_alu (op : AluOp)
    (h : op.flag? (s.registers.get x) (s.registers.get y) = none) :
    s.LeavesByte (.ofNibbles 0x8 x y (Fin.ofNat 16 op.nibble)) x
      (op.result (s.registers.get x) (s.registers.get y)) := by
  rw [LeavesByte, Instruction.decode_alu]
  refine ⟨_, execute_alu_of_noFlag h, ?_, fun v hv => ?_, rfl⟩
  · rw [Registers.get_set, if_pos rfl]
  · rw [Registers.get_set, if_neg hv]

/-! ### The nine words -/

theorem leavesFlag_add (s : Machine) (x y : Fin 16) :
    s.LeavesFlag (.ofNibbles 0x8 x y 0x4) x fun r f =>
      r + 256 * f = (s.registers.get x).toNat + (s.registers.get y).toNat :=
  leavesFlag_alu .add rfl (toNat_bit_le _) (AluOp.add_balances _ _)

theorem leavesFlag_sub (s : Machine) (x y : Fin 16) :
    s.LeavesFlag (.ofNibbles 0x8 x y 0x5) x fun r f =>
      r + (s.registers.get y).toNat = (s.registers.get x).toNat + 256 * (1 - f) :=
  leavesFlag_alu .sub rfl (toNat_bit_le _) (AluOp.sub_balances _ _)

/-- A subtraction and then an addition of the same byte. The registers are
different, so that `VY` is the same byte both times and the first flag is in
nobody's way. -/
theorem execute_sub_add (s : Machine) (hxy : x ≠ y) (hx : x ≠ Registers.flag)
    (hy : y ≠ Registers.flag) :
    ∃ t u, s.execute (.decode (.ofNibbles 0x8 x y 0x5)) = .ok t ∧
      t.execute (.decode (.ofNibbles 0x8 x y 0x4)) = .ok u ∧
      u.registers.get x = s.registers.get x ∧
      (u.registers.get Registers.flag).toNat = 1 - (t.registers.get Registers.flag).toNat := by
  obtain ⟨t, r, f, ht, hf, hsub, htf, htx, hother, -⟩ := leavesFlag_sub s x y
  obtain ⟨u, r', f', hu, hf', hadd, huf, hux, -⟩ := leavesFlag_add t x y
  rw [htx hx, hother y hxy.symm hy] at hadd
  have hr := r'.toNat_lt
  have ha := (s.registers.get x).toNat_lt
  refine ⟨t, u, ht, hu, ?_, ?_⟩
  · rw [hux hx]
    exact UInt8.toNat.inj (by omega)
  · rw [huf, htf]
    omega

/-- The words of group `8` that have a meaning, for any registers, the same
one twice and the flag register included. The operands `a` and `b` are read
before anything is written. A result and its flag make up for each other;
without a flag, `VF` is written only as `VX`. Nothing else changes but the
frame flag. For three different registers, a subtraction and then an
addition bring `VX` back, and the second flag is the opposite of the
first. -/
theorem execute_arithmetic (s : Machine) (x y : Fin 16) :
    let a := s.registers.get x
    let b := s.registers.get y
    (s.LeavesFlag (.ofNibbles 0x8 x y 0x4) x fun r f => r + 256 * f = a.toNat + b.toNat) ∧
    (s.LeavesFlag (.ofNibbles 0x8 x y 0x5) x fun r f => r + b.toNat = a.toNat + 256 * (1 - f)) ∧
    (s.LeavesFlag (.ofNibbles 0x8 x y 0x7) x fun r f => r + a.toNat = b.toNat + 256 * (1 - f)) ∧
    (s.LeavesFlag (.ofNibbles 0x8 x y 0x6) x fun r f => 2 * r + f = a.toNat) ∧
    (s.LeavesFlag (.ofNibbles 0x8 x y 0xE) x fun r f => r + 256 * f = 2 * a.toNat) ∧
    s.LeavesByte (.ofNibbles 0x8 x y 0x0) x b ∧
    s.LeavesByte (.ofNibbles 0x8 x y 0x1) x (a ||| b) ∧
    s.LeavesByte (.ofNibbles 0x8 x y 0x2) x (a &&& b) ∧
    s.LeavesByte (.ofNibbles 0x8 x y 0x3) x (a ^^^ b) ∧
    (x ≠ y → x ≠ Registers.flag → y ≠ Registers.flag →
      ∃ t u, s.execute (.decode (.ofNibbles 0x8 x y 0x5)) = .ok t ∧
        t.execute (.decode (.ofNibbles 0x8 x y 0x4)) = .ok u ∧
        u.registers.get x = a ∧
        (u.registers.get Registers.flag).toNat
          = 1 - (t.registers.get Registers.flag).toNat) := by
  intro a b
  refine ⟨leavesFlag_add s x y, leavesFlag_sub s x y, ?_, ?_, ?_, ?_, ?_, ?_, ?_,
    s.execute_sub_add⟩
  · exact leavesFlag_alu .subFrom rfl (toNat_bit_le _) (AluOp.sub_balances _ _)
  · exact leavesFlag_alu .shiftRight rfl (AluOp.shiftRight_flag_le _)
      (AluOp.shiftRight_balances _)
  · exact leavesFlag_alu .shiftLeft rfl (toNat_bit_le _) (AluOp.shiftLeft_balances _)
  · exact leavesByte_alu .move rfl
  · exact leavesByte_alu .or rfl
  · exact leavesByte_alu .and rfl
  · exact leavesByte_alu .xor rfl

/-- Nine is taken from five and added again. -/
theorem execute_arithmetic_borrow :
    let s : Machine := { boot (.ofSeed 0) with registers := (Registers.zero.set 1 5).set 2 9 }
    (1 : Fin 16) ≠ 2 ∧ 1 ≠ Registers.flag ∧ 2 ≠ Registers.flag ∧
      ∃ t u, s.execute (.decode 0x8125) = .ok t ∧ t.execute (.decode 0x8124) = .ok u ∧
        u.registers.get 1 = 5 ∧
        (u.registers.get Registers.flag).toNat
          = 1 - (t.registers.get Registers.flag).toNat := by
  intro s
  have hxy : (1 : Fin 16) ≠ 2 := by decide
  have hx : 1 ≠ Registers.flag := by decide
  have hy : 2 ≠ Registers.flag := by decide
  obtain ⟨-, -, -, -, -, -, -, -, -, hback⟩ := execute_arithmetic s 1 2
  exact ⟨hxy, hx, hy, hback hxy hx hy⟩

end Machine

end Chip8
