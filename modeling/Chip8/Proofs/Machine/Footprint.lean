import Chip8.Proofs.Machine.Decode
import Chip8.Proofs.Machine.Within

/-!
# `Chip8.Proofs.Machine.Footprint`: what a word may write

An instruction keeps to its footprint. The lemmas `mem_of_footprint_*`
turn this around: they list the instructions that have a part of the
machine in their footprint, with the fields of the word that stands for
them. `pc_cases` lists the instructions that move the program counter.

The main statement is `execute_footprint`. It goes through the parts of
the machine one by one and names the instructions that may write each of
them.
-/

set_option autoImplicit false

namespace Chip8

namespace Instruction

/-- Whether an instruction goes on somewhere else, whatever the machine. -/
def isJump : Instruction → Bool
  | ret | jump _ | call _ | jumpOffset _ => true
  | _ => false

/-! ### The instructions that may write a part -/

section
variable {i : Instruction} {w : Word}

theorem mem_of_footprint_registers {v : Fin 16} (hi : i.FieldsOf w)
    (h : i.footprint.registers v = true) :
    v = w.x ∧ i ∈ [setByte w.x w.kk, addByte w.x w.kk, alu .move w.x w.y, alu .or w.x w.y,
        alu .and w.x w.y, alu .xor w.x w.y, random w.x w.kk, getDelay w.x, waitKey w.x] ∨
      (v = w.x ∨ v = Registers.flag) ∧ i ∈ [alu .add w.x w.y, alu .sub w.x w.y,
        alu .shiftRight w.x w.y, alu .subFrom w.x w.y, alu .shiftLeft w.x w.y] ∨
      v = Registers.flag ∧ i = draw w.x w.y w.n ∨
      v ≤ w.x ∧ i = load w.x := by
  cases i with
  | setByte | addByte | random =>
    obtain ⟨rfl, rfl⟩ := hi
    exact .inl ⟨beq_iff_eq.1 h, by simp⟩
  | getDelay | waitKey =>
    cases hi
    exact .inl ⟨beq_iff_eq.1 h, by simp⟩
  | alu op x y =>
    obtain ⟨rfl, rfl⟩ := hi
    have hv : v = w.x ∨ op.setsFlag = true ∧ v = Registers.flag := by
      simpa only [footprint, Bool.or_eq_true, Bool.and_eq_true, beq_iff_eq] using h
    -- The operations with a flag write two registers, the others one.
    cases hop : op.setsFlag with
    | false =>
      refine .inl ⟨hv.resolve_right fun hflag => by simp [hop] at hflag, ?_⟩
      cases op <;> first | (cases hop; done) | simp
    | true =>
      refine .inr (.inl ⟨hv.imp_right And.right, ?_⟩)
      cases op <;> first | (cases hop; done) | simp
  | draw =>
    obtain ⟨rfl, rfl, rfl⟩ := hi
    exact .inr (.inr (.inl ⟨beq_iff_eq.1 h, rfl⟩))
  | load =>
    cases hi
    exact .inr (.inr (.inr ⟨of_decide_eq_true h, rfl⟩))
  | _ => cases h

theorem mem_of_footprint_bytes {k : Nat} (hi : i.FieldsOf w) (h : k < i.footprint.bytes) :
    k ≤ 2 ∧ i = decimal w.x ∨ k ≤ w.x ∧ i = store w.x := by
  cases i with
  | decimal =>
    cases hi
    exact .inl ⟨Nat.le_of_lt_succ h, rfl⟩
  | store =>
    cases hi
    exact .inr ⟨Nat.le_of_lt_succ h, rfl⟩
  | _ => cases h

theorem mem_of_footprint_index (hi : i.FieldsOf w) (h : i.footprint.index = true) :
    i ∈ [setIndex w.nnn, addIndex w.x, glyph w.x] := by
  cases i with
  | setIndex | addIndex | glyph =>
    cases hi
    simp
  | _ => cases h

theorem mem_of_footprint_display (hi : i.FieldsOf w) (h : i.footprint.display = true) :
    i ∈ [clear, draw w.x w.y w.n] := by
  cases i with
  | clear => simp
  | draw =>
    obtain ⟨rfl, rfl, rfl⟩ := hi
    simp
  | _ => cases h

theorem mem_of_footprint_stack (hi : i.FieldsOf w) (h : i.footprint.stack = true) :
    i ∈ [call w.nnn, ret] := by
  cases i with
  | ret => simp
  | call =>
    cases hi
    simp
  | _ => cases h

theorem eq_of_footprint_delay (hi : i.FieldsOf w) (h : i.footprint.delay = true) :
    i = setDelay w.x := by
  cases i with
  | setDelay => exact congrArg _ hi
  | _ => cases h

theorem eq_of_footprint_sound (hi : i.FieldsOf w) (h : i.footprint.sound = true) :
    i = setSound w.x := by
  cases i with
  | setSound => exact congrArg _ hi
  | _ => cases h

theorem eq_of_footprint_random (hi : i.FieldsOf w) (h : i.footprint.random = true) :
    i = random w.x w.kk := by
  cases i with
  | random => rw [hi.1, hi.2]
  | _ => cases h

theorem mem_of_isJump (hi : i.FieldsOf w) (h : i.isJump = true) :
    i ∈ [ret, jump w.nnn, call w.nnn, jumpOffset w.nnn] := by
  cases i with
  | ret => simp
  | jump | call | jumpOffset =>
    cases hi
    simp
  | _ => cases h

theorem mem_of_isSkip (hi : i.FieldsOf w) (h : i.isSkip = true) :
    i ∈ [skipEqByte w.x w.kk, skipNeByte w.x w.kk, skipEq w.x w.y, skipNe w.x w.y,
      skipKey w.x, skipNoKey w.x] := by
  cases i with
  | skipEqByte | skipNeByte | skipEq | skipNe =>
    obtain ⟨rfl, rfl⟩ := hi
    simp
  | skipKey | skipNoKey =>
    cases hi
    simp
  | _ => cases h

/-- The instructions that complete a frame are those that may write the
screen. -/
theorem completesFrame_eq (i : Instruction) : i.completesFrame = i.footprint.display := by
  cases i <;> rfl

theorem completesFrame_iff (hi : i.FieldsOf w) :
    i.completesFrame = true ↔ i ∈ [clear, draw w.x w.y w.n] := by
  constructor
  · rw [completesFrame_eq]
    exact mem_of_footprint_display hi
  · intro h
    simp only [List.mem_cons, List.not_mem_nil, or_false] at h
    rcases h with rfl | rfl <;> rfl

end

end Instruction

/-- What does not differ unless a flag is set, and does differ. -/
theorem eq_true_of_ne {α : Type} {b : Bool} {x y : α} (h : b = false → x = y) (hne : x ≠ y) :
    b = true := by
  cases b with
  | false => exact absurd (h rfl) hne
  | true => rfl

namespace Machine

variable {s t : Machine} {i : Instruction}

/-! ### The program counter -/

/-- Whether the condition of a skip holds. -/
def skips (s : Machine) : Instruction → Bool
  | .skipEqByte x b => s.registers.get x == b
  | .skipNeByte x b => s.registers.get x != b
  | .skipEq x y => s.registers.get x == s.registers.get y
  | .skipNe x y => s.registers.get x != s.registers.get y
  | .skipKey x => s.keyMatches x
  | .skipNoKey x => !s.keyMatches x
  | _ => false

theorem perform_of_isSkip (h : i.isSkip = true) : s.perform i = .ok (s.skipIf (s.skips i)) := by
  cases i <;> first | rfl | cases h

/-- Waiting for a key steps back only while there is none. -/
theorem key_of_waitKey {x : Fin 16} (h : s.perform (.waitKey x) = .ok t) (hpc : t.pc ≠ s.pc) :
    s.key = .empty := by
  simp only [perform] at h
  split at h <;> cases h
  · exact absurd rfl hpc
  · rename_i hkey
    rw [Latch.byte?] at hkey
    split at hkey
    · assumption
    · cases hkey

/-- The instructions that move the program counter: those that go on
somewhere else, a skip whose condition holds, and waiting for a key
without one. -/
theorem pc_cases (h : s.perform i = .ok t) (hpc : t.pc ≠ s.pc) :
    i.isJump = true ∨
      (i.isSkip = true ∧ s.skips i = true ∧ t.pc = s.pc + 2) ∨
      (∃ x, i = .waitKey x) ∧ s.key = .empty ∧ t.pc = s.pc - 2 := by
  have hflow := (flow_of_perform h).1
  generalize heq : t.pc = pc at hflow hpc ⊢
  generalize t.stack = stack at hflow
  cases hflow with
  | next => exact absurd rfl hpc
  | jump | jumpOffset | call | ret => exact .inl rfl
  | wait => exact .inr (.inr ⟨⟨_, rfl⟩, key_of_waitKey h (heq ▸ hpc), rfl⟩)
  | skip hskip =>
    rw [perform_of_isSkip hskip] at h
    cases hcond : s.skips i with
    | true => exact .inr (.inl ⟨hskip, rfl, rfl⟩)
    | false =>
      rw [hcond] at h
      cases h
      exact absurd heq.symm hpc

/-! ### The parts of a machine, one by one -/

/-- A word is carried out, and a part of the machine is not what it was.
Then the word stands for one of the instructions that are listed for that
part, and of the memory and the registers nothing has changed but what is
said there. A skip moves the program counter only if its condition holds,
and waiting for a key only without a key. No instruction touches the
latch of the keypad, and the frame flag tells whether the screen was
cleared or drawn on. -/
theorem execute_footprint (s t : Machine) (w : Word) (h : s.execute (.decode w) = .ok t) :
    let i := Instruction.decode w
    (∀ a, t.memory.read a ≠ s.memory.read a →
      i = .decimal w.x ∧ s.index.toNat ≤ a ∧ a ≤ s.index.toNat + 2 ∨
      i = .store w.x ∧ s.index.toNat ≤ a ∧ a ≤ s.index.toNat + w.x) ∧
    (t.display ≠ s.display → i ∈ [.clear, .draw w.x w.y w.n]) ∧
    (∀ v, t.registers.get v ≠ s.registers.get v →
      v = w.x ∧ i ∈ [.setByte w.x w.kk, .addByte w.x w.kk, .alu .move w.x w.y, .alu .or w.x w.y,
        .alu .and w.x w.y, .alu .xor w.x w.y, .random w.x w.kk, .getDelay w.x, .waitKey w.x] ∨
      (v = w.x ∨ v = Registers.flag) ∧ i ∈ [.alu .add w.x w.y, .alu .sub w.x w.y,
        .alu .shiftRight w.x w.y, .alu .subFrom w.x w.y, .alu .shiftLeft w.x w.y] ∨
      v = Registers.flag ∧ i = .draw w.x w.y w.n ∨
      v ≤ w.x ∧ i = .load w.x) ∧
    (t.index ≠ s.index → i ∈ [.setIndex w.nnn, .addIndex w.x, .glyph w.x]) ∧
    (t.stack ≠ s.stack → i ∈ [.call w.nnn, .ret]) ∧
    (t.delay ≠ s.delay → i = .setDelay w.x) ∧
    (t.sound ≠ s.sound → i = .setSound w.x) ∧
    (t.random ≠ s.random → i = .random w.x w.kk) ∧
    (t.pc ≠ s.pc →
      i ∈ [.ret, .jump w.nnn, .call w.nnn, .jumpOffset w.nnn] ∨
      i ∈ [.skipEqByte w.x w.kk, .skipNeByte w.x w.kk, .skipEq w.x w.y, .skipNe w.x w.y,
        .skipKey w.x, .skipNoKey w.x] ∧ s.skips i = true ∧ t.pc = s.pc + 2 ∨
      i = .waitKey w.x ∧ s.key = .empty ∧ t.pc = s.pc - 2) ∧
    t.key = s.key ∧
    (t.frameReady = true ↔ i ∈ [.clear, .draw w.x w.y w.n]) := by
  intro i
  have hi : i.FieldsOf w := Instruction.decode_fieldsOf w
  obtain ⟨u, hu, rfl⟩ := execute_eq_ok_iff.1 h
  have hwithin : s.Within i.footprint u := within_of_perform hu
  refine ⟨?_, ?_, ?_, ?_, ?_, ?_, ?_, ?_, ?_, ?_, ?_⟩
  · intro a ha
    by_cases hout : a < s.index.toNat ∨ s.index.toNat + i.footprint.bytes ≤ a
    · exact absurd (hwithin.memory a hout) ha
    · rcases Instruction.mem_of_footprint_bytes (k := a - s.index.toNat) hi (by omega) with
        ⟨hk, heq⟩ | ⟨hk, heq⟩
      · exact .inl ⟨heq, by omega, by omega⟩
      · exact .inr ⟨heq, by omega, by omega⟩
  · exact fun hne => Instruction.mem_of_footprint_display hi (eq_true_of_ne hwithin.display hne)
  · exact fun v hne =>
      Instruction.mem_of_footprint_registers hi (eq_true_of_ne (hwithin.registers v) hne)
  · exact fun hne => Instruction.mem_of_footprint_index hi (eq_true_of_ne hwithin.index hne)
  · exact fun hne => Instruction.mem_of_footprint_stack hi (eq_true_of_ne hwithin.stack hne)
  · exact fun hne => Instruction.eq_of_footprint_delay hi (eq_true_of_ne hwithin.delay hne)
  · exact fun hne => Instruction.eq_of_footprint_sound hi (eq_true_of_ne hwithin.sound hne)
  · exact fun hne => Instruction.eq_of_footprint_random hi (eq_true_of_ne hwithin.random hne)
  · intro hne
    rcases pc_cases hu hne with hjump | ⟨hskip, hcond, hpc⟩ | ⟨⟨x, hwait⟩, hkey, hpc⟩
    · exact .inl (Instruction.mem_of_isJump hi hjump)
    · exact .inr (.inl ⟨Instruction.mem_of_isSkip hi hskip, hcond, hpc⟩)
    · have hx : (Instruction.waitKey x).FieldsOf w := hwait ▸ hi
      exact .inr (.inr ⟨hwait.trans (congrArg _ hx), hkey, hpc⟩)
  · exact (flow_of_perform hu).2
  · exact Instruction.completesFrame_iff hi

/-- `F155` stores two registers from `0x300` on. The byte behind them and
the registers stay as they were. -/
theorem execute_footprint_store :
    let s : Machine := { boot (.ofSeed 0) with index := 0x300, registers := Registers.zero.set 1 7 }
    ∃ t, s.execute (.decode 0xF155) = .ok t ∧ t.memory.read 0x301 = 7 ∧
      t.memory.read 0x302 = s.memory.read 0x302 ∧
      ∀ v, t.registers.get v = s.registers.get v := by
  intro s
  have hcheck : (s.execute (.decode 0xF155)).toOption.any (fun t => t.memory.read 0x301 = 7) = true :=
    by decide +kernel
  obtain ⟨t, ht, hstored⟩ := ok_of_any hcheck
  obtain ⟨hmemory, -, hregisters, -⟩ := execute_footprint s t 0xF155 ht
  refine ⟨t, ht, of_decide_eq_true hstored, ?_, ?_⟩
  · refine Classical.byContradiction fun hne => ?_
    rcases hmemory _ hne with ⟨hi, -⟩ | ⟨-, -, hle⟩
    · cases hi
    · exact absurd hle (by decide)
  · intro v
    refine Classical.byContradiction fun hne => ?_
    rcases hregisters v hne with ⟨-, hi⟩ | ⟨-, hi⟩ | ⟨-, hi⟩ | ⟨-, hi⟩
    · exact absurd hi (by decide)
    · exact absurd hi (by decide)
    · cases hi
    · cases hi

end Machine

end Chip8
