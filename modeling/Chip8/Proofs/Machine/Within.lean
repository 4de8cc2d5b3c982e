import Chip8.Proofs.Machine.Cycle

/-!
# `Chip8.Proofs.Machine.Within`: what an instruction may write

`Instruction.footprint` says for each instruction which parts of a
machine it may write: some registers, a run of bytes at the index
register, or one of the other parts. `Machine.Within` says that a machine
differs from another one only inside such a footprint.

The main statement is `within_of_perform`: an instruction keeps to its
footprint. The program counter is not part of it.
-/

set_option autoImplicit false

namespace Chip8

/-! ### Footprints -/

/-- The parts of a machine that may be written, the program counter and
the frame flag apart. -/
structure Footprint where
  /-- The registers that may be written. -/
  registers : Fin 16 → Bool := fun _ => false
  /-- The number of bytes at the index register that may be written. -/
  bytes : Nat := 0
  index : Bool := false
  display : Bool := false
  stack : Bool := false
  delay : Bool := false
  sound : Bool := false
  random : Bool := false

/-- Whether an operation on two bytes has a flag. -/
def AluOp.setsFlag : AluOp → Bool
  | move | or | and | xor => false
  | add | sub | shiftRight | subFrom | shiftLeft => true

namespace Instruction

/-- What an instruction may write. -/
def footprint : Instruction → Footprint
  | clear => { display := true }
  | ret | call _ => { stack := true }
  | setByte x _ | addByte x _ | getDelay x | waitKey x => { registers := fun v => v == x }
  | alu op x _ => { registers := fun v => v == x || op.setsFlag && v == Registers.flag }
  | random x _ => { registers := fun v => v == x, random := true }
  | draw _ _ _ => { registers := fun v => v == Registers.flag, display := true }
  | load x => { registers := fun v => v ≤ x }
  | setIndex _ | addIndex _ | glyph _ => { index := true }
  | setDelay _ => { delay := true }
  | setSound _ => { sound := true }
  | decimal _ => { bytes := 3 }
  | store x => { bytes := x + 1 }
  | idle | jump _ | jumpOffset _ | skipEqByte _ _ | skipNeByte _ _ | skipEq _ _ | skipNe _ _
  | skipKey _ | skipNoKey _ => {}

end Instruction

theorem Registers.get_set_of_ne {r : Registers} {x v : Fin 16} {b : UInt8}
    (h : (v == x) = false) : (r.set x b).get v = r.get v := by
  rw [get_set, if_neg (beq_eq_false_iff_ne.1 h)]

theorem Memory.read_writeBlock_add {m : Memory} {a i : Nat} {bs : List UInt8}
    (hi : i < bs.length) (hin : a + i < 4096) : (m.writeBlock a bs).read (a + i) = bs[i] := by
  rw [read_writeBlock, dif_pos ⟨by omega, by omega, hin⟩]
  simp only [Nat.add_sub_cancel_left]

theorem Memory.read_writeBlock_of_outside {m : Memory} {a i : Nat} {bs : List UInt8}
    (h : i < a ∨ a + bs.length ≤ i) : (m.writeBlock a bs).read i = m.read i := by
  rw [read_writeBlock, dif_neg (by omega)]

namespace Machine

/-- The machine `t` differs from `s` only inside the footprint `f`. -/
structure Within (s : Machine) (f : Footprint) (t : Machine) : Prop where
  -- A part that a proof does not name has not been written at all, or `f` lets it be written.
  registers : ∀ v, f.registers v = false → t.registers.get v = s.registers.get v := by
    intro v h; rfl
  memory : ∀ a, a < s.index.toNat ∨ s.index.toNat + f.bytes ≤ a →
    t.memory.read a = s.memory.read a := by intro a h; rfl
  index : f.index = false → t.index = s.index := by intro h; first | (cases h; done) | rfl
  display : f.display = false → t.display = s.display := by intro h; first | (cases h; done) | rfl
  stack : f.stack = false → t.stack = s.stack := by intro h; first | (cases h; done) | rfl
  delay : f.delay = false → t.delay = s.delay := by intro h; first | (cases h; done) | rfl
  sound : f.sound = false → t.sound = s.sound := by intro h; first | (cases h; done) | rfl
  random : f.random = false → t.random = s.random := by intro h; first | (cases h; done) | rfl

variable {s t : Machine} {i : Instruction}

theorem within_skipIf (s : Machine) (c : Bool) : s.Within {} (s.skipIf c) := by
  cases c <;> exact {}

theorem within_setRegister (s : Machine) (x : Fin 16) (b : UInt8) :
    s.Within { registers := fun v => v == x } (s.setRegister x b) where
  registers _ hv := Registers.get_set_of_ne hv

/-- The result of an operation goes into one register, and its flag into
another one or the same. -/
theorem within_alu {op : AluOp} {x y : Fin 16} (h : s.perform (.alu op x y) = .ok t) :
    s.Within (Instruction.alu op x y).footprint t := by
  simp only [perform] at h
  cases op <;> cases h
  case move | or | and | xor =>
    exact { registers := fun v hv => Registers.get_set_of_ne (Bool.or_eq_false_iff.1 hv).1 }
  all_goals
    refine { registers := fun v hv => ?_ }
    obtain ⟨hx, hflag⟩ := Bool.or_eq_false_iff.1 hv
    exact (Registers.get_set_of_ne hflag).trans (Registers.get_set_of_ne hx)

/-- An instruction writes nothing outside its footprint. -/
theorem within_of_perform (h : s.perform i = .ok t) : s.Within i.footprint t := by
  cases i with
  | skipEqByte | skipNeByte | skipEq | skipNe | skipKey | skipNoKey =>
    cases h
    exact s.within_skipIf _
  | setByte | addByte | getDelay =>
    cases h
    exact s.within_setRegister _ _
  | ret =>
    obtain ⟨⟨_, _⟩, _, heq⟩ := bind_eq_ok.1 h
    cases heq
    exact {}
  | call =>
    obtain ⟨_, _, heq⟩ := bind_eq_ok.1 h
    cases heq
    exact {}
  | alu => exact within_alu h
  | random x mask =>
    cases h
    exact { registers := fun v hv => Registers.get_set_of_ne hv }
  | draw x y height =>
    obtain ⟨-, -, heq⟩ := bind_eq_ok.1 h
    cases heq
    exact { registers := fun v hv => Registers.get_set_of_ne hv }
  | waitKey x =>
    simp only [perform] at h
    split at h <;> cases h
    · exact s.within_setRegister _ _
    · exact {}
  | addIndex x =>
    simp only [perform] at h
    split at h <;> cases h
    exact {}
  | decimal x =>
    obtain ⟨-, -, heq⟩ := bind_eq_ok.1 h
    cases heq
    exact { memory := fun a ha => Memory.read_writeBlock_of_outside ha }
  | store x =>
    obtain ⟨-, -, heq⟩ := bind_eq_ok.1 h
    cases heq
    exact { memory := fun a ha => Memory.read_writeBlock_of_outside (by rwa [Registers.length_upTo]) }
  | load x =>
    obtain ⟨-, -, heq⟩ := bind_eq_ok.1 h
    cases heq
    exact { registers := fun v hv => by rw [Registers.get_loadUpTo, if_neg (of_decide_eq_false hv)] }
  | _ =>
    cases h
    exact {}

end Machine

end Chip8
