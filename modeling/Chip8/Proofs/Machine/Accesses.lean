import Chip8.Proofs.Machine.Drawing
import Chip8.Proofs.Machine.Faults

/-!
# `Chip8.Proofs.Machine.Accesses`: the bytes that an instruction reaches for

Four instructions have to do with the memory at the index register. A draw
and a load look at bytes there, the decimal digits and a store write them.
`Machine.Accesses` says which bytes, by what an instruction looks at and
what it may write. `Instruction.accessed?` is the number of bytes that it
asks to lie in memory before it goes on, and `accesses_iff` shows that the
two belong together.

The question is put for all bytes at once: the run of them must not end
past the end of memory. That is the same as putting it for each byte, as
long as there is one (`lt_add_iff_exists`). The main statement,
`execute_outOfRange_iff`, is therefore exact but for a sprite of height
zero. Such a sprite has no bytes, and yet a machine whose index register
points behind the end of memory fails on it (`draw_nothing_fails`).
-/

set_option autoImplicit false

namespace Chip8

/-- The number of bytes at the index register that an instruction asks to
lie in memory, if it asks at all. -/
def Instruction.accessed? : Instruction → Option Nat
  | draw _ _ height => some height
  | decimal _ => some 3
  | store x | load x => some (x + 1)
  | _ => none

/-- The instructions that ask, with the fields of the word that stands for
them. -/
theorem Instruction.accessed?_eq_some_iff {i : Instruction} {w : Word} (hi : i.FieldsOf w)
    {length : Nat} :
    i.accessed? = some length ↔
      i = draw w.x w.y w.n ∧ length = w.n ∨ i = decimal w.x ∧ length = 3 ∨
      (i = store w.x ∨ i = load w.x) ∧ length = w.x + 1 := by
  cases i with
  | draw x y height =>
    obtain ⟨rfl, rfl, rfl⟩ := hi
    simp [accessed?, eq_comm]
  | decimal x | store x | load x =>
    obtain rfl := hi
    simp [accessed?, eq_comm]
  | _ => simp [accessed?]

/-- A sprite without rows has no pixels. -/
theorem Display.ofSprite_nil (ox oy : Nat) : ofSprite ox oy [] = blank := by
  refine ext_pixel fun x y hx hy => ?_
  rw [pixel_ofSprite hx hy, pixel_blank]
  simp

@[simp] theorem Display.xor_blank (d : Display) : d.xor blank = d := by
  refine ext_pixel fun x y _ _ => ?_
  rw [pixel_xor, pixel_blank, Bool.xor_false]

@[simp] theorem Display.overlaps_blank (d : Display) : d.overlaps blank = false := by
  rw [← Bool.not_eq_true, overlaps_iff]
  simp

/-- A run of bytes goes past `limit` just if one of its bytes does, or it
is empty and begins there. -/
theorem lt_add_iff_exists {limit start length : Nat} :
    limit < start + length ↔
      (∃ j < length, limit ≤ start + j) ∨ length = 0 ∧ limit < start := by
  constructor
  · intro h
    by_cases hlength : length = 0
    · exact .inr ⟨hlength, by omega⟩
    · exact .inl ⟨length - 1, by omega, by omega⟩
  · rintro (⟨j, hj, hout⟩ | ⟨rfl, hout⟩) <;> omega

namespace Machine

variable {s : Machine} {i : Instruction}

/-- The instruction has to look at the byte at the address `a`, or to
write it. -/
def Accesses (s : Machine) (i : Instruction) (a : Nat) : Prop :=
  s.index.toNat ≤ a ∧
    (a < s.index.toNat + i.reads.bytes ∨ a < s.index.toNat + i.footprint.bytes)

/-- The bytes that are accessed are those that are asked for. -/
theorem accesses_iff {a : Nat} :
    s.Accesses i a ↔
      ∃ length, i.accessed? = some length ∧ ∃ j < length, a = s.index.toNat + j := by
  have hrun : ∀ length : Nat,
      (∃ j < length, a = s.index.toNat + j) ↔
        s.index.toNat ≤ a ∧ a < s.index.toNat + length := by
    intro length
    constructor
    · rintro ⟨j, hj, rfl⟩
      omega
    · rintro ⟨hle, hlt⟩
      exact ⟨a - s.index.toNat, by omega, by omega⟩
  simp only [hrun, Accesses]
  -- A draw and a load look at bytes, the decimal digits and a store write
  -- them, and the other instructions do neither.
  cases i with
  | draw x y height | decimal x | store x | load x =>
    simp only [Instruction.accessed?, Instruction.reads, Instruction.footprint,
      Option.some.injEq, exists_eq_left']
    omega
  | _ =>
    simp only [Instruction.accessed?, Instruction.reads, Instruction.footprint, reduceCtorEq,
      false_and, exists_false, iff_false]
    omega

/-- What an instruction asks for is refused if it does not end in
memory, and for no other reason. -/
theorem refuses_outOfRange_iff {index length : Nat} :
    s.Refuses i (.accessOutOfRange index length) ↔
      index = s.index.toNat ∧ i.accessed? = some length ∧
        Memory.size < s.index.toNat + length := by
  have hsize : Memory.size = 4096 := rfl
  constructor
  · intro h
    cases h with
    | draw hout | decimal hout | store hout | load hout => exact ⟨rfl, rfl, by omega⟩
  · rintro ⟨rfl, hlength, hout⟩
    cases i with
    | draw x y height =>
      cases hlength
      exact .draw (by omega)
    | decimal x =>
      cases hlength
      exact .decimal (by omega)
    | store x =>
      cases hlength
      exact .store (by omega)
    | load x =>
      cases hlength
      exact .load (by omega)
    | _ => cases hlength

/-- A sprite of height zero, which is drawn if its corner is not behind
the end of memory. -/
theorem execute_draw_nothing (s : Machine) (x y : Fin 16) :
    s.execute (.draw x y 0) =
      if s.index.toNat ≤ Memory.size then
        .ok { s with registers := s.registers.set Registers.flag 0, frameReady := true }
      else .error (.accessOutOfRange s.index.toNat 0) := by
  by_cases hin : s.index.toNat ≤ Memory.size
  · have hheight : s.index.toNat + (0 : Fin 16) ≤ 4096 := hin
    have hsprite : s.sprite x y 0 = .blank := Display.ofSprite_nil _ _
    rw [if_pos hin, execute_draw hheight, hsprite, Display.xor_blank, Display.overlaps_blank]
    rfl
  · rw [if_neg hin, execute_eq_error_iff, perform_eq_error_iff, refuses_outOfRange_iff]
    exact ⟨rfl, rfl, Nat.lt_of_not_le hin⟩

/-- An access that is out of range. An instruction fails in this way just
if it is one of the four that reach for bytes, and one of the bytes that it
has to look at or to write lies outside memory; the fault tells where the
bytes begin and how many they are.

There is one more case. A sprite of height zero has no bytes to look at.
It is drawn, and changes nothing but the flag register and the frame flag,
unless the index register points behind the end of memory: then it is
refused like an access that is out of range. -/
theorem execute_outOfRange_iff (s : Machine) (w : Word) :
    let i := Instruction.decode w
    (∀ index length, s.execute i = .error (.accessOutOfRange index length) ↔
      index = s.index.toNat ∧ i.accessed? = some length ∧
        ((∃ a, 4096 ≤ a ∧ s.Accesses i a) ∨ length = 0 ∧ 4096 < s.index.toNat)) ∧
    (∀ a, s.Accesses i a ↔
      ∃ length, i.accessed? = some length ∧ ∃ j < length, a = s.index.toNat + j) ∧
    (∀ length, i.accessed? = some length ↔
      i = .draw w.x w.y w.n ∧ length = w.n ∨ i = .decimal w.x ∧ length = 3 ∨
      (i = .store w.x ∨ i = .load w.x) ∧ length = w.x + 1) ∧
    ∀ x y, s.execute (.decode (.ofNibbles 0xD x y 0)) =
      if s.index.toNat ≤ 4096 then
        .ok { s with registers := s.registers.set Registers.flag 0, frameReady := true }
      else .error (.accessOutOfRange s.index.toNat 0) := by
  intro i
  refine ⟨fun index length => ?_, fun a => accesses_iff,
    fun length => Instruction.accessed?_eq_some_iff (Instruction.decode_fieldsOf w),
    fun x y => ?_⟩
  · rw [execute_eq_error_iff, perform_eq_error_iff, refuses_outOfRange_iff]
    refine and_congr_right fun _ => and_congr_right fun hlength => ?_
    -- The bytes are counted from the index register on.
    have hbyte : (∃ a, 4096 ≤ a ∧ s.Accesses i a) ↔ ∃ j < length, 4096 ≤ s.index.toNat + j := by
      simp only [accesses_iff, hlength, Option.some.injEq, exists_eq_left']
      constructor
      · rintro ⟨_, hout, j, hj, rfl⟩
        exact ⟨j, hj, hout⟩
      · rintro ⟨j, hj, hout⟩
        exact ⟨_, hout, j, hj, rfl⟩
    rw [hbyte]
    exact lt_add_iff_exists
  · rw [Instruction.decode_draw]
    exact s.execute_draw_nothing x y

/-- A program takes the index register two bytes behind the last one and
draws a sprite of height zero there. There is no byte to look at, and yet
the draw is refused. -/
theorem draw_nothing_fails :
    (∃ s₀ s, (boot ⟨0, 0⟩).load [0x60, 0x02, 0xAF, 0xFF, 0xF0, 0x1E, 0xD0, 0x00] = .ok s₀ ∧
      s₀.run 3 = .ok s ∧ s.index = 0x1001 ∧ s.current? = some (.draw 0 0 0) ∧
      s.cycle = .error (.accessOutOfRange 0x1001 0) ∧ ∀ a, ¬ s.Accesses (.draw 0 0 0) a) ∧
    ¬ ∀ (s : Machine) (w : Word),
      (∃ index length, s.execute (.decode w) = .error (.accessOutOfRange index length)) ↔
        ∃ a, 4096 ≤ a ∧ s.Accesses (.decode w) a := by
  have hnone : ∀ (s : Machine) a, ¬ s.Accesses (.draw 0 0 0) a := by
    intro s a ha
    obtain ⟨length, hlength, j, hj, -⟩ := accesses_iff.1 ha
    cases hlength
    exact absurd hj (Nat.not_lt_zero j)
  have hcheck : ((boot ⟨0, 0⟩).load
      [0x60, 0x02, 0xAF, 0xFF, 0xF0, 0x1E, 0xD0, 0x00]).toOption.any (fun s₀ =>
        (s₀.run 3).toOption.any fun s =>
          s.index == 0x1001 && s.current? == some (.draw 0 0 0)) = true := by
    decide +kernel
  obtain ⟨s₀, hload, hcheck⟩ := ok_of_any hcheck
  obtain ⟨s, hrun, hcheck⟩ := ok_of_any hcheck
  simp only [Bool.and_eq_true, beq_iff_eq] at hcheck
  obtain ⟨hindex, hcur⟩ := hcheck
  have hfails : s.execute (.draw 0 0 0) = .error (.accessOutOfRange 0x1001 0) := by
    rw [execute_draw_nothing, hindex]
    rfl
  have hcycle : s.cycle = .error (.accessOutOfRange 0x1001 0) := by
    rw [cycle_eq_error_iff]
    refine .refused (current?_eq_some_iff.1 hcur).1 ?_
    rw [(current?_eq_some_iff.1 hcur).2]
    exact perform_eq_error_iff.1 (execute_eq_error_iff.1 hfails)
  refine ⟨⟨s₀, s, hload, hrun, hindex, hcur, hcycle, hnone s⟩, fun hclaim => ?_⟩
  rw [← Instruction.decode_draw] at hfails
  obtain ⟨a, -, ha⟩ := (hclaim s (.ofNibbles 0xD 0 0 0)).1 ⟨_, _, hfails⟩
  rw [Instruction.decode_draw] at ha
  exact hnone s a ha

end Machine

end Chip8
