import Chip8.Proofs.Machine.Batch
import Chip8.Proofs.Machine.Decode

/-!
# `Chip8.Proofs.Machine.Blocked`: programs that stay where they are

A machine is blocked if its next cycle changes nothing, or the frame flag
at most (`Machine.Blocked`). As no cycle looks at that flag, the cycle
after it does the same, and so does every further one (`Blocked.run_eq`).

There are two ways for a program to be blocked. A jump to its own address
is one (`cycle_selfJump`): the usual end of a program. The other is to wait
for a key while none is held down (`Machine.Waits`): the program counter
is moved past the word and back again. A key that goes down ends the wait
(`Waits.cycle_press`), and how long the wait has been makes no difference.
-/

set_option autoImplicit false

namespace Chip8

theorem Word.toNat_ofAddress {group : Nat} {a : Address} (h : group < 16) :
    (ofAddress group a).toNat = 4096 * group + a := by
  simp only [ofAddress, UInt16.toNat_ofNat']
  omega

namespace Machine

variable {s : Machine} {x : Fin 16} {a : Address}

/-! ### Blocked machines -/

/-- The next cycle changes the frame flag at most. -/
def Blocked (s : Machine) : Prop := ∃ ready, s.cycle = .ok { s with frameReady := ready }

/-- Many cycles of a blocked machine do what one of them does. -/
theorem Blocked.run_eq (h : s.Blocked) {n : Nat} (hn : 0 < n) : s.run n = s.cycle := by
  obtain ⟨ready, hcycle⟩ := h
  induction n with
  | zero => exact absurd hn (Nat.lt_irrefl 0)
  | succ n ih =>
    -- The frame flag that the first cycle has left is not looked at by the others.
    rw [run_of_cycle hcycle]
    by_cases hmore : 0 < n
    · rw [run_withFrame hmore, ih hmore]
    · obtain rfl : n = 0 := Nat.eq_zero_of_not_pos hmore
      exact hcycle.symm

theorem Blocked.runCycles_eq (h : s.Blocked) {n : Int} (hpos : 1 ≤ n) (hn : n < signedBound 32) :
    s.runCycles n = s.cycle.mapError .fault := by
  obtain ⟨ready, hcycle⟩ := h
  rw [hcycle]
  exact runCycles_eq_ok_iff.2 ⟨hn, (Blocked.run_eq ⟨ready, hcycle⟩ (by omega)).trans hcycle⟩

/-! ### A jump to itself -/

/-- A word that jumps to its own address lies in memory: past the end
nothing is held, and the low byte of such a word in the last place is not
zero. -/
theorem pc_lt_of_selfJump (hword : s.word = .ofAddress 0x1 a) (hpc : s.pc = a.toWord) :
    s.pc.toNat + 1 < Memory.size := by
  have hplace : s.pc.toNat = a := by rw [hpc, Address.toNat_toWord]
  refine Classical.byContradiction fun hout => ?_
  have hlow : s.memory.read (s.pc.toNat + 1) = 0 := Memory.read_of_size_le (Nat.not_lt.1 hout)
  have hvalue := congrArg UInt16.toNat hword
  have hsize : Memory.size = 4096 := rfl
  rw [word, hlow, Word.toNat_ofBytes, Word.toNat_ofAddress (by decide), UInt8.toNat_zero] at hvalue
  omega

/-- A jump to its own address changes nothing. -/
theorem cycle_selfJump (hword : s.word = .ofAddress 0x1 a) (hpc : s.pc = a.toWord) :
    s.cycle = .ok { s with frameReady := false } := by
  rw [cycle_of_lt (pc_lt_of_selfJump hword hpc), hword, Instruction.decode_jump]
  refine execute_eq_ok_iff.2 ⟨_, rfl, ?_⟩
  rw [← hpc]
  rfl

/-! ### Waiting for a key -/

/-- The machine waits for a key, and none is held down. The number of the
key is to go into `VX`. -/
structure Waits (s : Machine) (x : Fin 16) : Prop where
  /-- The word at the program counter lies in memory. -/
  pc_le : s.pc.toNat ≤ 4094
  word_eq : s.word = .ofNibbles 0xF x 0x0 0xA
  key_eq : s.key = .empty

theorem Waits.pc_lt (h : s.Waits x) : s.pc.toNat + 1 < Memory.size :=
  Nat.lt_of_le_of_lt (Nat.succ_le_succ h.pc_le) (by decide)

/-- Without a key the program counter is moved on and back, wherever it
is. -/
theorem Waits.cycle_eq (h : s.Waits x) : s.cycle = .ok { s with frameReady := false } := by
  have hnone : s.stepped.key.byte? = none := by
    show s.key.byte? = none
    rw [h.key_eq, Latch.byte?_empty]
  have hback : s.stepped.perform (.waitKey x) = .ok s := by
    rw [perform, hnone]
    show Except.ok { s with pc := s.pc + 2 - 2 } = _
    rw [UInt16.add_sub_cancel]
  rw [cycle_of_lt h.pc_lt, h.word_eq, Instruction.decode_waitKey]
  exact execute_eq_ok_iff.2 ⟨s, hback, rfl⟩

theorem Waits.blocked (h : s.Waits x) : s.Blocked := ⟨false, h.cycle_eq⟩

/-- The timers and the frame flag have nothing to do with the wait. -/
theorem Waits.of_timers (h : s.Waits x) (delay sound : UInt8) (ready : Bool) :
    ({ s with delay, sound, frameReady := ready } : Machine).Waits x :=
  ⟨h.pc_le, h.word_eq, h.key_eq⟩

/-- The address behind the word that waits. -/
theorem Waits.toNat_next (h : s.Waits x) : (s.pc + 2).toNat = s.pc.toNat + 2 :=
  toNat_add_two (Nat.le_trans h.pc_le (by decide))

/-- With a key held down the wait is over: the number of the key goes into
`VX`, and the program goes on behind the word. -/
theorem Waits.cycle_press (h : s.Waits x) (j : Key) :
    (s.press j).cycle = .ok { s with
      registers := s.registers.set x (UInt8.ofNat j)
      pc := s.pc + 2
      key := .holding j
      frameReady := false } := by
  have hkey : (s.press j).stepped.key.byte? = some (UInt8.ofNat j) := Latch.byte?_holding j
  have hread : (s.press j).stepped.perform (.waitKey x)
      = .ok ((s.press j).stepped.setRegister x (UInt8.ofNat j)) := by
    rw [perform, hkey]
  have hcycle : (s.press j).cycle = (s.press j).stepped.execute (.decode s.word) :=
    cycle_of_lt h.pc_lt
  rw [hcycle, h.word_eq, Instruction.decode_waitKey]
  exact execute_eq_ok_iff.2 ⟨_, hread, rfl⟩

end Machine

end Chip8
