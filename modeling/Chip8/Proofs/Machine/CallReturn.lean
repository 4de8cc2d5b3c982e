import Chip8.Proofs.Machine.InBounds

/-!
# `Chip8.Proofs.Machine.CallReturn`: a call that returns at once

A call pushes the address behind it and a return pops it, so a subroutine
that only returns leaves the machine as it was, behind the call.
`CallStack.pop_push` says so for the call stack. The slot that a push
fills is cleared by the pop, and so it has to be zero before.
`run_call_ret` says it for two cycles.

In a machine that a program can bring about the free slots are zero
(`CallStack.Holds`), which gives `replay_call_ret`. An address on the call
stack has twelve bits. The word behind the last word of memory has an
address of thirteen, and a call from there returns to address zero
(`replay_call_ret_last`).
-/

set_option autoImplicit false

namespace Chip8

/-- What is pushed is popped again, and the stack is what it was. -/
theorem CallStack.pop_push {s : CallStack} {a : Word} (hd : s.depth < 16)
    (hclear : s.slots[s.depth] = 0) :
    ∃ t, s.push a = .ok t ∧ t.pop = .ok (s, UInt16.ofNat (a.toNat % 4096)) := by
  rw [push, dif_pos hd]
  refine ⟨_, rfl, ?_⟩
  rw [pop, dif_pos (Nat.succ_pos _)]
  simp only [Nat.add_sub_cancel, Vector.getElem_set_self, Vector.set_set]
  -- Clearing the slot writes what it held before the push.
  rw [← hclear, Vector.set_getElem_self]

namespace Machine

variable {s : Machine} {target : Address}

theorem cycle_call {stack : CallStack} (hcur : s.current? = some (.call target))
    (hpush : s.stack.push (s.pc + 2) = .ok stack) :
    s.cycle = .ok { s with pc := target.toWord, stack, frameReady := false } := by
  rw [cycle_of_current? hcur]
  exact execute_eq_ok_iff.2 ⟨_, bind_eq_ok.2 ⟨stack, hpush, rfl⟩, rfl⟩

theorem cycle_ret {stack : CallStack} {a : Word} (hcur : s.current? = some .ret)
    (hpop : s.stack.pop = .ok (stack, a)) :
    s.cycle = .ok { s with pc := a, stack, frameReady := false } := by
  rw [cycle_of_current? hcur]
  exact execute_eq_ok_iff.2 ⟨_, bind_eq_ok.2 ⟨(stack, a), hpop, rfl⟩, rfl⟩

/-- A machine that goes on at an address where a return lies comes to
it. -/
theorem current?_of_target (hpc : s.pc = target.toWord)
    (hret : Word.ofBytes (s.memory.read target) (s.memory.read (target + 1)) = 0x00EE) :
    s.current? = some .ret := by
  have htarget : s.pc.toNat = target := by
    rw [hpc, Address.toNat_toWord]
  -- Past the end of memory nothing is held, so the low byte of the word lies inside.
  have hin : target.val + 1 < Memory.size := by
    refine Classical.byContradiction fun hout => ?_
    have hlow : s.memory.read (target + 1) = 0 := Memory.read_of_size_le (Nat.not_lt.1 hout)
    have hword := congrArg UInt16.toNat hret
    rw [hlow, Word.toNat_ofBytes] at hword
    simp only [UInt8.toNat_zero, UInt16.reduceToNat] at hword
    omega
  refine current?_eq_some_iff.2 ⟨by rw [htarget]; exact hin, ?_⟩
  have hword : s.word = 0x00EE := by
    rw [word, htarget, hret]
  rw [hword]
  rfl

/-- A call to a return, on a stack that is not full and whose next slot is
zero: after two cycles the machine is what it was, behind the call. -/
theorem run_call_ret (hcall : s.current? = some (.call target)) (hd : s.stack.depth < 16)
    (hclear : s.stack.slots[s.stack.depth] = 0)
    (hret : Word.ofBytes (s.memory.read target) (s.memory.read (target + 1)) = 0x00EE) :
    s.run 2
      = .ok { s with pc := UInt16.ofNat ((s.pc + 2).toNat % 4096), frameReady := false } := by
  obtain ⟨stack, hpush, hpop⟩ := CallStack.pop_push (a := s.pc + 2) hd hclear
  let t : Machine := { s with pc := target.toWord, stack, frameReady := false }
  have hfirst : s.cycle = .ok t := cycle_call hcall hpush
  have hsecond := cycle_ret (s := t) (current?_of_target rfl hret) hpop
  rw [run_of_cycle hfirst, run_of_cycle hsecond]
  rfl

/-- The return address of a call that was fetched. -/
theorem toNat_return (hcall : s.current? = some (.call target)) :
    (s.pc + 2).toNat = s.pc.toNat + 2 := by
  have hpc : s.pc.toNat + 1 < 4096 := (current?_eq_some_iff.1 hcall).1
  exact toNat_add_two (by omega)

/-- A machine that a program can bring about comes to a call, the call
stack is not full, and the word at the target is `00EE`. Then two cycles
succeed, and leave the machine with the program counter two further on and
the frame flag clear. Nothing else has changed, and no slot of the call
stack either. The call in the last word of memory is the exception:
there is no word behind it, and the program goes on at address zero. -/
theorem replay_call_ret (random : RandomKey) (rom : Rom) (events : List Event) (s₀ s : Machine)
    (target : Address) (hload : (boot random).load rom = .ok s₀)
    (hrun : s₀.replay events = .ok s) (hcall : s.current? = some (.call target))
    (hdepth : s.stack.depth < 16)
    (hret : Word.ofBytes (s.memory.read target) (s.memory.read (target + 1)) = 0x00EE) :
    s.run 2
        = .ok { s with pc := UInt16.ofNat ((s.pc.toNat + 2) % 4096), frameReady := false } ∧
      (s.pc ≠ 0xFFE → s.run 2 = .ok { s with pc := s.pc + 2, frameReady := false }) ∧
      (s.pc = 0xFFE → s.run 2 = .ok { s with pc := 0, frameReady := false }) := by
  obtain ⟨-, rfl⟩ := load_eq_ok_iff.1 hload
  obtain ⟨hholds, -⟩ := holds_steps rfl hrun
  have hback := toNat_return hcall
  have htwo := run_call_ret hcall hdepth (hholds.clear _ hdepth (Nat.le_refl _)) hret
  rw [hback] at htwo
  refine ⟨htwo, fun hne => ?_, fun hlast => ?_⟩
  · have hpc : s.pc.toNat + 1 < 4096 := (current?_eq_some_iff.1 hcall).1
    have hne' : s.pc.toNat ≠ 0xFFE := fun heq => hne (UInt16.toNat_inj.1 heq)
    have hbehind : UInt16.ofNat ((s.pc.toNat + 2) % 4096) = s.pc + 2 := by
      rw [Nat.mod_eq_of_lt (by omega), ← hback, UInt16.ofNat_toNat]
    rw [htwo, hbehind]
  · rw [htwo, hlast]
    rfl

/-- A subroutine calls another one that only returns, with a tick and a
key in between. The first call is still pending, and the free slots are
zero again. -/
theorem replay_call_ret_nested :
    let rom : Rom := [0x22, 0x04, 0x12, 0x02, 0x22, 0x08, 0x00, 0xEE, 0x00, 0xEE]
    ∃ s₀ s, (boot ⟨0, 0⟩).load rom = .ok s₀ ∧ s₀.replay [.cycle, .tick, .press 3] = .ok s ∧
      s.pc = 0x204 ∧ s.stack.entries = [0x202] ∧
      s.run 2 = .ok { s with pc := 0x206, frameReady := false } := by
  intro rom
  have hcheck : ((boot ⟨0, 0⟩).load rom).toOption.any (fun s₀ =>
      (s₀.replay [.cycle, .tick, .press 3]).toOption.any fun s =>
        s.pc == 0x204 && s.stack.entries == [0x202] && s.current? == some (.call 0x208) &&
          s.stack.depth == 1 &&
          Word.ofBytes (s.memory.read 0x208) (s.memory.read 0x209) == 0x00EE) = true := by
    decide +kernel
  obtain ⟨s₀, hload, hcheck⟩ := ok_of_any hcheck
  obtain ⟨s, hrun, hcheck⟩ := ok_of_any hcheck
  simp only [Bool.and_eq_true, beq_iff_eq] at hcheck
  obtain ⟨⟨⟨⟨hpc, hentries⟩, hcall⟩, hdepth⟩, hret⟩ := hcheck
  obtain ⟨-, htwo, -⟩ :=
    replay_call_ret ⟨0, 0⟩ rom _ s₀ s 0x208 hload hrun hcall (by omega) hret
  refine ⟨s₀, s, hload, hrun, hpc, hentries, ?_⟩
  rw [htwo (by rw [hpc]; decide), hpc]
  rfl

/-- A program writes a call into the last word of memory and jumps there.
The subroutine returns at once, but not to the address behind the call,
which no word has: the program goes on at address zero. -/
theorem replay_call_ret_last :
    let rom : Rom := [0x60, 0x22, 0x61, 0x0A, 0xAF, 0xFE, 0xF1, 0x55, 0x1F, 0xFE, 0x00, 0xEE]
    (∃ s₀ s, (boot ⟨0, 0⟩).load rom = .ok s₀ ∧ s₀.replay (.replicate 5 .cycle) = .ok s ∧
      s.pc = 0xFFE ∧ s.current? = some (.call 0x20A) ∧
      s.run 2 = .ok { s with pc := 0, frameReady := false }) ∧
    ¬ ∀ (random : RandomKey) (rom : Rom) (events : List Event) (s₀ s : Machine)
        (target : Address), (boot random).load rom = .ok s₀ → s₀.replay events = .ok s →
      s.current? = some (.call target) → s.stack.depth < 16 →
      Word.ofBytes (s.memory.read target) (s.memory.read (target + 1)) = 0x00EE →
      s.run 2 = .ok { s with pc := s.pc + 2, frameReady := false } := by
  intro rom
  have hcheck : ((boot ⟨0, 0⟩).load rom).toOption.any (fun s₀ =>
      (s₀.replay (.replicate 5 .cycle)).toOption.any fun s =>
        s.pc == 0xFFE && s.current? == some (.call 0x20A) && s.stack == .empty &&
          Word.ofBytes (s.memory.read 0x20A) (s.memory.read 0x20B) == 0x00EE) = true := by
    decide +kernel
  obtain ⟨s₀, hload, hcheck⟩ := ok_of_any hcheck
  obtain ⟨s, hrun, hcheck⟩ := ok_of_any hcheck
  simp only [Bool.and_eq_true, beq_iff_eq] at hcheck
  obtain ⟨⟨⟨hpc, hcall⟩, hstack⟩, hret⟩ := hcheck
  have hdepth : s.stack.depth < 16 := by
    rw [hstack]
    decide
  have hclear : s.stack.slots[s.stack.depth] = 0 :=
    (hstack ▸ CallStack.holds_empty : s.stack.Holds []).clear _ hdepth (Nat.le_refl _)
  have htwo : s.run 2 = .ok { s with pc := 0, frameReady := false } := by
    rw [run_call_ret hcall hdepth hclear hret, hpc]
    rfl
  refine ⟨⟨s₀, s, hload, hrun, hpc, hcall, htwo⟩, fun hclaim => ?_⟩
  have hbehind := htwo.symm.trans (hclaim _ _ _ _ _ _ hload hrun hcall hdepth hret)
  -- The two program counters would have to be one.
  have hsame : (0 : Word) = s.pc + 2 := congrArg Machine.pc (Except.ok.inj hbehind)
  rw [hpc] at hsame
  exact absurd hsame (by decide)

end Machine

end Chip8
