import Chip8.Proofs.Machine.PendingReturns
import Chip8.Proofs.Machine.RunUntilFrame

/-!
# `Chip8.Proofs.Machine.InBounds`: no run leaves the address space far behind

The program counter has sixteen bits and memory has twelve. A fetch
refuses addresses outside memory, a jump has a target of twelve bits, and
a return goes back to an address that a push has cut to twelve bits. Only
stepping past the last word and skipping behind it lead out of memory, by
four bytes at most. `Machine.InBounds` says so of the program counter,
and what has to hold of the call stack and the latch along with it.

`InBounds.cycle` is the step lemma: a cycle keeps the bounds, for every
way the program can go on (`Flow.inBounds`). `InBounds.operate` extends
it to everything a host can do with a machine. The main statement is
`operateAll_inBounds`. Within the bounds no sum on the program counter
wraps around.
-/

set_option autoImplicit false

namespace Chip8

namespace Machine

variable {s t : Machine}

/-! ### The bounds -/

/-- The bounds that every machine keeps which a host can bring about. -/
structure InBounds (s : Machine) : Prop where
  pc_le : s.pc.toNat ≤ 0x1002
  stack : ∃ addresses, s.stack.Holds addresses ∧ ∀ a ∈ addresses, a < 4096
  key : s.key = .empty ∨ ∃ k, s.key = .holding k

/-- A sum on the program counter that stays below the limit. -/
theorem toNat_add_two {a : Word} (h : a.toNat ≤ 0x1004) : (a + 2).toNat = a.toNat + 2 := by
  rw [UInt16.toNat_add]
  show (a.toNat + 2) % 65536 = a.toNat + 2
  omega

theorem toNat_sub_two {a : Word} (h : 2 ≤ a.toNat) : (a - 2).toNat + 2 = a.toNat := by
  have hle : (2 : Word) ≤ a := UInt16.le_iff_toNat_le.2 h
  rw [UInt16.toNat_sub_of_le _ _ hle]
  exact Nat.sub_add_cancel h

/-- A fresh machine is within the bounds. -/
theorem inBounds_boot (random : RandomKey) : (boot random).InBounds where
  pc_le := by show (UInt16.ofNat Rom.start).toNat ≤ 0x1002; decide
  stack := ⟨[], CallStack.holds_empty, nofun⟩
  key := .inl rfl

/-- The bounds speak of the program counter, the call stack and the latch
only. -/
theorem InBounds.congr (hs : s.InBounds) (hpc : t.pc = s.pc) (hstack : t.stack = s.stack)
    (hkey : t.key = s.key) : t.InBounds where
  pc_le := hpc ▸ hs.pc_le
  stack := hstack ▸ hs.stack
  key := hkey ▸ hs.key

/-- The slots in use hold addresses, and the others are zero. -/
theorem InBounds.slots (hs : s.InBounds) (i : Nat) (h : i < 16) :
    (i < s.stack.depth → s.stack.slots[i].toNat ≤ 0xFFF) ∧
      (s.stack.depth ≤ i → s.stack.slots[i] = 0) := by
  obtain ⟨addresses, hholds, haddresses⟩ := hs.stack
  refine ⟨fun hi => ?_, hholds.clear i h⟩
  have hentry : s.stack.entries[i]? = some s.stack.slots[i] := by
    rw [CallStack.getElem?_entries h, if_pos hi]
  have hmem : s.stack.slots[i].toNat ∈ addresses := by
    rw [← hholds.entries]
    exact List.mem_map_of_mem (List.mem_of_getElem? hentry)
  exact Nat.le_of_lt_succ (haddresses _ hmem)

/-- The latch holds `-1` or the number of a key. -/
theorem InBounds.key_code (hs : s.InBounds) :
    s.key.code.toInt = -1 ∨ 0 ≤ s.key.code.toInt ∧ s.key.code.toInt ≤ 15 := by
  rcases hs.key with hkey | ⟨k, hkey⟩
  · rw [hkey]
    exact .inl (by decide)
  · rw [hkey]
    clear hkey
    revert k
    decide

/-! ### What a cycle keeps -/

/-- However an instruction goes on, it stays within the bounds, if it was
fetched from inside memory. -/
theorem Flow.inBounds {i : Instruction} {stack : CallStack} {pc : Word} (hs : s.InBounds)
    (hin : s.pc.toNat + 1 < Memory.size) (h : Flow s.stepped i stack pc) :
    pc.toNat ≤ 0x1002 ∧ ∃ addresses, stack.Holds addresses ∧ ∀ a ∈ addresses, a < 4096 := by
  have hpc : s.pc.toNat ≤ 4094 := Nat.le_of_lt_succ (Nat.lt_of_succ_lt_succ hin)
  have hstep : s.stepped.pc.toNat = s.pc.toNat + 2 := toNat_add_two (by omega)
  cases h with
  | next =>
    exact ⟨by omega, hs.stack⟩
  | skip =>
    have hskip : (s.stepped.pc + 2).toNat = s.stepped.pc.toNat + 2 := toNat_add_two (by omega)
    exact ⟨by omega, hs.stack⟩
  | wait =>
    have hback : (s.stepped.pc - 2).toNat + 2 = s.stepped.pc.toNat := toNat_sub_two (by omega)
    exact ⟨by omega, hs.stack⟩
  | jump target =>
    have := target.isLt
    exact ⟨by rw [Address.toNat_toWord]; omega, hs.stack⟩
  | jumpOffset target a =>
    have := a.isLt
    exact ⟨by rw [Address.toNat_toWord]; omega, hs.stack⟩
  | @call target _ hpush =>
    have := target.isLt
    obtain ⟨addresses, hholds, haddresses⟩ := hs.stack
    refine ⟨by rw [Address.toNat_toWord]; omega, _, hholds.push hpush, fun a ha => ?_⟩
    -- The address that is added was cut to twelve bits.
    rcases List.mem_append.1 ha with ha | ha
    · exact haddresses a ha
    · rw [List.mem_singleton.1 ha]
      exact Nat.mod_lt _ (by decide)
  | ret hpop =>
    obtain ⟨addresses, hholds, haddresses⟩ := hs.stack
    obtain ⟨hholds', hlast⟩ := hholds.pop hpop
    have hpc := haddresses _ (List.mem_of_getLast? hlast)
    exact ⟨by omega, _, hholds', fun a ha => haddresses a (List.dropLast_subset _ ha)⟩

/-- A cycle keeps the bounds. -/
theorem InBounds.cycle (hs : s.InBounds) (h : s.cycle = .ok t) : t.InBounds := by
  obtain ⟨i, hcur, hexec⟩ := current?_of_cycle h
  obtain ⟨u, hu, rfl⟩ := execute_eq_ok_iff.1 hexec
  obtain ⟨hflow, hkey⟩ := flow_of_perform hu
  obtain ⟨hpc, hstack⟩ := hflow.inBounds hs (current?_eq_some_iff.1 hcur).1
  exact ⟨hpc, hstack, by rw [show u.key = s.key from hkey]; exact hs.key⟩

/-! ### What a host can do -/

/-- What a host can do with a machine. -/
inductive Operation where
  /-- One cycle. -/
  | cycle
  /-- A number of cycles. -/
  | runCycles (n : Int)
  /-- Cycles until a frame is complete, within a budget. -/
  | runUntilFrame (budget : Int)
  /-- Count the timers down. -/
  | tick
  /-- Press the key with the given number. -/
  | press (key : Int)
  /-- Release the key. -/
  | release
  /-- Put another program in. -/
  | load (rom : Rom)

/-- The machine after an operation. -/
def operate (s : Machine) : Operation → Except Error Machine
  | .cycle => s.cycle.mapError .fault
  | .runCycles n => s.runCycles n
  | .runUntilFrame budget => (s.runWithin budget).map Prod.fst
  | .tick => .ok s.tick
  | .press key => s.pressInt key
  | .release => .ok s.release
  | .load rom => s.load rom

/-- The machine after operations, one after the other. -/
def operateAll (s : Machine) (ops : List Operation) : Except Error Machine := ops.foldlM operate s

/-- The machines from which an operation may start a cycle, as long as no
cycle before it fails. A run until a frame is complete clears the frame
flag first; it may well stop before it comes to the last of these. -/
def StartsCycle (s : Machine) (t : Machine) : Operation → Prop
  | .cycle => t = s
  | .runCycles n => ∃ k < n.toNat, s.run k = .ok t
  | .runUntilFrame budget =>
    ∃ k < budget.toNat, ({ s with frameReady := false } : Machine).run k = .ok t
  | _ => False

theorem InBounds.run (hs : s.InBounds) {n : Nat} (h : s.run n = .ok t) : t.InBounds :=
  run_induction (fun _ _ => InBounds.cycle) hs h

theorem InBounds.load {rom : Rom} (hs : s.InBounds) (h : s.load rom = .ok t) : t.InBounds := by
  obtain ⟨-, rfl⟩ := load_eq_ok_iff.1 h
  exact hs.congr rfl rfl rfl

theorem InBounds.clearFrame (hs : s.InBounds) :
    ({ s with frameReady := false } : Machine).InBounds :=
  hs.congr rfl rfl rfl

/-- Every operation keeps the bounds. -/
theorem InBounds.operate {o : Operation} (hs : s.InBounds) (h : s.operate o = .ok t) :
    t.InBounds := by
  cases o with
  | cycle => exact hs.cycle (mapError_eq_ok.1 h)
  | runCycles n => exact hs.run (runCycles_eq_ok_iff.1 h).2
  | runUntilFrame budget =>
    rw [Machine.operate] at h
    cases hrun : s.runWithin budget with
    | error e =>
      rw [hrun] at h
      cases h
    | ok r =>
      rw [hrun] at h
      cases h
      exact hs.clearFrame.run (runWithin_eq_ok_iff.1 hrun).2.2
  | tick =>
    cases h
    exact hs.congr rfl rfl rfl
  | press key =>
    obtain ⟨k, -, rfl⟩ := pressInt_eq_ok_iff.1 h
    exact ⟨hs.pc_le, hs.stack, .inr ⟨k, rfl⟩⟩
  | release =>
    cases h
    exact ⟨hs.pc_le, hs.stack, .inl rfl⟩
  | load rom => exact hs.load h

theorem InBounds.operateAll {ops : List Operation} (hs : s.InBounds)
    (h : s.operateAll ops = .ok t) : t.InBounds := by
  induction ops generalizing s with
  | nil =>
    cases h
    exact hs
  | cons o ops ih =>
    rw [Machine.operateAll, List.foldlM_cons] at h
    obtain ⟨u, hu, ht⟩ := bind_eq_ok.1 h
    exact ih (hs.operate hu) ht

/-- A cycle that an operation starts, starts within the bounds. -/
theorem InBounds.startsCycle {o : Operation} (hs : s.InBounds) (h : s.StartsCycle t o) :
    t.InBounds := by
  cases o with
  | cycle => exact h ▸ hs
  | runCycles n =>
    obtain ⟨k, -, hrun⟩ := h
    exact hs.run hrun
  | runUntilFrame budget =>
    obtain ⟨k, -, hrun⟩ := h
    exact hs.clearFrame.run hrun
  | tick | press | release | load => exact h.elim

/-! ### Every machine that a host can bring about -/

/-- A host starts from a machine for a seed and puts a program in. After
any operations that succeed the program counter is at most `0x1002`, the
call stack is at most sixteen deep and holds addresses below zeros, and
the latch holds a key or `-1`.

So in every cycle that one more operation starts, the sums on the program
counter stay within sixteen bits: the step past the fetched word, a skip
behind the next one, and the step back of a wait for a key. A call fills
the slot at the depth of the stack, which is never past the last one, and
a return reads the slot below it, which is never before the first. -/
theorem operateAll_inBounds (seed : Int) (rom : Rom) (hseed : FitsSigned 64 seed)
    (hrom : rom.length ≤ Rom.maxSize) :
    ∃ s₀, (ofSeed seed >>= fun s => s.load rom) = .ok s₀ ∧
      ∀ (ops : List Operation) (s : Machine), s₀.operateAll ops = .ok s →
        s.pc.toNat ≤ 0x1002 ∧
        s.stack.depth ≤ 16 ∧
        (∀ i (h : i < 16), (i < s.stack.depth → s.stack.slots[i].toNat ≤ 0xFFF) ∧
          (s.stack.depth ≤ i → s.stack.slots[i] = 0)) ∧
        (s.key.code.toInt = -1 ∨ 0 ≤ s.key.code.toInt ∧ s.key.code.toInt ≤ 15) ∧
        ∀ (o : Operation) (t : Machine), s.StartsCycle t o →
          t.stepped.pc.toNat = t.pc.toNat + 2 ∧
          (t.stepped.pc + 2).toNat = t.stepped.pc.toNat + 2 ∧
          (t.stepped.pc - 2).toNat + 2 = t.stepped.pc.toNat ∧
          (∀ target u, t.current? = some (.call target) → t.cycle = .ok u →
            min t.stack.depth 15 = t.stack.depth ∧
            u.stack.slots[min t.stack.depth 15]?
              = some (UInt16.ofNat (t.stepped.pc.toNat % 4096))) ∧
          (∀ u, t.current? = some .ret → t.cycle = .ok u →
            max ((t.stack.depth : Int) - 1) 0 = (t.stack.depth : Int) - 1 ∧
            t.stack.slots[(max ((t.stack.depth : Int) - 1) 0).toNat]? = some u.pc) := by
  obtain ⟨s₀, hload, hstart⟩ := ofSeed_load hseed hrom
  refine ⟨s₀, hstart, fun ops s hops => ?_⟩
  have hs := ((inBounds_boot _).load hload).operateAll hops
  refine ⟨hs.pc_le, s.stack.depth_le, hs.slots, hs.key_code, fun o t ht => ?_⟩
  have hpc := (hs.startsCycle ht).pc_le
  have hstep : t.stepped.pc.toNat = t.pc.toNat + 2 := toNat_add_two (by omega)
  refine ⟨hstep, toNat_add_two (by omega), toNat_sub_two (by omega), ?_, ?_⟩
  · intro target u hcur hu
    obtain ⟨hd, hslots, -⟩ := CallStack.push_eq_ok (push_of_call hcur hu)
    have hmin : min t.stack.depth 15 = t.stack.depth := by omega
    rw [hmin, hslots, Vector.getElem?_set_self]
    exact ⟨rfl, rfl⟩
  · intro u hcur hu
    obtain ⟨hd, -, hdepth, hpc⟩ := CallStack.pop_eq_ok (pop_of_ret hcur hu)
    have hmax : max ((t.stack.depth : Int) - 1) 0 = (t.stack.depth : Int) - 1 := by omega
    have hslot : ((t.stack.depth : Int) - 1).toNat = u.stack.depth := by omega
    rw [hmax, hslot, Vector.getElem?_eq_getElem hd, hpc]
    exact ⟨rfl, rfl⟩

/-- The limit is reached: this program writes a skip into the last word of
memory and jumps there. -/
theorem operateAll_inBounds_skip :
    let rom : Rom := [0x60, 0x30, 0xAF, 0xFE, 0xF1, 0x55, 0x60, 0x00, 0x1F, 0xFE]
    FitsSigned 64 (-1) ∧ rom.length ≤ Rom.maxSize ∧
      ∃ s₀ s, (ofSeed (-1) >>= fun s => s.load rom) = .ok s₀ ∧
        s₀.operateAll [.runCycles 6] = .ok s ∧ s.pc.toNat = 0x1002 := by
  intro rom
  have hseed : FitsSigned 64 (-1) := by decide
  have hrom : rom.length ≤ Rom.maxSize := by decide
  have hcheck : ((ofSeed (-1) >>= fun s => s.load rom) >>= fun s₀ =>
      s₀.operateAll [.runCycles 6]).toOption.any (fun s => 0x1002 ≤ s.pc.toNat) = true := by
    decide +kernel
  obtain ⟨s, hs, hle⟩ := ok_of_any hcheck
  obtain ⟨s₀, hs₀, hs⟩ := bind_eq_ok.1 hs
  obtain ⟨s₁, hs₁, hall⟩ := operateAll_inBounds (-1) rom hseed hrom
  cases hs₀.symm.trans hs₁
  exact ⟨hseed, hrom, s₀, s, hs₀, hs, Nat.le_antisymm (hall _ s hs).1 (of_decide_eq_true hle)⟩

end Machine

end Chip8
