import Chip8.Proofs.Machine.Failures

/-!
# `Chip8.Proofs.Machine.Host`: the operations of a host

The operations of a host check the numbers that they are given and then
do what the machine does. Each lemma here takes one that succeeds apart
into the check and the operation of the machine. A word to carry out is
the exception: of that number only the low bits count (`executeInt_emod`).
-/

set_option autoImplicit false

namespace Chip8.Machine

variable {s t : Machine}

theorem ofSeed_eq_ok_iff {seed : Int} :
    ofSeed seed = .ok s ↔ FitsSigned 64 seed ∧ s = boot (.ofSeed seed) := by
  rw [ofSeed, RandomKey.ofSeed?]
  by_cases hseed : FitsSigned 64 seed
  · rw [if_pos hseed]
    exact ⟨fun h => ⟨hseed, (Except.ok.inj h).symm⟩, fun h => by rw [h.2]⟩
  · rw [if_neg hseed]
    exact ⟨nofun, fun h => absurd h.1 hseed⟩

/-- A program is put in exactly when it fits, and then only the memory
changes. -/
theorem load_eq_ok_iff {rom : Rom} :
    s.load rom = .ok t ↔
      rom.length ≤ Rom.maxSize ∧ t = { s with memory := s.memory.writeBlock Rom.start rom } := by
  rw [load, loadRom?]
  by_cases hrom : rom.length ≤ Rom.maxSize
  · rw [if_pos hrom]
    exact ⟨fun h => ⟨hrom, (Except.ok.inj h).symm⟩, fun h => by rw [h.2]⟩
  · rw [if_neg hrom]
    exact ⟨nofun, fun h => absurd h.1 hrom⟩

/-- A seed and a program that fit give a machine with the program in
it. -/
theorem ofSeed_load {seed : Int} {rom : Rom} (hseed : FitsSigned 64 seed)
    (hrom : rom.length ≤ Rom.maxSize) :
    ∃ s₀, (boot (.ofSeed seed)).load rom = .ok s₀ ∧
      (ofSeed seed >>= fun s => s.load rom) = .ok s₀ := by
  obtain ⟨s₀, hload⟩ : ∃ s₀, (boot (.ofSeed seed)).load rom = .ok s₀ :=
    ⟨_, load_eq_ok_iff.2 ⟨hrom, rfl⟩⟩
  exact ⟨s₀, hload, bind_eq_ok.2 ⟨_, ofSeed_eq_ok_iff.2 ⟨hseed, rfl⟩, hload⟩⟩

/-- A batch that can be counted. -/
theorem runCycles_of_lt {n : Int} (hn : n < signedBound 32) :
    s.runCycles n = ((Batch.start s).run n.toNat).result.mapError .fault := by
  have hpos := signedBound_pos 32
  rw [runCycles, if_pos (by omega)]

/-- A batch that cannot be counted is refused. -/
theorem runCycles_of_le {n : Int} (hn : signedBound 32 ≤ n) :
    s.runCycles n = .error (.tooWide n) := by
  rw [runCycles, if_neg (by omega)]

/-- A batch succeeds just if its cycles do. -/
theorem runCycles_eq_ok_iff {n : Int} :
    s.runCycles n = .ok t ↔ n < signedBound 32 ∧ s.run n.toNat = .ok t := by
  by_cases hn : n < signedBound 32
  · rw [runCycles_of_lt hn, mapError_eq_ok, and_iff_right hn, Batch.result_run_eq_ok_iff]
  · rw [runCycles_of_le (Int.not_lt.1 hn)]
    exact iff_of_false nofun fun h => hn h.1

/-- A batch with a cycle that fails reports the failure of the first such
cycle, or that of a check at a lower place. If no cycle comes after it, it
is the first. -/
theorem runCycles_of_cycle {n : Int} {k : Nat} {u : Machine} {f : Fault} (hn : n < signedBound 32)
    (hk : k < n.toNat) (hu : s.run k = .ok u) (hf : u.cycle = .error f) :
    ∃ first reported, ((Batch.start s).run n.toNat).FailedAt u first reported ∧
      first.fault = f ∧ s.runCycles n = .error (.fault reported.fault) ∧
      (n.toNat = k + 1 → reported = first) := by
  obtain ⟨first, reported, hfailed, hfault, hlast⟩ := Batch.failedAt_run hk hu hf
  refine ⟨first, reported, hfailed, hfault, ?_, hlast⟩
  rw [runCycles_of_lt hn, hfailed.result_eq]
  rfl

theorem executeInt_eq {w : Int} (h : FitsSigned 32 w) :
    s.executeInt w = (s.execute (.decode (.ofInt w))).mapError .fault := by
  rw [executeInt, if_pos h]

/-- A word is carried out as it is. -/
theorem executeInt_toNat (s : Machine) (w : Word) :
    s.executeInt w.toNat = (s.execute (.decode w)).mapError .fault := by
  have hfits : FitsSigned 32 w.toNat := by
    have := w.toNat_lt
    show -2147483648 ≤ (w.toNat : Int) ∧ (w.toNat : Int) < 2147483648
    omega
  rw [executeInt_eq hfits, Word.ofInt_toNat]

/-- Of an integer only the low sixteen bits are carried out. -/
theorem executeInt_emod {w : Int} (h : FitsSigned 32 w) :
    s.executeInt (w % 65536) = s.executeInt w := by
  rw [executeInt_eq h, ← Word.toNat_ofInt, executeInt_toNat]

theorem pressInt_eq_ok_iff {key : Int} :
    s.pressInt key = .ok t ↔ ∃ k, Key.ofInt? key = some k ∧ t = s.press k := by
  rw [pressInt]
  cases Key.ofInt? key with
  | none => simp
  | some k => simp [eq_comm]

end Chip8.Machine
