import Chip8.Machine.Host
import Chip8.Proofs.Machine.Replay

/-!
# `Chip8.Proofs.Machine.Failures`: batches and single cycles

A batch goes on when a check fails, and a host that asks for one cycle
after the other does not. As long as all goes well both reach the same
machine (`Batch.start_run_of_ok`). The first cycle that fails leaves a
failure in the batch, and what is kept stays kept (`Batch.prefix_run`). So
a batch fails just if one of its cycles does
(`Batch.result_run_eq_ok_iff`).

Which fault is reported is another matter. Once a check has failed the
batch carries out what a host with single cycles would never come to, and
checks may fail there that stand at a lower place in the cycle.
`Batch.FailedAt` says what is left: the failure of the first cycle that
fails is kept in front, and it is reported unless one at a lower place is.
A batch that ends with the cycle that fails reports the fault of this
cycle (`Batch.result_start_cycle`).
-/

set_option autoImplicit false

namespace Chip8

namespace Failure

variable {kept later : List Failure} {f g : Failure}

/-- A failure that is noted comes behind those that are kept, or is
dropped. -/
theorem prefix_note (kept : List Failure) (f : Failure) : kept <+: note kept f := by
  rw [note]
  split
  · exact List.prefix_rfl
  · exact List.prefix_append kept [f]

theorem report?_eq_none_iff : report? kept = none ↔ kept = [] := by
  cases kept with
  | nil => exact iff_of_true rfl rfl
  | cons f rest =>
    rw [report?]
    cases report? rest <;> simp

/-- Failures that come later are reported only if their check stands at a
lower place. -/
theorem report?_append (h : report? kept = some f) (later : List Failure) :
    ∃ g, report? (kept ++ later) = some g ∧ (g = f ∨ g.place < f.place) := by
  induction kept generalizing f with
  | nil => cases h
  | cons a rest ih =>
    rw [List.cons_append, report?]
    rw [report?] at h
    cases hrest : report? rest with
    | none =>
      rw [hrest] at h
      cases h
      rw [report?_eq_none_iff.1 hrest, List.nil_append]
      cases report? later with
      | none => exact ⟨a, rfl, .inl rfl⟩
      | some g =>
        refine ⟨_, rfl, ?_⟩
        by_cases hlt : g.place < a.place
        · rw [if_pos hlt]
          exact .inr hlt
        · rw [if_neg hlt]
          exact .inl rfl
    | some r =>
      obtain ⟨g, hg, hle⟩ := ih hrest
      rw [hrest] at h
      cases h
      refine ⟨_, by rw [hg], ?_⟩
      -- Of `a` and the rest, the one with the lower place counts, with what comes later or without.
      grind

end Failure

/-- The failure that the next cycle notes first, if a check fails in
it. -/
def Machine.failure? (s : Machine) : Option Failure := (Batch.start s).cycle.failures.head?

namespace Batch

variable {b : Batch} {s t : Machine} {i : Instruction} {f : Fault} {n : Nat}

/-! ### The parts of a cycle -/

theorem fetch_of_ok {w : Word} (h : b.machine.fetch = .ok (t, w)) :
    b.fetch = ({ b with machine := t }, w) := by
  simp only [fetch, h]

theorem fetch_of_error (h : b.machine.fetch = .error f) :
    b.fetch.1.failures = Failure.note b.failures ⟨0, f⟩ := by
  simp only [fetch, h]

theorem perform_of_ok (hexcess : b.excess = 0) (h : b.machine.perform i = .ok t) :
    b.perform i = { b with machine := t } := by
  rw [perform, if_neg (by omega)]
  simp only [h]

theorem perform_of_error (hexcess : b.excess = 0) (h : b.machine.perform i = .error f) :
    b.perform i =
      { machine := b.machine.performAnyway i
        excess := if f = .stackOverflow then b.excess + 1 else b.excess
        failures := Failure.note b.failures ⟨i.opcode + 1, f⟩ } := by
  rw [perform, if_neg (by omega)]
  simp only [h]

/-! ### What is kept -/

theorem prefix_fetch (b : Batch) : b.failures <+: b.fetch.1.failures := by
  rw [fetch]
  cases b.machine.fetch with
  | ok r => exact List.prefix_rfl
  | error f => exact Failure.prefix_note _ _

theorem prefix_perform (b : Batch) (i : Instruction) : b.failures <+: (b.perform i).failures := by
  rw [perform]
  split
  · exact List.prefix_rfl
  · cases b.machine.perform i with
    | ok s => exact List.prefix_rfl
    | error f => exact Failure.prefix_note _ _

/-- A cycle drops none of the failures that are kept. -/
theorem prefix_cycle (b : Batch) : b.failures <+: b.cycle.failures :=
  b.prefix_fetch.trans (b.fetch.1.prefix_perform _)

theorem prefix_run (b : Batch) (n : Nat) : b.failures <+: (b.run n).failures := by
  induction n generalizing b with
  | zero => exact List.prefix_rfl
  | succ n ih => exact b.prefix_cycle.trans (ih b.cycle)

theorem prefix_runToFrame (b : Batch) (count budget : Nat) :
    b.failures <+: (b.runToFrame count budget).1.failures := by
  induction budget generalizing b count with
  | zero => exact List.prefix_rfl
  | succ budget ih =>
    rw [runToFrame]
    split
    · exact List.prefix_rfl
    · exact b.prefix_cycle.trans (ih b.cycle _)

/-! ### A single cycle -/

/-- A cycle that does not fail does the same in a batch. -/
theorem cycle_of_ok (hexcess : b.excess = 0) (h : b.machine.cycle = .ok t) :
    b.cycle = { b with machine := t } := by
  obtain ⟨⟨u, w⟩, hfetch, hexec⟩ := bind_eq_ok.1 h
  obtain ⟨v, hperform, rfl⟩ := Machine.execute_eq_ok_iff.1 hexec
  have hperformed :
      ({ b with machine := u } : Batch).perform (.decode w) = { b with machine := v } :=
    perform_of_ok hexcess hperform
  rw [cycle, fetch_of_ok hfetch]
  show ({ b with machine := u } : Batch).execute (.decode w) = _
  rw [execute, hperformed]

theorem start_cycle_of_ok (h : s.cycle = .ok t) : (start s).cycle = start t := cycle_of_ok rfl h

/-- A cycle that fails leaves a failure in front, and the failure that is
reported is this one. -/
theorem failures_cycle_of_error (h : s.cycle = .error f) :
    ∃ first later, (start s).cycle.failures = first :: later ∧ first.fault = f ∧
      Failure.report? (first :: later) = some first := by
  have hkept : (start s).cycle.failures
      = ((start s).fetch.1.perform (.decode (start s).fetch.2)).failures := rfl
  rw [hkept]
  rcases bind_eq_error.1 h with hfetch | ⟨⟨u, w⟩, hfetch, hexec⟩
  · -- The word that is carried out nevertheless may fail too, but its place is behind the fetch.
    have hfirst : (start s).fetch.1.failures = [⟨0, f⟩] := fetch_of_error hfetch
    obtain ⟨later, hlater⟩ := (start s).fetch.1.prefix_perform (.decode (start s).fetch.2)
    rw [hfirst] at hlater
    have halone : Failure.report? [⟨0, f⟩] = some ⟨0, f⟩ := rfl
    obtain ⟨g, hg, rfl | hlt⟩ := Failure.report?_append halone later
    · exact ⟨_, later, hlater.symm, rfl, hg⟩
    · exact absurd hlt (Nat.not_lt_zero _)
  · have hfetched : (start s).fetch = (start u, w) := fetch_of_ok hfetch
    rw [hfetched, perform_of_error rfl (Machine.execute_eq_error_iff.1 hexec)]
    exact ⟨_, [], rfl, rfl, rfl⟩

/-- A batch of one cycle comes to what the cycle comes to. -/
theorem result_start_cycle (s : Machine) : (start s).cycle.result = s.cycle := by
  cases h : s.cycle with
  | ok t =>
    rw [start_cycle_of_ok h]
    rfl
  | error f =>
    obtain ⟨first, later, hkept, rfl, hreport⟩ := failures_cycle_of_error h
    rw [result, hkept, hreport]

/-! ### A batch that fails -/

/-- A batch that the failing cycle of the machine `t` was part of, after
cycles that did not fail. -/
structure FailedAt (b : Batch) (t : Machine) (first reported : Failure) : Prop where
  /-- The failure of the cycle. -/
  failure_eq : t.failure? = some first
  /-- It is kept in front of those that came later. -/
  head_eq : b.failures.head? = some first
  /-- One of the failures that are kept is reported. -/
  report_eq : Failure.report? b.failures = some reported
  /-- It is the first, or its check stands at a lower place. -/
  reported_cases : reported = first ∨ reported.place < first.place

theorem FailedAt.result_eq {first reported : Failure} (h : b.FailedAt t first reported) :
    b.result = .error reported.fault := by
  rw [result, h.report_eq]

/-- The cycle that failed, and whatever came after it. -/
theorem failedAt_of_prefix (h : t.cycle = .error f)
    (hkept : (start t).cycle.failures <+: b.failures) :
    ∃ first reported, b.FailedAt t first reported ∧ first.fault = f := by
  -- What the cycle has left is kept in front, and within it its first failure counts.
  obtain ⟨first, later, hcycle, rfl, hreport⟩ := failures_cycle_of_error h
  obtain ⟨more, hmore⟩ := hkept
  rw [hcycle] at hmore
  obtain ⟨reported, hreported, hcases⟩ := Failure.report?_append hreport more
  refine ⟨first, reported, ⟨?_, ?_, hmore ▸ hreported, hcases⟩, rfl⟩
  · rw [Machine.failure?, hcycle]
    rfl
  · rw [← hmore]
    rfl

/-- If the failing cycle is the last one, its failure is reported. -/
theorem FailedAt.reported_eq_of_cycle {first reported : Failure} (hf : t.cycle = .error f)
    (h : (start t).cycle.FailedAt t first reported) : reported = first := by
  obtain ⟨only, later, hcycle, -, hreport⟩ := failures_cycle_of_error hf
  have hhead := h.head_eq
  have hreported := h.report_eq
  rw [hcycle] at hhead hreported
  cases hhead
  exact Option.some.inj (hreported.symm.trans hreport)

/-! ### A number of cycles -/

theorem run_add (b : Batch) (m n : Nat) : b.run (m + n) = (b.run m).run n := by
  induction m generalizing b with
  | zero => rw [Nat.zero_add]; rfl
  | succ m ih =>
    rw [Nat.succ_add]
    exact ih b.cycle

/-- Cycles that do not fail do the same in a batch. -/
theorem run_of_ok (hexcess : b.excess = 0) (h : b.machine.run n = .ok t) :
    b.run n = { b with machine := t } := by
  induction n generalizing b with
  | zero =>
    cases h
    rfl
  | succ n ih =>
    -- A cycle that does not fail adds no call in excess, so the next one finds none either.
    obtain ⟨u, hu, ht⟩ := bind_eq_ok.1 h
    rw [run, cycle_of_ok hexcess hu]
    exact ih hexcess ht

theorem start_run_of_ok (h : s.run n = .ok t) : (start s).run n = start t := run_of_ok rfl h

/-- A batch goes on from the cycle that comes after the first `k`, whether
it fails or not. -/
theorem start_run_of_lt {k : Nat} (hk : k < n) (h : s.run k = .ok t) :
    (start s).run n = (start t).cycle.run (n - (k + 1)) := by
  have hcut : k + (1 + (n - (k + 1))) = n := by omega
  have hrun : (start s).run (k + (1 + (n - (k + 1)))) = (start t).cycle.run (n - (k + 1)) := by
    rw [run_add, run_add, start_run_of_ok h]
    rfl
  rwa [hcut] at hrun

/-- The first cycle of a batch that fails. -/
theorem failedAt_run {k : Nat} (hk : k < n) (h : s.run k = .ok t) (hf : t.cycle = .error f) :
    ∃ first reported, ((start s).run n).FailedAt t first reported ∧ first.fault = f ∧
      (n = k + 1 → reported = first) := by
  have hrun := start_run_of_lt hk h
  obtain ⟨first, reported, hfailed, hfault⟩ :=
    failedAt_of_prefix hf (hrun ▸ (start t).cycle.prefix_run (n - (k + 1)))
  refine ⟨first, reported, hfailed, hfault, fun hlast => ?_⟩
  rw [hrun, hlast, Nat.sub_self] at hfailed
  exact FailedAt.reported_eq_of_cycle hf hfailed

/-- A batch succeeds just if its cycles do. -/
theorem result_run_eq_ok_iff : ((start s).run n).result = .ok t ↔ s.run n = .ok t := by
  cases h : s.run n with
  | ok u =>
    rw [start_run_of_ok h]
    rfl
  | error f =>
    -- Among the cycles up to a failure there is a first one that fails.
    obtain ⟨k, hk, u, hu, hf⟩ := Machine.run_eq_error_iff.1 h
    obtain ⟨first, reported, hfailed, -⟩ := failedAt_run hk hu hf
    rw [hfailed.result_eq]
    exact iff_of_false nofun nofun

end Batch

end Chip8
