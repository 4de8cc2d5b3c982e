import Chip8.Proofs.Machine.Batch
import Chip8.Proofs.Machine.Reads
import Mathlib.Data.List.Forall2

/-!
# `Chip8.Proofs.Machine.Interleaving`: the order of cycles and host acts

An act of the host reaches the machine through a device: the timers or
the keypad. Few instructions use them, and the others neither notice such
an act nor undo it. So it does not matter when the act falls among
instructions that do not use its device.

`perform_enact` says so for one instruction and `cycle_enact` for one
cycle. `replay_enact` takes an act from one end of a run to the other,
past cycles and past acts on the other device.

A batch goes on behind a check that fails, and `Batch.run_enact` takes an
act past all the instructions that it goes through.

The main statement is `runCycles_replay_interleaved`. Its first parts are
about an act before or after a batch of cycles. Its last part is about
any two sequences of events with the same cycles and the same acts on
each device, in which the places of the acts differ only by instructions
that do not use the device (`Machine.Rearranged`).
-/

set_option autoImplicit false

namespace Chip8

/-- What is in the one list has a counterpart in the other. -/
theorem exists_mem_of_forall₂ {α β : Type} {R : α → β → Prop} {l : List α} {l' : List β} {a : α}
    (h : List.Forall₂ R l l') (ha : a ∈ l) : ∃ b ∈ l', R a b := by
  induction h with
  | nil => cases ha
  | cons hab _ ih =>
    obtain rfl | ha := List.mem_cons.1 ha
    · exact ⟨_, List.mem_cons_self, hab⟩
    · obtain ⟨b, hb, hR⟩ := ih ha
      exact ⟨b, List.mem_cons_of_mem _ hb, hR⟩

/-! ### Devices -/

/-- The ways in which a host reaches a machine that runs. -/
inductive Device where
  /-- The two timers. -/
  | timers
  /-- The latch of the keypad. -/
  | keypad
deriving DecidableEq

/-- Whether an instruction looks at a device or sets it. -/
def Instruction.uses : Device → Instruction → Bool
  | .timers, getDelay _ | .timers, setDelay _ | .timers, setSound _ => true
  | .keypad, skipKey _ | .keypad, skipNoKey _ | .keypad, waitKey _ => true
  | _, _ => false

namespace Machine

/-- The device that an act of the host goes to, none for a cycle. -/
def Event.device? : Event → Option Device
  | .cycle => none
  | .tick => some .timers
  | .press _ | .release => some .keypad

/-- What an act of the host makes of the machine. -/
def enact (s : Machine) : Event → Machine
  | .cycle => s
  | .tick => s.tick
  | .press k => s.press k
  | .release => s.release

variable {s t u : Machine} {i : Instruction} {e e' : Event} {d : Device} {es fs : List Event}

/-- An event is a cycle or an act on a device. -/
theorem Event.cycle_or_act (e : Event) : e = .cycle ∨ ∃ d, e.device? = some d := by
  cases e with
  | cycle => exact .inl rfl
  | _ => exact .inr ⟨_, rfl⟩

/-- What comes before the first cycle are acts. -/
theorem device_of_no_cycle (h : .cycle ∉ e :: es) :
    (∃ d, e.device? = some d) ∧ .cycle ∉ es := by
  obtain ⟨hne, hes⟩ := not_or.1 (mt List.mem_cons.2 h)
  exact ⟨e.cycle_or_act.resolve_left (Ne.symm hne), hes⟩

/-- Acts do not count as cycles. -/
theorem count_act (he : e.device? = some d) (es : List Event) :
    (e :: es).count .cycle = es.count .cycle :=
  List.count_cons_of_ne (by rintro rfl; cases he)

/-- An act of the host does not fail. -/
theorem apply_of_device (he : e.device? = some d) : s.apply e = .ok (s.enact e) := by
  cases e with
  | cycle => cases he
  | _ => rfl

/-- No act of the host has an influence on what is fetched. -/
theorem current?_enact (s : Machine) (e : Event) : (s.enact e).current? = s.current? := by
  rw [current?_eq, current?_eq]
  cases e <;> rfl

/-- Acts on different devices do not get in each other's way. -/
theorem enact_comm (he : e.device? = some d) (he' : e'.device? ≠ some d) :
    (s.enact e).enact e' = (s.enact e').enact e := by
  cases e <;> cases e' <;> cases he <;> first | rfl | exact absurd rfl he'

/-! ### An act and a cycle -/

/-- An instruction that does not use the timers neither looks at them nor
sets them. -/
theorem timers_of_uses (hi : i.uses .timers = false) :
    i.reads.delay = false ∧ i.footprint.delay = false ∧ i.footprint.sound = false := by
  cases i <;> first | exact ⟨rfl, rfl, rfl⟩ | cases hi

theorem key_of_uses (hi : i.uses .keypad = false) : i.reads.key = false := by
  cases i <;> first | rfl | cases hi

/-- An instruction that does not use a device does the same before and
after an act on it, and so does the act. -/
theorem perform_enact (he : e.device? = some d) (hi : i.uses d = false) :
    (s.enact e).perform i = (s.perform i).map (·.enact e) := by
  have hagree : s.Agrees (s.enact e) i.reads := by
    cases e with
    | cycle => exact s.agrees_refl _
    | tick =>
      cases he
      have hdelay : i.reads.delay ≠ true := by simp [timers_of_uses hi]
      exact ⟨rfl, rfl, rfl, rfl, rfl, fun _ _ => rfl, fun h => absurd h hdelay, fun _ => rfl,
        fun _ => rfl⟩
    | press | release =>
      cases he
      have hkey : i.reads.key ≠ true := by simp [key_of_uses hi]
      exact ⟨rfl, rfl, rfl, rfl, rfl, fun _ _ => rfl, fun _ => rfl, fun h => absurd h hkey,
        fun _ => rfl⟩
  rw [perform_of_agrees hagree]
  cases hs : s.perform i with
  | error f => rfl
  | ok u =>
    -- What the instruction writes and what the act changes are different parts.
    refine congrArg Except.ok ?_
    show u.onto (s.enact e) i.footprint (s.stored i) = u.enact e
    conv_rhs => rw [← onto_self hs]
    cases e with
    | cycle => rfl
    | tick =>
      cases he
      obtain ⟨-, hdelay, hsound⟩ := timers_of_uses hi
      simp [onto, enact, tick, hdelay, hsound]
    | press | release => rfl

/-- So does a cycle whose instruction does not use the device. -/
theorem cycle_enact (he : e.device? = some d)
    (hquiet : ∀ i, s.current? = some i → i.uses d = false) :
    (s.enact e).cycle = s.cycle.map (·.enact e) := by
  by_cases hpc : s.pc.toNat + 1 < Memory.size
  · have hcur : s.current? = some (.decode s.word) := current?_eq_some_iff.2 ⟨hpc, rfl⟩
    have hstepped : (s.enact e).stepped = s.stepped.enact e := by
      cases e <;> rfl
    rw [cycle_of_current? hcur, cycle_of_current? ((s.current?_enact e).trans hcur), hstepped,
      execute, execute, perform_enact he (hquiet _ hcur)]
    cases s.stepped.perform (.decode s.word) with
    | error f => rfl
    | ok u => cases e <;> rfl
  · have hend : Memory.size ≤ s.pc.toNat + 1 := Nat.not_lt.1 hpc
    rw [cycle_of_le hend]
    cases e <;> exact cycle_of_le hend

/-! ### The instructions of a run -/

/-- The instructions that the cycles of a run come to, the one that fails
included. -/
def instructions (s : Machine) : List Event → List Instruction
  | [] => []
  | e :: es =>
    (if e = .cycle then s.current?.toList else []) ++
      match s.apply e with
      | .ok t => t.instructions es
      | .error _ => []

theorem instructions_cycle (s : Machine) (es : List Event) :
    s.instructions (.cycle :: es) = s.current?.toList ++
      match s.cycle with
      | .ok t => t.instructions es
      | .error _ => [] := rfl

theorem instructions_act (he : e.device? = some d) (s : Machine) (es : List Event) :
    s.instructions (e :: es) = (s.enact e).instructions es := by
  cases e with
  | cycle => cases he
  | _ => rfl

theorem replay_act (he : e.device? = some d) (s : Machine) (es : List Event) :
    s.replay (e :: es) = (s.enact e).replay es := by
  rw [replay_cons, apply_of_device he]
  rfl

theorem instructions_append (s : Machine) (es fs : List Event) :
    s.instructions (es ++ fs) = s.instructions es ++
      match s.replay es with
      | .ok t => t.instructions fs
      | .error _ => [] := by
  induction es generalizing s with
  | nil => rfl
  | cons e es ih =>
    rw [List.cons_append, instructions, instructions, replay_cons, List.append_assoc]
    cases s.apply e with
    | error f => rfl
    | ok t => exact congrArg _ (ih t)

theorem current?_of_mem_instructions (h : i ∈ s.instructions [.cycle]) : s.current? = some i := by
  rw [instructions_cycle] at h
  cases hs : s.cycle <;> simpa [hs, instructions] using h

/-- A cycle comes to one instruction, or the run has failed before. -/
theorem length_instructions_le (s : Machine) (es : List Event) :
    (s.instructions es).length ≤ es.count .cycle := by
  induction es generalizing s with
  | nil => exact Nat.le_refl 0
  | cons e es ih =>
    obtain rfl | ⟨d, he⟩ := e.cycle_or_act
    · have hone : s.current?.toList.length ≤ 1 := Option.length_toList_le
      rw [instructions_cycle, List.length_append, List.count_cons_self]
      cases s.cycle with
      | error f => exact Nat.le_trans hone (Nat.le_add_left 1 _)
      | ok t => exact Nat.add_comm _ 1 ▸ Nat.add_le_add hone (ih t)
    · rw [instructions_act he]
      exact Nat.le_trans (ih _) List.count_le_count_cons

/-- The first cycle comes to the instruction that lies at the program
counter from the start. -/
theorem getElem?_instructions (hi : s.current? = some i) (hfirst : .cycle ∉ es) (fs : List Event) :
    (s.instructions (es ++ .cycle :: fs))[0]? = some i := by
  induction es generalizing s with
  | nil =>
    rw [List.nil_append, instructions_cycle, hi]
    rfl
  | cons e es ih =>
    obtain ⟨⟨d, hd⟩, hes⟩ := device_of_no_cycle hfirst
    rw [List.cons_append, instructions_act hd]
    exact ih ((s.current?_enact e).trans hi) hes

/-- An act on a device may come before a run or after it, if the run has
no other acts on the device and comes to no instructions that use it. -/
theorem replay_enact (he : e.device? = some d) (hacts : ∀ a ∈ es, a.device? ≠ some d)
    (hquiet : ∀ i ∈ s.instructions es, i.uses d = false) :
    (s.enact e).replay es = (s.replay es).map (·.enact e) ∧
      (s.enact e).instructions es = s.instructions es := by
  induction es generalizing s with
  | nil => exact ⟨rfl, rfl⟩
  | cons a es ih =>
    have hacts' : ∀ b ∈ es, b.device? ≠ some d := fun b hb => hacts b (List.mem_cons_of_mem a hb)
    obtain rfl | ⟨d', ha⟩ := a.cycle_or_act
    · have hcycle : (s.enact e).cycle = s.cycle.map (·.enact e) :=
        cycle_enact he fun i hi => hquiet i (by simp [instructions_cycle, hi])
      rw [instructions_cycle, instructions_cycle, current?_enact, replay_cons, replay_cons]
      show ((s.enact e).cycle >>= _) = ((s.cycle >>= _).map _) ∧ _
      rw [hcycle]
      cases hs : s.cycle with
      | error f => exact ⟨rfl, rfl⟩
      | ok t =>
        obtain ⟨hreplay, hinstr⟩ := ih (s := t) hacts' fun i hi =>
          hquiet i (by simp [instructions_cycle, hs, hi])
        exact ⟨hreplay, congrArg _ hinstr⟩
    · rw [replay_act ha, replay_act ha, instructions_act ha, instructions_act ha,
        enact_comm he (hacts a List.mem_cons_self)]
      exact ih hacts' (instructions_act ha s es ▸ hquiet)

/-- Such an act may also be moved to the front of a longer run. -/
theorem replay_act_first (he : e.device? = some d) (hacts : ∀ a ∈ es, a.device? ≠ some d)
    (hquiet : ∀ i ∈ s.instructions es, i.uses d = false) (fs : List Event) :
    s.replay (es ++ e :: fs) = (s.enact e).replay (es ++ fs) ∧
      s.instructions (es ++ e :: fs) = (s.enact e).instructions (es ++ fs) := by
  obtain ⟨hreplay, hinstr⟩ := replay_enact he hacts hquiet
  rw [replay_append, replay_append, instructions_append, instructions_append, hreplay, hinstr]
  cases s.replay es with
  | error f => exact ⟨rfl, rfl⟩
  | ok t => exact ⟨replay_act he t fs, congrArg _ (instructions_act he t fs)⟩

/-- A cycle may be moved to the front of a run, past acts on devices that
its instruction does not use. -/
theorem replay_cycle_first
    (hacts : ∀ a ∈ es, ∃ d, a.device? = some d ∧ ∀ i, s.current? = some i → i.uses d = false)
    (fs : List Event) :
    s.replay (es ++ .cycle :: fs) = s.replay (.cycle :: (es ++ fs)) ∧
      s.instructions (es ++ .cycle :: fs) = s.instructions (.cycle :: (es ++ fs)) := by
  induction es generalizing s with
  | nil => exact ⟨rfl, rfl⟩
  | cons a es ih =>
    obtain ⟨d, ha, hquiet⟩ := hacts a List.mem_cons_self
    obtain ⟨hreplay, hinstr⟩ := ih (s := s.enact a) fun b hb =>
      s.current?_enact a ▸ hacts b (List.mem_cons_of_mem a hb)
    -- The cycle has come to the act; the two are exchanged.
    obtain ⟨hreplay', hinstr'⟩ :
        s.replay ([.cycle] ++ a :: (es ++ fs)) = (s.enact a).replay ([.cycle] ++ (es ++ fs)) ∧
          s.instructions ([.cycle] ++ a :: (es ++ fs))
            = (s.enact a).instructions ([.cycle] ++ (es ++ fs)) :=
      replay_act_first ha (by simp [Event.device?])
        (fun i hi => hquiet i (current?_of_mem_instructions hi)) (es ++ fs)
    rw [List.cons_append, replay_act ha, instructions_act ha, hreplay, hinstr]
    exact ⟨hreplay'.symm, hinstr'.symm⟩

/-! ### An act and a batch -/

theorem beside_enact (e : Event) : Beside fun s => s.enact e := by
  cases e <;> exact ⟨fun _ => rfl, fun _ => rfl, fun _ => rfl, fun _ _ => rfl⟩

/-- What is done after a check has failed does not use a device. -/
theorem performAnyway_enact (s : Machine) (e : Event) (i : Instruction) :
    (s.enact e).performAnyway i = (s.performAnyway i).enact e := by
  cases e <;> cases i <;> rfl

end Machine

namespace Batch

open Machine

variable {b : Batch} {e : Event} {d : Device}

/-- The instructions that the next cycles carry out, those that fail and
those behind them included. -/
def instructions (b : Batch) : Nat → List Instruction
  | 0 => []
  | n + 1 => b.next :: b.cycle.instructions n

/-- A cycle of a batch does not notice an act on a device that its
instruction does not use. -/
theorem cycle_enact (he : e.device? = some d) (hquiet : b.next.uses d = false) :
    (b.modify (·.enact e)).cycle = b.cycle.modify (·.enact e) := by
  refine cycle_modify (beside_enact e) ?_ ?_
  · intro s ready
    cases e <;> rfl
  · exact perform_modify (beside_enact e) (perform_enact he hquiet)
      (fun _ _ => performAnyway_enact _ e _) fun _ => rfl

/-- Nor does a batch of many cycles, whether they fail or not. -/
theorem run_enact {n : Nat} (he : e.device? = some d)
    (hquiet : ∀ i ∈ b.instructions n, i.uses d = false) :
    (b.modify (·.enact e)).run n = (b.run n).modify (·.enact e) := by
  induction n generalizing b with
  | zero => rfl
  | succ n ih =>
    obtain ⟨hfirst, hrest⟩ := List.forall_mem_cons.1 hquiet
    rw [run, cycle_enact he hfirst]
    exact ih hrest

end Batch

namespace Machine

variable {s t u : Machine} {i : Instruction} {e e' : Event} {d : Device} {es fs : List Event}

/-! ### The places of acts -/

/-- The acts on a device in a sequence of events, each with the number of
cycles before it. -/
def placed (d : Device) : List Event → List (Event × Nat)
  | [] => []
  | e :: es =>
    match e.device? with
    | none => (placed d es).map fun p => (p.1, p.2 + 1)
    | some d' => if d' = d then (e, 0) :: placed d es else placed d es

theorem placed_act (he : e.device? = some d) (es : List Event) :
    placed d (e :: es) = (e, 0) :: placed d es := by
  rw [placed, he]
  exact if_pos rfl

theorem placed_other {d' : Device} (he : e.device? = some d') (hne : d' ≠ d) (es : List Event) :
    placed d (e :: es) = placed d es := by
  rw [placed, he]
  exact if_neg hne

/-- Acts on one device have no influence on the places of the others. -/
theorem placed_erase_other {d' : Device} (he : e.device? = some d') (hne : d' ≠ d)
    (es fs : List Event) : placed d (es ++ e :: fs) = placed d (es ++ fs) := by
  induction es with
  | nil => exact placed_other he hne fs
  | cons a es ih => rw [List.cons_append, List.cons_append, placed, placed, ih]

/-- The first act on a device, and what is left when it is taken out. -/
theorem exists_of_placed {p : Event × Nat} {l : List (Event × Nat)} (h : placed d es = p :: l) :
    ∃ as bs, es = as ++ p.1 :: bs ∧ (∀ a ∈ as, a.device? ≠ some d) ∧ as.count .cycle = p.2 ∧
      placed d (as ++ bs) = l := by
  induction es generalizing p l with
  | nil => cases h
  | cons e es ih =>
    obtain rfl | ⟨d', he⟩ := e.cycle_or_act
    · obtain ⟨q, l, hes, rfl, rfl⟩ := List.map_eq_cons_iff.1 h
      obtain ⟨as, bs, rfl, hacts, hcount, hrest⟩ := ih hes
      refine ⟨.cycle :: as, bs, rfl, ?_, ?_, ?_⟩
      · exact List.forall_mem_cons.2 ⟨nofun, hacts⟩
      · rw [List.count_cons_self, hcount]
      · exact congrArg _ hrest
    · by_cases hd : d' = d
      · subst hd
        rw [placed_act he] at h
        cases h
        exact ⟨[], es, rfl, nofun, rfl, rfl⟩
      · rw [placed_other he hd] at h
        obtain ⟨as, bs, rfl, hacts, hcount, hrest⟩ := ih h
        refine ⟨e :: as, bs, rfl, ?_, ?_, ?_⟩
        · exact List.forall_mem_cons.2 ⟨fun ha => hd (Option.some.inj (he.symm.trans ha)), hacts⟩
        · rw [count_act he, hcount]
        · exact (placed_other he hd _).trans hrest

/-- The acts before the first cycle have no cycle before them. -/
theorem placed_of_no_cycle (hfirst : .cycle ∉ es) (fs : List Event) :
    placed d (es ++ fs) = (es.filter (·.device? = some d)).map (·, 0) ++ placed d fs := by
  induction es with
  | nil => rfl
  | cons e es ih =>
    obtain ⟨⟨d', hd'⟩, hes⟩ := device_of_no_cycle hfirst
    rw [List.cons_append]
    by_cases hd : d' = d
    · subst hd
      rw [placed_act hd', ih hes, List.filter_cons_of_pos (by simpa using hd')]
      rfl
    · rw [placed_other hd' hd, ih hes, List.filter_cons_of_neg (by simpa [hd'] using hd)]

/-- Without the first cycle, the acts behind it have one cycle less before
them. -/
theorem placed_erase_cycle (hfirst : .cycle ∉ es) (fs : List Event) :
    placed d (es ++ fs) = (placed d (es ++ .cycle :: fs)).map fun p => (p.1, p.2 - 1) := by
  rw [placed_of_no_cycle hfirst, placed_of_no_cycle hfirst, placed, Event.device?]
  simp only [List.map_append, List.map_map]
  exact congrArg₂ _ rfl (List.map_id _).symm

/-- Two places of one act: no instruction between them, of those that a
run comes to, uses the device. -/
structure Moved (d : Device) (run : List Instruction) (p q : Event × Nat) : Prop where
  act : p.1 = q.1
  quiet : ∀ k i, min p.2 q.2 ≤ k → k < max p.2 q.2 → run[k]? = some i → i.uses d = false

theorem Moved.tail {run : List Instruction} {p q : Event × Nat} (h : Moved d (i :: run) p q) :
    Moved d run (p.1, p.2 - 1) (q.1, q.2 - 1) where
  act := h.act
  quiet k j hmin hmax hj := h.quiet (k + 1) j (by omega) (by omega) hj

/-- The events `fs` are the cycles and acts of `es`. The acts on each
device come in the same order, but not at the same places; none has
passed an instruction that uses its device. -/
structure Rearranged (s : Machine) (es fs : List Event) : Prop where
  cycles : es.count .cycle = fs.count .cycle
  acts : ∀ d, List.Forall₂ (Moved d (s.instructions es)) (placed d es) (placed d fs)

theorem eq_nil_of_rearranged (h : s.Rearranged es []) : es = [] := by
  cases es with
  | nil => rfl
  | cons e es =>
    obtain rfl | ⟨d, he⟩ := e.cycle_or_act
    · have hcount := h.cycles
      rw [List.count_cons_self] at hcount
      cases hcount
    · have hacts := h.acts d
      rw [placed_act he] at hacts
      cases hacts

/-- If the other sequence starts with a cycle, the acts that come before
the first cycle may be moved behind it. -/
theorem quiet_of_rearranged (hfirst : .cycle ∉ es) {es' : List Event}
    (h : s.Rearranged (es ++ .cycle :: es') (.cycle :: fs)) :
    ∀ a ∈ es, ∃ d, a.device? = some d ∧ ∀ i, s.current? = some i → i.uses d = false := by
  intro a ha
  obtain ⟨d, hd⟩ := a.cycle_or_act.resolve_left fun hcycle => hfirst (hcycle ▸ ha)
  refine ⟨d, hd, fun i hi => ?_⟩
  have hmem : (a, 0) ∈ placed d (es ++ .cycle :: es') := by
    rw [placed_of_no_cycle hfirst]
    exact List.mem_append_left _ (List.mem_map_of_mem (List.mem_filter.2 ⟨ha, by simpa using hd⟩))
  -- In the other sequence the same act has the first cycle before it.
  obtain ⟨q, hq, hmoved⟩ := exists_mem_of_forall₂ (h.acts d) hmem
  obtain ⟨p, -, rfl⟩ := List.mem_map.1 hq
  refine hmoved.quiet 0 i (by simp) (by simp) ?_
  exact getElem?_instructions hi hfirst es'

/-- Sequences of events that are rearranged in this way lead to the same
machine, or to the same fault. -/
theorem replay_of_rearranged (h : s.Rearranged es fs) : s.replay es = s.replay fs := by
  -- The first event of `fs` is moved to the front of `es`, where both runs can take it.
  induction fs generalizing s es with
  | nil => rw [eq_nil_of_rearranged h]
  | cons f fs ih =>
    obtain rfl | ⟨d, hf⟩ := f.cycle_or_act
    · have hmem : .cycle ∈ es := List.count_pos_iff.1 (by simp [h.cycles])
      obtain ⟨as, bs, rfl, hfirst⟩ := List.eq_append_cons_of_mem hmem
      obtain ⟨hreplay, hinstr⟩ := replay_cycle_first (quiet_of_rearranged hfirst h) bs
      rw [hreplay, replay_cons, replay_cons]
      show s.cycle >>= _ = s.cycle >>= _
      cases hs : s.cycle with
      | error f => rfl
      | ok t =>
        obtain ⟨i, hi, -⟩ := current?_of_cycle hs
        refine ih ⟨?_, fun d => ?_⟩
        · have hcount := h.cycles
          simp only [List.count_append, List.count_cons_self] at hcount ⊢
          omega
        · have hacts := h.acts d
          rw [hinstr, instructions_cycle, hi, hs] at hacts
          rw [placed_erase_cycle hfirst, ← List.nil_append fs,
            placed_erase_cycle (List.not_mem_nil), List.forall₂_map_left_iff,
            List.forall₂_map_right_iff]
          exact hacts.imp fun p q => Moved.tail
    · obtain ⟨p, l, hmoved, hrest, hes⟩ :=
        List.forall₂_cons_right_iff.1 (placed_act hf fs ▸ h.acts d)
      obtain ⟨as, bs, rfl, hacts, hcount, rfl⟩ := exists_of_placed hes
      obtain rfl : p.1 = f := hmoved.act
      have hquiet : ∀ i ∈ s.instructions as, i.uses d = false := by
        intro i hi
        obtain ⟨k, hk, hik⟩ := List.getElem_of_mem hi
        have hle := s.length_instructions_le as
        refine hmoved.quiet k i (by simp) (by simp; omega) ?_
        rw [instructions_append, List.getElem?_append_left hk, List.getElem?_eq_getElem hk, hik]
      obtain ⟨hreplay, hinstr⟩ := replay_act_first hf hacts hquiet bs
      rw [hreplay, replay_act hf]
      refine ih ⟨?_, fun d' => ?_⟩
      · have hcount := h.cycles
        rw [count_act hf, List.count_append, count_act hf] at hcount
        rw [List.count_append, hcount]
      · rw [← hinstr]
        by_cases hd : d = d'
        · subst hd
          exact hrest
        · have hacts := h.acts d'
          rwa [placed_erase_other hf hd, placed_other hf hd] at hacts

/-! ### The laws -/

/-- The instructions that a batch of `n` cycles goes through, those after
the first failure included. A batch that cannot be counted goes through
none. -/
def batch (s : Machine) (n : Int) : List Instruction :=
  if n < signedBound 32 then (Batch.start s).instructions n.toNat else []

/-- An act on a device may come before a batch or after it, if the batch
goes through no instructions that use the device. -/
theorem runCycles_enact {n : Int} (he : e.device? = some d)
    (hquiet : ∀ i ∈ s.batch n, i.uses d = false) :
    (s.runCycles n).map (·.enact e) = (s.enact e).runCycles n := by
  by_cases hn : n < signedBound 32
  · rw [batch, if_pos hn] at hquiet
    have hrun : (Batch.start (s.enact e)).run n.toNat
        = ((Batch.start s).run n.toNat).modify (·.enact e) := Batch.run_enact he hquiet
    rw [runCycles_of_lt hn, runCycles_of_lt hn, hrun, Batch.result_modify]
    cases ((Batch.start s).run n.toNat).result <;> rfl
  · have hwide : (signedBound 32 : Int) ≤ n := Int.not_lt.1 hn
    rw [runCycles_of_le hwide, runCycles_of_le hwide]
    rfl

/-- Which machine a batch leads to, if it leads to one. -/
theorem toOption_runCycles (s : Machine) (n : Int) :
    (s.runCycles n).toOption = if n < signedBound 32 then (s.run n.toNat).toOption else none := by
  refine Option.ext fun t => ?_
  rw [toOption_eq_some_iff, runCycles_eq_ok_iff]
  split
  · rename_i hn
    rw [and_iff_right hn, toOption_eq_some_iff]
  · rename_i hn
    exact iff_of_false (fun h => hn h.1) nofun

/-- Up to the fault that is reported it is enough to know of the
instructions up to the first failure. -/
theorem runCycles_enact_toOption {n : Int} (he : e.device? = some d)
    (hquiet : ∀ i ∈ s.instructions (.replicate n.toNat .cycle), i.uses d = false) :
    ((s.runCycles n).map (·.enact e)).toOption = ((s.enact e).runCycles n).toOption := by
  have hacts : ∀ a ∈ List.replicate n.toNat Event.cycle, a.device? ≠ some d := by
    intro a ha
    rw [List.eq_of_mem_replicate ha]
    exact nofun
  obtain ⟨hrun, -⟩ := replay_enact he hacts hquiet
  rw [replay_replicate_cycle, replay_replicate_cycle] at hrun
  rw [toOption_map, toOption_runCycles, toOption_runCycles, hrun, toOption_map]
  split <;> rfl

/-- The timers may count down before or after a batch of cycles, if none
of the instructions that it goes through looks at a timer or sets one; and
a key may be pressed, or the key released, before or after a batch without
instructions that look at the latch. Either way the same machine is
reached, or the batch fails with the same error.

A batch that fails goes on behind the first failure. If only the
instructions up to there use no timer, or do not look at the latch, the
same machine is reached or the batch fails both times, but the faults that
are reported may be different.

Cycles that are asked for one at a time are not in doubt: two sequences
with the same cycles and the same acts lead to the same machine or the
same fault, as long as the acts on each device keep their order and none
is moved past an instruction that uses its device. -/
theorem runCycles_replay_interleaved (s : Machine) :
    (∀ n, (∀ i ∈ s.batch n, i.uses .timers = false) →
      (s.runCycles n).map (·.tick) = s.tick.runCycles n) ∧
    (∀ n, (∀ i ∈ s.batch n, i.uses .keypad = false) →
      (∀ k, (s.runCycles n).map (·.press k) = (s.press k).runCycles n) ∧
      (s.runCycles n).map (·.release) = s.release.runCycles n) ∧
    (∀ n, (∀ i ∈ s.instructions (.replicate n.toNat .cycle), i.uses .timers = false) →
      ((s.runCycles n).map (·.tick)).toOption = (s.tick.runCycles n).toOption) ∧
    (∀ n, (∀ i ∈ s.instructions (.replicate n.toNat .cycle), i.uses .keypad = false) →
      (∀ k, ((s.runCycles n).map (·.press k)).toOption = ((s.press k).runCycles n).toOption) ∧
      ((s.runCycles n).map (·.release)).toOption = (s.release.runCycles n).toOption) ∧
    ∀ es fs, s.Rearranged es fs → s.replay es = s.replay fs := by
  refine ⟨fun n hquiet => ?_, fun n hquiet => ⟨fun k => ?_, ?_⟩, fun n hquiet => ?_,
    fun n hquiet => ⟨fun k => ?_, ?_⟩, fun es fs => replay_of_rearranged⟩
  · exact runCycles_enact (e := .tick) rfl hquiet
  · exact runCycles_enact (e := .press k) rfl hquiet
  · exact runCycles_enact (e := .release) rfl hquiet
  · exact runCycles_enact_toOption (e := .tick) rfl hquiet
  · exact runCycles_enact_toOption (e := .press k) rfl hquiet
  · exact runCycles_enact_toOption (e := .release) rfl hquiet

/-- A program sets the delay timer to 5 and goes on with two instructions
that use no device. The timers may count down before the last two or
after them, and the key may go down at the start or in between. -/
theorem runCycles_replay_interleaved_countdown :
    ∃ s t u, (boot ⟨0, 0⟩).load [0x60, 0x05, 0xF0, 0x15, 0x61, 0x01, 0x71, 0x01] = .ok s ∧
      s.Rearranged [.cycle, .cycle, .tick, .press 3, .cycle, .cycle]
        [.press 3, .cycle, .cycle, .cycle, .cycle, .tick] ∧
      s.replay [.cycle, .cycle, .tick, .press 3, .cycle, .cycle] = .ok t ∧
      s.replay [.press 3, .cycle, .cycle, .cycle, .cycle, .tick] = .ok t ∧
      t.delay = 4 ∧ t.key = .holding 3 ∧
      s.runCycles 1 = .ok u ∧ s.tick.runCycles 1 = .ok u.tick ∧
      (s.press 3).runCycles 1 = .ok (u.press 3) ∧
      (s.runCycles 4).toOption.isSome ∧
      ((s.runCycles 4).map (·.release)).toOption = (s.release.runCycles 4).toOption := by
  have hcheck : ((boot ⟨0, 0⟩).load
      [0x60, 0x05, 0xF0, 0x15, 0x61, 0x01, 0x71, 0x01]).toOption.any (fun s =>
        s.instructions [.cycle, .cycle, .tick, .press 3, .cycle, .cycle]
            == [.setByte 0 5, .setDelay 0, .setByte 1 1, .addByte 1 1] &&
          s.instructions (.replicate 4 .cycle)
            == [.setByte 0 5, .setDelay 0, .setByte 1 1, .addByte 1 1] &&
          s.batch 1 == [.setByte 0 5] && (s.runCycles 1).toOption.isSome &&
          (s.runCycles 4).toOption.isSome &&
          (s.replay [.cycle, .cycle, .tick, .press 3, .cycle, .cycle]).toOption.any fun t =>
            t.delay == 4 && t.key == .holding 3) = true := by
    decide +kernel
  obtain ⟨s, hload, hcheck⟩ := ok_of_any hcheck
  simp only [Bool.and_eq_true, beq_iff_eq] at hcheck
  obtain ⟨⟨⟨⟨⟨hinstr, hfour⟩, hbatch⟩, hone⟩, hall⟩, hcheck⟩ := hcheck
  obtain ⟨t, ht, hcheck⟩ := ok_of_any hcheck
  simp only [Bool.and_eq_true, beq_iff_eq] at hcheck
  obtain ⟨u, hu, -⟩ := ok_of_any (p := fun _ => true) (by simpa using hone)
  obtain ⟨htick, hkey, -, hkeyUpTo, hreplay⟩ := runCycles_replay_interleaved s
  have hrearranged : s.Rearranged [.cycle, .cycle, .tick, .press 3, .cycle, .cycle]
      [.press 3, .cycle, .cycle, .cycle, .cycle, .tick] := by
    refine ⟨rfl, fun d => ?_⟩
    rw [hinstr]
    cases d with
    | timers =>
      -- The timers count down two cycles later.
      refine .cons ⟨rfl, fun k i hk hk' hi => ?_⟩ .nil
      obtain rfl | rfl : k = 2 ∨ k = 3 := by
        change 2 ≤ k at hk
        change k < 4 at hk'
        omega
      all_goals
        cases hi
        rfl
    | keypad =>
      -- The key goes down two cycles earlier.
      refine .cons ⟨rfl, fun k i hk hk' hi => ?_⟩ .nil
      obtain rfl | rfl : k = 0 ∨ k = 1 := by
        change k < 2 at hk'
        omega
      all_goals
        cases hi
        rfl
  refine ⟨s, t, u, hload, hrearranged, ht, (hreplay _ _ hrearranged).symm.trans ht, hcheck.1,
    hcheck.2, hu, ?_, ?_, hall, (hkeyUpTo 4 fun i hi => ?_).2⟩
  · rw [← htick 1 (by simp [hbatch, Instruction.uses]), hu]
    rfl
  · rw [← (hkey 1 (by simp [hbatch, Instruction.uses])).1 3, hu]
    rfl
  · change i ∈ s.instructions (.replicate 4 .cycle) at hi
    rw [hfour] at hi
    simp only [List.mem_cons, List.not_mem_nil, or_false] at hi
    rcases hi with rfl | rfl | rfl | rfl <;> rfl

/-- The program fails to store two registers at the last byte of memory.
Behind that it returns without a call, unless the delay timer has come to
zero. A batch goes on to this return, and reports its fault. So it matters
when the timers count down, although the instructions up to the failure do
not use them. -/
theorem runCycles_notices_tick :
    (∃ s t : Machine,
      (boot ⟨0, 0⟩).load [0xAF, 0xFF, 0xF1, 0x55, 0xF0, 0x07, 0x30, 0x00, 0x00, 0xEE] = .ok s ∧
      t = { s with delay := 1 } ∧
      t.instructions (.replicate 5 .cycle) = [.setIndex ⟨0xFFF, by decide⟩, .store 1] ∧
      t.runCycles 5 = .error (.fault .stackUnderflow) ∧
      t.tick.runCycles 5 = .error (.fault (.accessOutOfRange 0xFFF 2))) ∧
    ¬ ∀ (s : Machine) (n : Int),
      (∀ i ∈ s.instructions (.replicate n.toNat .cycle), i.uses .timers = false) →
      (s.runCycles n).map (·.tick) = s.tick.runCycles n := by
  have hcheck : ((boot ⟨0, 0⟩).load
      [0xAF, 0xFF, 0xF1, 0x55, 0xF0, 0x07, 0x30, 0x00, 0x00, 0xEE]).toOption.any (fun s =>
        let t : Machine := { s with delay := 1 }
        t.instructions (.replicate 5 .cycle) == [.setIndex ⟨0xFFF, by decide⟩, .store 1] &&
          error? (t.runCycles 5) == some (.fault .stackUnderflow) &&
          error? (t.tick.runCycles 5) == some (.fault (.accessOutOfRange 0xFFF 2))) = true := by
    decide +kernel
  obtain ⟨s, hload, hcheck⟩ := ok_of_any hcheck
  simp only [Bool.and_eq_true, beq_iff_eq, error?_eq_some_iff] at hcheck
  obtain ⟨⟨hinstr, hbefore⟩, hafter⟩ := hcheck
  refine ⟨⟨s, _, hload, rfl, hinstr, hbefore, hafter⟩, fun hclaim => ?_⟩
  have hquiet : ∀ i ∈ ({ s with delay := 1 } : Machine).instructions (.replicate 5 .cycle),
      i.uses .timers = false := by
    rw [hinstr]
    decide
  have hsame := hclaim { s with delay := 1 } 5 hquiet
  rw [hbefore, hafter] at hsame
  cases hsame

end Machine

end Chip8
