import Chip8.Proofs.Machine.Replay
import Mathlib.Data.List.DropRight

/-!
# `Chip8.Proofs.Machine.Timers`: what the timers hold

A timer holds a value that the program has put into it, and counts down
by one with each tick until it is zero. Nothing else touches it. So its
value can be read off the steps of a run: it is what was put in last,
less the ticks since then (`countdown`).

`timer_of_apply` says what one event makes of a timer, and
`timer_eq_countdown_append` that the count goes along with it. The main
statement is `replay_countdown`: a timer holds what the count of the
steps of a run gives, for every run. An instruction that reads the delay
timer at some step of a run gets the count of the steps before it
(`getDelay_countdown`).
-/

set_option autoImplicit false

namespace Chip8

/-- One of the two timers. -/
inductive Timer where
  | delay
  | sound
deriving DecidableEq

/-- The register whose value an instruction puts into a timer. -/
def Instruction.source? : Timer → Instruction → Option (Fin 16)
  | .delay, setDelay x => some x
  | .sound, setSound x => some x
  | _, _ => none

/-- A tick takes one off, if there is one to take. -/
theorem Timer.toNat_tick (v : UInt8) : (Timer.tick v).toNat = v.toNat - 1 := by
  rw [Timer.tick]
  split
  · rename_i hv
    rw [hv]
    rfl
  · rename_i hv
    have hpos : v.toNat ≠ 0 := fun hzero => hv (UInt8.toNat_inj.1 hzero)
    have hle : 1 ≤ v := UInt8.le_iff_toNat_le.2 (Nat.one_le_iff_ne_zero.2 hpos)
    exact UInt8.toNat_sub_of_le v 1 hle

namespace Machine

variable {s t u : Machine} {i : Instruction} {e : Event} {es : List Event} {which : Timer}

/-- The value of a timer. -/
def timer (s : Machine) : Timer → UInt8
  | .delay => s.delay
  | .sound => s.sound

/-! ### One event -/

/-- The value that a step puts into a timer, if its instruction sets the
timer. -/
def Step.set? (st : Step) (which : Timer) : Option UInt8 :=
  (st.retired?.bind (·.source? which)).map st.before.registers.get

/-- An instruction puts the value of its register into the timer, or it
leaves the timer as it is. -/
theorem timer_of_perform (h : s.perform i = .ok t) (which : Timer) :
    t.timer which = ((i.source? which).map s.registers.get).getD (s.timer which) := by
  have hwithin : s.Within i.footprint t := within_of_perform h
  cases which with
  | delay =>
    cases i with
    | setDelay x =>
      cases h
      rfl
    | _ => exact hwithin.delay rfl
  | sound =>
    cases i with
    | setSound x =>
      cases h
      rfl
    | _ => exact hwithin.sound rfl

/-- An event sets a timer, or counts it down, or leaves it as it is. -/
theorem timer_of_apply (h : s.apply e = .ok t) (which : Timer) :
    t.timer which = ((⟨s, e, t⟩ : Step).set? which).getD
      (if e = .tick then Timer.tick (s.timer which) else s.timer which) := by
  cases e with
  | cycle =>
    obtain ⟨i, hcur, hexec⟩ := current?_of_cycle h
    obtain ⟨u, hu, rfl⟩ := execute_eq_ok_iff.1 hexec
    have hset : (⟨s, .cycle, { u with frameReady := i.completesFrame }⟩ : Step).set? which
        = (i.source? which).map s.registers.get := by
      rw [Step.set?, Step.retired?, hcur]
      rfl
    rw [hset]
    have hperform := timer_of_perform hu which
    cases which <;> exact hperform
  | tick | press | release =>
    cases h
    cases which <;> rfl

/-- What the program reads from the delay timer is the value there. -/
theorem get_of_getDelay {x : Fin 16} (h : s.apply e = .ok t)
    (hread : (⟨s, e, t⟩ : Step).retired? = some (.getDelay x)) : t.registers.get x = s.delay := by
  cases e with
  | cycle =>
    have hcycle : s.stepped.execute (.getDelay x) = .ok t := cycle_of_current? hread ▸ h
    obtain ⟨u, hu, rfl⟩ := execute_eq_ok_iff.1 hcycle
    cases hu
    show (s.registers.set x s.delay).get x = s.delay
    rw [Registers.get_set, if_pos rfl]
  | tick | press | release => cases hread

/-! ### The count of a run -/

/-- The value that was put into a timer last, or else the value `start`
that it had at the beginning. -/
def lastSet (which : Timer) (start : UInt8) (done : List Step) : UInt8 :=
  (done.filterMap (·.set? which)).getLast?.getD start

/-- The number of ticks since a timer was set last, or else since the
beginning. -/
def ticksSince (which : Timer) (done : List Step) : Nat :=
  (done.rtakeWhile fun st => (st.set? which).isNone).countP fun st => st.event = .tick

/-- What a timer holds after the given steps. -/
def countdown (which : Timer) (start : UInt8) (done : List Step) : Int :=
  max 0 ((lastSet which start done).toNat - ticksSince which done)

theorem lastSet_append (which : Timer) (start : UInt8) (done : List Step) (st : Step) :
    lastSet which start (done ++ [st]) = (st.set? which).getD (lastSet which start done) := by
  rw [lastSet, List.filterMap_append]
  cases hset : st.set? which with
  | none => simp [hset, lastSet]
  | some v => simp [hset]

theorem ticksSince_append_of_set {st : Step} {v : UInt8} (h : st.set? which = some v)
    (done : List Step) : ticksSince which (done ++ [st]) = 0 := by
  rw [ticksSince, List.rtakeWhile_concat_neg _ _ _ (by simp [h])]
  rfl

theorem ticksSince_append_of_keep {st : Step} (h : st.set? which = none) (done : List Step) :
    ticksSince which (done ++ [st])
      = ticksSince which done + if st.event = .tick then 1 else 0 := by
  rw [ticksSince, List.rtakeWhile_concat_pos _ _ _ (by simp [h]), List.countP_append]
  simp [ticksSince, List.countP_singleton]

/-- If a timer holds what the count of the steps so far gives, it does so
after one more step. -/
theorem timer_eq_countdown_append {start : UInt8} {done : List Step}
    (hs : ((s.timer which).toNat : Int) = countdown which start done) (h : s.apply e = .ok t) :
    ((t.timer which).toNat : Int) = countdown which start (done ++ [⟨s, e, t⟩]) := by
  rw [timer_of_apply h which, countdown, lastSet_append]
  cases hset : (⟨s, e, t⟩ : Step).set? which with
  | some v =>
    rw [ticksSince_append_of_set hset]
    simp
  | none =>
    rw [ticksSince_append_of_keep hset]
    rw [countdown] at hs
    show (((if e = .tick then _ else _ : UInt8).toNat : Nat) : Int) = _
    by_cases he : e = .tick
    · simp only [he, if_true, Timer.toNat_tick, Option.getD_none]
      omega
    · simp only [he, if_false, Option.getD_none]
      omega

/-! ### Whole runs -/

/-- A timer holds what the count of the steps of a run gives. -/
theorem replay_countdown (h : s.replay es = .ok t) (which : Timer) :
    ((t.timer which).toNat : Int) = countdown which (s.timer which) (s.steps es) := by
  refine replay_steps_induction
    (R := fun u done => ((u.timer which).toNat : Int) = countdown which (s.timer which) done)
    ?_ (fun done u e v hu hv => timer_eq_countdown_append hu hv) h
  simp [countdown, lastSet, ticksSince]

/-- What the program reads from the delay timer at a step of a run is
what the count of the steps before it gives. -/
theorem getDelay_countdown {done after : List Step} {st : Step} {x : Fin 16}
    (h : s.steps es = done ++ st :: after) (hread : st.retired? = some (.getDelay x)) :
    ((st.after.registers.get x).toNat : Int) = countdown .delay s.delay done := by
  obtain ⟨before, rest, -, hbefore, hdone, happly⟩ := exists_of_steps h
  rw [get_of_getDelay happly hread, ← hdone]
  exact replay_countdown hbefore .delay

end Machine

end Chip8
