import Chip8.Proofs.Machine.Footprint
import Chip8.Proofs.Machine.RunUntilFrame

/-!
# `Chip8.Proofs.Machine.Frames`: the frames of a run

A frame is the display that an instruction which clears the screen or
draws leaves behind. `Machine.frames` lists the frames of a run of
events, one for each such instruction that is retired, in order.

The lists of two runs in a row are joined (`frames_append`), and no other
instruction touches the display (`display_of_cycle`). A run until a frame
is complete therefore has either one frame, which is the display at its
end, or none, and then the display is what it was
(`runWithin_frames`).
-/

set_option autoImplicit false

namespace Chip8.Machine

variable {s t : Machine}

/-! ### The frames of a run of events -/

/-- The display after a step that retires an instruction which completes
a frame. -/
def Step.frame? (st : Step) : Option Display :=
  if st.retired?.any (·.completesFrame) then some st.after.display else none

/-- The frames that are completed in a run, in order. -/
def frames (s : Machine) (es : List Event) : List Display := (s.steps es).filterMap Step.frame?

theorem frames_cons {e : Event} (h : s.apply e = .ok t) (es : List Event) :
    s.frames (e :: es) = (⟨s, e, t⟩ : Step).frame?.toList ++ t.frames es := by
  rw [frames, steps_cons es h, List.filterMap_cons]
  cases (⟨s, e, t⟩ : Step).frame? <;> rfl

/-- The frames of two runs in a row are those of the first run and then
those of the second. -/
theorem frames_append {es : List Event} (h : s.replay es = .ok t) (fs : List Event) :
    s.frames (es ++ fs) = s.frames es ++ t.frames fs := by
  induction es generalizing s with
  | nil =>
    cases h
    rfl
  | cons e es ih =>
    rw [replay_cons] at h
    obtain ⟨u, hu, ht⟩ := bind_eq_ok.1 h
    rw [List.cons_append, frames_cons hu, frames_cons hu, ih ht, List.append_assoc]

/-! ### The frames of a run of cycles -/

/-- A cycle adds the display after it, if it completes a frame. -/
theorem frames_cycle (h : s.cycle = .ok t) (es : List Event) :
    s.frames (.cycle :: es) = (if s.completesFrameAt 0 then [t.display] else []) ++ t.frames es := by
  have hretired : s.retired? 0 = s.current? := by
    simp only [retired?, run, h]
  have hstep : s.apply .cycle = .ok t := h
  rw [frames_cons hstep, Step.frame?, completesFrameAt, hretired]
  show (if s.current?.any (·.completesFrame) then some t.display else none).toList ++ _ = _
  split <;> rfl

/-- Only an instruction that completes a frame changes the display. -/
theorem display_of_cycle (h : s.cycle = .ok t) (hnone : s.completesFrameAt 0 = false) :
    t.display = s.display := by
  obtain ⟨i, hcur, hexec⟩ := current?_of_cycle h
  obtain ⟨u, hu, rfl⟩ := execute_eq_ok_iff.1 hexec
  have hi : i.completesFrame = false := by
    simpa only [completesFrameAt, retired?, run, h, hcur, Option.any_some] using hnone
  rw [Instruction.completesFrame_eq] at hi
  exact (within_of_perform hu).display hi

/-- Cycles without a frame leave the display as it was. -/
theorem frames_of_none {n : Nat} (h : s.run n = .ok t)
    (hnone : ∀ k < n, s.completesFrameAt k = false) :
    s.frames (.replicate n .cycle) = [] ∧ t.display = s.display := by
  induction n generalizing s with
  | zero =>
    cases h
    exact ⟨rfl, rfl⟩
  | succ n ih =>
    obtain ⟨u, hu, ht⟩ := bind_eq_ok.1 h
    have hfirst : s.completesFrameAt 0 = false := hnone 0 (Nat.zero_lt_succ n)
    obtain ⟨hframes, hdisplay⟩ := ih ht fun k hk => by
      rw [← completesFrameAt_succ hu]
      exact hnone (k + 1) (Nat.succ_lt_succ hk)
    constructor
    · rw [List.replicate_succ, frames_cycle hu, hfirst, hframes]
      rfl
    · rw [hdisplay, display_of_cycle hu hfirst]

/-- Cycles the last of which is the first to complete a frame have just
this frame. -/
theorem frames_of_first {k : Nat} (h : s.run (k + 1) = .ok t)
    (hframe : s.completesFrameAt k = true) (hbefore : ∀ j < k, s.completesFrameAt j = false) :
    s.frames (.replicate (k + 1) .cycle) = [t.display] := by
  rw [run_add] at h
  obtain ⟨u, hu, hlast⟩ := bind_eq_ok.1 h
  obtain ⟨v, hv, hvt⟩ := bind_eq_ok.1 hlast
  cases hvt
  have hreplay : s.replay (.replicate k .cycle) = .ok u := by
    rw [replay_replicate_cycle, hu]
  have hcycle : u.frames [.cycle] = [t.display] := by
    rw [completesFrameAt_of_run hu] at hframe
    rw [frames_cycle hv, hframe]
    rfl
  rw [List.replicate_succ', frames_append hreplay, (frames_of_none hu hbefore).1, hcycle]
  rfl

/-! ### Running until a frame is complete -/

theorem current?_withFrame (s : Machine) (ready : Bool) :
    ({ s with frameReady := ready } : Machine).current? = s.current? := by
  rw [current?_eq, current?_eq]
  rfl

/-- Which cycles complete a frame does not depend on the frame flag. -/
theorem completesFrameAt_withFrame (s : Machine) (ready : Bool) (k : Nat) :
    ({ s with frameReady := ready } : Machine).completesFrameAt k = s.completesFrameAt k := by
  cases k with
  | zero => simp only [completesFrameAt, retired?, run, cycle_withFrame, current?_withFrame]
  | succ k =>
    rw [completesFrameAt, completesFrameAt, retired?, retired?, run_withFrame (Nat.zero_lt_succ k)]

/-- A run until a frame is complete carries out some number of cycles.
The last of them is the first to complete a frame, and this is the only
frame; or the budget is spent without a frame, and the display is what it
was. The frame flag tells which. -/
theorem runWithin_frames {budget : Int} {n : Nat} (hbudget : 0 < budget)
    (h : s.runWithin budget = .ok (t, n)) :
    s.run n = .ok t ∧
      (t.frameReady = true ∧ s.frames (.replicate n .cycle) = [t.display] ∧
          (∃ k, n = k + 1 ∧ s.completesFrameAt k = true ∧
            ∀ j < k, s.completesFrameAt j = false) ∨
        t.frameReady = false ∧ s.frames (.replicate n .cycle) = [] ∧ t.display = s.display ∧
          n = budget.toNat ∧ ∀ k < n, s.completesFrameAt k = false) := by
  obtain ⟨-, hn, hrun⟩ := runWithin_eq_ok_iff.1 h
  have hflag := frameReady_of_run rfl hrun
  have hpos : 0 < n := by
    rw [hn]
    exact cyclesToFrame_pos _ (by omega)
  -- The flag that is cleared at the start makes no difference.
  have hcases := ({ s with frameReady := false } : Machine).cyclesToFrame_cases budget.toNat
  rw [← hn] at hcases
  simp only [completesFrameAt_withFrame] at hcases hflag
  rw [run_withFrame hpos] at hrun
  refine ⟨hrun, ?_⟩
  rcases hcases with ⟨k, -, rfl, hframe, hbefore⟩ | ⟨hspent, hnone⟩
  · exact .inl ⟨hflag.2 ⟨k, rfl, hframe⟩, frames_of_first hrun hframe hbefore, k, rfl, hframe,
      hbefore⟩
  · rw [← hspent] at hnone
    obtain ⟨hframes, hdisplay⟩ := frames_of_none hrun hnone
    refine .inr ⟨?_, hframes, hdisplay, hspent, hnone⟩
    rw [← Bool.not_eq_true, hflag]
    rintro ⟨k, hk, hframe⟩
    exact absurd hframe (Bool.eq_false_iff.1 (hnone k (by omega)))

end Chip8.Machine
