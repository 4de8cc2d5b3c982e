import Chip8.Error

/-!
# `Chip8.Settings`: how a session is to run

`Settings` are settings that have been checked: both numbers of cycles
are positive. They can also be written out, which is needed for them to be
logged when a session is opened; without that no session can be.
`Settings.Draft` holds any numbers at all, with the usual ones as defaults,
and `Draft.check` turns one into the other or says what is wrong with it.
-/

set_option autoImplicit false

namespace Chip8

/-- Settings as they were asked for. -/
structure Settings.Draft where
  /-- The number of cycles in a frame of a sixtieth of a second. -/
  cyclesPerFrame : Int := 11
  /-- The most cycles to wait for the program to complete a frame. -/
  maxCyclesPerFrame : Int := 10000
  /-- The seed of the random source. -/
  seed : Int := 0
  /-- The name of the least level that is logged. -/
  logLevel : String := "INFO"
  /-- Whether to show how far a run has come. -/
  showProgress : Bool := false
deriving DecidableEq, Repr

/-- Settings that can be used. -/
structure Settings where
  /-- The number of cycles in a frame of a sixtieth of a second. -/
  cyclesPerFrame : Nat
  /-- The most cycles to wait for the program to complete a frame. -/
  maxCyclesPerFrame : Nat
  /-- The seed of the random source. -/
  seed : Int
  /-- The name of the least level that is logged. -/
  logLevel : String
  /-- Whether to show how far a run has come. -/
  showProgress : Bool
  /-- A frame takes at least one cycle. -/
  cyclesPerFrame_pos : 0 < cyclesPerFrame
  /-- A wait may take at least one cycle. -/
  maxCyclesPerFrame_pos : 0 < maxCyclesPerFrame
  /-- Both numbers of cycles can be written. -/
  cycles_writable : Text.Numeral.isWritable cyclesPerFrame = true ∧
    Text.Numeral.isWritable maxCyclesPerFrame = true
deriving DecidableEq

namespace Settings

/-- Numbers of cycles that fit a register can be written. -/
theorem writable_of_fits {cycles most : Int} (hcycles : FitsSigned 64 cycles)
    (hmost : FitsSigned 64 most) :
    Text.Numeral.isWritable cycles = true ∧ Text.Numeral.isWritable most = true :=
  ⟨Text.Numeral.isWritable_of_fits hcycles, Text.Numeral.isWritable_of_fits hmost⟩

/-- Checks that both numbers of cycles are positive, the frame's first,
and then that they can be written, in the same order. -/
def Draft.check (d : Draft) : Except Error Settings :=
  if hc : 0 < d.cyclesPerFrame then
    if hm : 0 < d.maxCyclesPerFrame then
      if hcw : Text.Numeral.isWritable d.cyclesPerFrame = true then
        if hmw : Text.Numeral.isWritable d.maxCyclesPerFrame = true then
          .ok {
            cyclesPerFrame := d.cyclesPerFrame.toNat
            maxCyclesPerFrame := d.maxCyclesPerFrame.toNat
            seed := d.seed
            logLevel := d.logLevel
            showProgress := d.showProgress
            cyclesPerFrame_pos := by omega
            maxCyclesPerFrame_pos := by omega
            cycles_writable := by
              rw [Int.toNat_of_nonneg (Int.le_of_lt hc), Int.toNat_of_nonneg (Int.le_of_lt hm)]
              exact ⟨hcw, hmw⟩ }
        else .error (.notWritable d.maxCyclesPerFrame)
      else .error (.notWritable d.cyclesPerFrame)
    else .error (.notPositive "max_cycles_per_frame" d.maxCyclesPerFrame)
  else .error (.notPositive "cycles_per_frame" d.cyclesPerFrame)

namespace Draft

variable {d : Draft}

/-- Settings that are accepted are those that were asked for. -/
theorem of_check_eq_ok {s : Settings} (h : d.check = .ok s) :
    (s.cyclesPerFrame : Int) = d.cyclesPerFrame ∧
      (s.maxCyclesPerFrame : Int) = d.maxCyclesPerFrame ∧ s.seed = d.seed ∧
      s.logLevel = d.logLevel ∧ s.showProgress = d.showProgress := by
  rw [check] at h
  split at h
  next hc =>
    split at h
    next hm =>
      split at h
      next =>
        split at h
        next =>
          cases h
          exact ⟨Int.toNat_of_nonneg (Int.le_of_lt hc), Int.toNat_of_nonneg (Int.le_of_lt hm), rfl,
            rfl, rfl⟩
        next => cases h
      next => cases h
    next => cases h
  next => cases h

/-- Settings are refused for one of the numbers of cycles. -/
theorem of_check_eq_error {e : Error} (h : d.check = .error e) :
    (d.cyclesPerFrame ≤ 0 ∨ Text.Numeral.isWritable d.cyclesPerFrame = false) ∨
      d.maxCyclesPerFrame ≤ 0 ∨ Text.Numeral.isWritable d.maxCyclesPerFrame = false := by
  rw [check] at h
  split at h
  next =>
    split at h
    next =>
      split at h
      next =>
        split at h
        next => cases h
        next hm => exact .inr (.inr (Bool.eq_false_iff.2 hm))
      next hc => exact .inl (.inr (Bool.eq_false_iff.2 hc))
    next hm => exact .inr (.inl (Int.not_lt.1 hm))
  next hc => exact .inl (.inl (Int.not_lt.1 hc))

end Draft

end Settings

end Chip8
