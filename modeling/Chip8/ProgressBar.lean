import Chip8.Double
import Chip8.Error
import Chip8.Text.Fixed

/-!
# `Chip8.ProgressBar`: how far a run has come

A progress bar counts frames towards a total. A bar that is switched off
keeps its count whatever it is told, and is never seen. One that is
switched on is drawn when it is made and once more when it is closed, so
what it shows has to be within the range of a double, and its count must
not have too many digits (`ProgressBar.IsDrawable`). If no description is
given, the bar describes itself by its total, and that must not have too
many digits either, whether the bar is switched on or not.
-/

set_option autoImplicit false

namespace Chip8

/-- A progress bar for a run of frames. -/
structure ProgressBar where
  /-- The number of frames of the whole run. -/
  total : Int
  /-- What is counted. -/
  description : String
  /-- Whether the bar counts at all. -/
  enabled : Bool
  /-- The number of frames that were done when the bar was made. -/
  initial : Int
  /-- The number of frames so far. -/
  count : Int

namespace ProgressBar

/-- The name of the thing counted. -/
def unit : String := "frame"

/-- Whether a double can hold what remains of the total, which is worked
out from the speed of the bar. A bar that has not moved has none. -/
abbrev HasRemainder (b : ProgressBar) : Prop :=
  b.count = b.initial ∨ Double.Fits (b.total - b.count)

/-- Whether a double can hold the part of the total that is done, which
is a quotient. -/
abbrev HasPart (b : ProgressBar) : Prop :=
  b.count.natAbs < Double.bound * b.total.natAbs

/-- Whether doubles can hold the total and the speed of the bar. -/
abbrev HasSpeed (b : ProgressBar) : Prop :=
  Double.Fits b.total ∧ Double.Fits (b.count - b.initial)

/-- Whether a bar can be drawn. It shows the speed since it was made, the
count in digits, and the part of the total that is done and the one that
remains. A bar without a total, or with a count past it, shows no
parts. -/
abbrev IsDrawable (b : ProgressBar) : Prop :=
  b.HasSpeed ∧ Text.Numeral.isWritable b.count = true ∧
    (b.total = 0 ∨ b.total < b.count ∨ b.HasPart ∧ b.HasRemainder)

/-- Why a bar cannot be drawn. The digits of the count are set after the
speed and before the parts. -/
def drawingError (b : ProgressBar) : Error :=
  if b.HasSpeed ∧ Text.Numeral.isWritable b.count = false then .notWritable b.count
  else .tooWide b.count

/-- A bar drawn, if it is switched on. -/
def draw (b : ProgressBar) : Except Error ProgressBar :=
  if b.enabled = true ∧ ¬b.IsDrawable then .error b.drawingError else .ok b

/-- What a bar for `n` frames counts, unless it is told. -/
def describe (n : Int) : Except Error String :=
  if Text.Numeral.isWritable n then .ok s!"Running ({Text.grouped n} frames)"
  else .error (.notWritable n)

/-- A bar for `n` frames, `initial` of which are done. Unless it is
given, the description tells the number of frames. -/
def start (n : Int) (description? : Option String) (enabled : Bool) (initial : Int) :
    Except Error ProgressBar := do
  let description ← description?.elim (describe n) .ok
  draw { total := n, description, enabled, initial, count := initial }

/-- Counts `k` more frames. -/
def advance (b : ProgressBar) (k : Int) : ProgressBar :=
  if b.enabled then { b with count := b.count + k } else b

/-- Draws the bar a last time. -/
def close (b : ProgressBar) : Except Error ProgressBar := b.draw

/-- An integer within the range of a double can be written. -/
theorem isWritable_of_fits {v : Int} (h : Double.Fits v) : Text.Numeral.isWritable v = true := by
  have hbound : Double.bound ≤ Text.Numeral.bound := by decide +kernel
  exact Text.Numeral.isWritable_iff.2 (Nat.lt_of_lt_of_le h hbound)

/-- A bar that started at zero can be drawn at every count up to its
total: neither what is done nor what remains is larger than the total. -/
theorem isDrawable_of_le {b : ProgressBar} (htotal : Double.Fits b.total) (hinitial : b.initial = 0)
    (hcount : 0 ≤ b.count) (hle : b.count ≤ b.total ∨ b.count = 0) : b.IsDrawable := by
  have hpos := Double.bound_pos
  have hdone : b.count.natAbs ≤ b.total.natAbs := by omega
  have hfits : Double.Fits b.count := by omega
  refine ⟨⟨htotal, by omega⟩, isWritable_of_fits hfits, ?_⟩
  by_cases hzero : b.total = 0
  · exact .inl hzero
  · have hmul := Nat.le_mul_of_pos_right Double.bound (Int.natAbs_pos.2 hzero)
    exact .inr (.inr ⟨by omega, .inr (by omega)⟩)

/-- A bar that can be drawn is drawn. -/
theorem draw_eq_ok {b : ProgressBar} (h : b.enabled = true → b.IsDrawable) : b.draw = .ok b := by
  rw [draw, if_neg]
  exact fun hnot => hnot.2 (h hnot.1)

/-- A bar that was drawn could be drawn. -/
theorem of_draw_eq_ok {b c : ProgressBar} (h : b.draw = .ok c) :
    c = b ∧ (b.enabled = true → b.IsDrawable) := by
  rw [draw] at h
  split at h
  next => cases h
  next hnot =>
    cases h
    exact ⟨rfl, fun henabled => Decidable.byContradiction fun hd => hnot ⟨henabled, hd⟩⟩

/-- A bar that is made has a description, and is drawn. -/
theorem draw_of_start {n initial : Int} {description? : Option String} {enabled : Bool}
    {b : ProgressBar} (h : start n description? enabled initial = .ok b) :
    ∃ description,
      draw { total := n, description, enabled, initial, count := initial } = .ok b := by
  rw [start] at h
  cases hdescription : description?.elim (describe n) .ok with
  | error e =>
    rw [hdescription] at h
    cases h
  | ok description =>
    rw [hdescription] at h
    exact ⟨description, h⟩

/-- A bar that is made can be closed after any part of its run. -/
theorem close_advance {n k : Int} {description? : Option String} {enabled : Bool}
    {b : ProgressBar} (h : start n description? enabled 0 = .ok b) (hk : 0 ≤ k)
    (hle : k ≤ n ∨ k = 0) : (b.advance k).close = .ok (b.advance k) := by
  obtain ⟨description, hdraw⟩ := draw_of_start h
  obtain ⟨rfl, hdrawn⟩ := of_draw_eq_ok hdraw
  cases enabled with
  | false => exact draw_eq_ok fun henabled => by cases henabled
  | true =>
    refine draw_eq_ok fun _ => isDrawable_of_le (hdrawn rfl).1.1 rfl ?_ ?_
    · show 0 ≤ 0 + k
      omega
    · show 0 + k ≤ n ∨ 0 + k = 0
      omega

end ProgressBar

end Chip8
