import Chip8.CommandLine.Request
import Chip8.Proofs.Machine.Cycle
import Mathlib.Algebra.Group.Nat.Defs

/-!
# `Chip8.Proofs.CommandLine.Reading`: what is read can be written

A decimal numeral of too many digits is not read, so a number that was
read can be written again (`Text.Numeral.isWritable_of_read?`). The
arguments of a command line have three decimal numbers, or their defaults:
the frames, the cycles in a frame, and the seed. Each argument leaves them
as they are or puts in one that it has read
(`Draft.mem_numbers_of_assign`), so in the end all of them can be written
(`Request.written_of_ofArguments`). The number of the key is not one of
them. It is hexadecimal, and may be as long as one likes.
-/

set_option autoImplicit false

namespace Chip8

/-! ### Numerals -/

namespace Text.Numeral

variable {radix : Nat}

theorem digitValue?_lt {c : Char} {d : Nat} (h : digitValue? radix c = some d) : d < radix := by
  rw [digitValue?] at h
  exact of_decide_eq_true (Option.filter_eq_some_iff.1 h).2

/-- Each digit is less than the radix. -/
theorem digitValues?_lt {cs : List Char} {values : List Nat}
    (h : digitValues? radix cs = some values) : ∀ d ∈ values, d < radix := by
  fun_induction digitValues? radix cs generalizing values with
  | case1 => cases h
  | case2 c =>
    obtain ⟨d, hd, hvalues⟩ := Option.bind_eq_some_iff.1 h
    cases hvalues
    intro e he
    rw [List.mem_singleton.1 he]
    exact digitValue?_lt hd
  | case3 c rest ih | case4 c rest hne hunderscore ih =>
    obtain ⟨d, hd, hvalues⟩ := Option.bind_eq_some_iff.1 h
    obtain ⟨ds, hds, hvalues⟩ := Option.bind_eq_some_iff.1 hvalues
    cases hvalues
    intro e he
    rcases List.mem_cons.1 he with rfl | he
    · exact digitValue?_lt hd
    · exact ih hds e he

/-- Behind a number of `k` digits, further digits give a number of so many
digits more. -/
theorem foldl_lt {values : List Nat} (hvalues : ∀ d ∈ values, d < radix) {first k : Nat}
    (hfirst : first < radix ^ k) :
    values.foldl (fun v d => radix * v + d) first < radix ^ (k + values.length) := by
  induction values generalizing first k with
  | nil => exact hfirst
  | cons d ds ih =>
    have hd := hvalues d List.mem_cons_self
    have hnext : radix * first + d < radix ^ (k + 1) := by
      have hmul : radix * (first + 1) ≤ radix * radix ^ k := Nat.mul_le_mul_left radix hfirst
      rw [Nat.pow_succ, Nat.mul_comm (radix ^ k)]
      rw [Nat.mul_succ] at hmul
      omega
    rw [List.foldl_cons, List.length_cons, Nat.add_comm ds.length, ← Nat.add_assoc]
    exact ih (fun e he => hvalues e (List.mem_cons_of_mem d he)) hnext

theorem readNat?_lt {cs : List Char} {n : Nat} (h : readNat? 10 cs = some n) : n < bound := by
  unfold readNat? at h
  obtain ⟨values, hvalues, h⟩ := Option.bind_eq_some_iff.1 h
  by_cases hlong : 10 = 10 ∧ maxDecimalDigits < values.length
  · rw [if_pos hlong] at h
    cases h
  · rw [if_neg hlong] at h
    cases h
    have hfew : values.length ≤ maxDecimalDigits := Nat.le_of_not_lt fun hlt => hlong ⟨rfl, hlt⟩
    unfold bound
    -- The power is not to be worked out, so its exponent is made any number.
    generalize maxDecimalDigits = digits at hfew
    have hzero : 0 < 10 ^ 0 := by decide
    have hlt := foldl_lt (digitValues?_lt hvalues) hzero
    rw [Nat.zero_add] at hlt
    exact Nat.lt_of_lt_of_le hlt (Nat.pow_le_pow_right (by decide) hfew)

/-- A decimal number that was read can be written. -/
theorem isWritable_of_read? {text : String} {v : Int} (h : read? 10 text = some v) :
    isWritable v = true := by
  have hdigits : ∀ (cs : List Char) (n : Int),
      (readNat? 10 cs >>= fun n => some (n : Int)) = some n → n.natAbs < bound := by
    intro cs n hn
    obtain ⟨m, hm, hmn⟩ := Option.bind_eq_some_iff.1 hn
    cases hmn
    exact readNat?_lt hm
  rw [isWritable_iff]
  rw [read?] at h
  split at h <;> obtain ⟨n, hn, rfl⟩ := Option.map_eq_some_iff.1 h
  · rw [Int.natAbs_neg]
    exact hdigits _ _ hn
  · exact hdigits _ _ hn
  · exact hdigits _ _ hn

end Text.Numeral

/-! ### Arguments -/

namespace CommandLine

/-- The decimal numbers of a draft, without those that are missing. -/
def Draft.numbers (d : Draft) : List Int := [d.frames, d.cyclesPerFrame, d.seed].filterMap id

/-- All decimal numbers of a draft can be written. -/
def Draft.Written (d : Draft) : Prop := ∀ n ∈ d.numbers, Text.Numeral.isWritable n = true

namespace Draft

variable {d d' : Draft} {n : Int}

theorem mem_numbers :
    n ∈ d.numbers ↔ d.frames = some n ∨ d.cyclesPerFrame = some n ∨ d.seed = some n := by
  simp [numbers, eq_comm]

theorem mem_numbers_of_vacate {v : Valued} (hn : n ∈ (d.vacate v).numbers) : n ∈ d.numbers := by
  rw [mem_numbers] at hn ⊢
  cases v <;> simp only [vacate] at hn <;> grind

theorem mem_numbers_of_assign? {v : Valued} {text : String} (h : d.assign? v text = some d')
    (hn : n ∈ d'.numbers) : n ∈ d.numbers ∨ Text.Numeral.read? 10 text = some n := by
  rw [mem_numbers] at hn ⊢
  cases v <;> simp only [assign?] at h <;> obtain ⟨value, hvalue, rfl⟩ := Option.map_eq_some_iff.1 h
    <;> grind

/-- A flag that is given a value leaves the decimal numbers as they are, but
for one that has been read. -/
theorem mem_numbers_of_assign {v : Valued} {text : String} (h : d.assign v text = .ok d')
    (hn : n ∈ d'.numbers) : n ∈ d.numbers ∨ Text.Numeral.read? 10 text = some n := by
  rw [assign] at h
  split at h
  next =>
    cases h
    exact .inl (mem_numbers_of_vacate hn)
  next =>
    split at h
    next hassign =>
      cases h
      exact mem_numbers_of_assign? hassign hn
    next => cases h

/-- Reading arguments keeps it so that all decimal numbers can be
written. -/
theorem Written.read {tokens : List Token} (hd : d.Written) (h : d.read tokens = .ok d') :
    d'.Written := by
  fun_induction d.read tokens with
  | case1 d =>
    cases h
    exact hd
  -- A name, an argument put aside and the bar leave the numbers as they are.
  | case2 | case3 | case4 | case5 | case6 | case7 | case10 =>
    rename_i ih
    exact ih hd h
  | case11 d v text rest ih | case12 d v text rest ih =>
    obtain ⟨d₁, hassign, hread⟩ := bind_eq_ok.1 h
    refine ih d₁ (fun n hn => ?_) hread
    rcases mem_numbers_of_assign hassign hn with hold | hnew
    · exact hd n hold
    · exact Text.Numeral.isWritable_of_read? hnew
  | case8 | case9 | case13 | case14 => cases h

/-- The defaults can be written. -/
theorem written_default : ({} : Draft).Written := by
  have hdefaults : ∀ n ∈ [60, 11, 0], Text.Numeral.isWritable n = true := by decide +kernel
  exact hdefaults

end Draft

/-- All decimal numbers of a request can be written. -/
structure Request.Written (r : Request) : Prop where
  frames : ∀ n, r.frames = some n → Text.Numeral.isWritable n = true
  cyclesPerFrame : ∀ c, r.cyclesPerFrame = some c → Text.Numeral.isWritable c = true
  seed : ∀ seed, r.seed = some seed → Text.Numeral.isWritable seed = true

/-- The decimal numbers that arguments ask for can be written. -/
theorem Request.written_of_ofArguments {arguments : List String} {r : Request}
    (h : ofArguments arguments = .ok r) : r.Written := by
  obtain ⟨tokens, -, h⟩ := bind_eq_ok.1 h
  obtain ⟨d, hread, hfinish⟩ := bind_eq_ok.1 h
  have hd := Draft.written_default.read hread
  rw [Draft.finish] at hfinish
  split at hfinish
  next => cases hfinish
  next =>
    split at hfinish
    next =>
      cases hfinish
      exact ⟨fun n hn => hd n (Draft.mem_numbers.2 (.inl hn)),
        fun c hc => hd c (Draft.mem_numbers.2 (.inr (.inl hc))),
        fun seed hseed => hd seed (Draft.mem_numbers.2 (.inr (.inr hseed)))⟩
    next => cases hfinish

end CommandLine

end Chip8
