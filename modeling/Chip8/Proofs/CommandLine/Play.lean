import Chip8.CommandLine.Run
import Chip8.Proofs.CommandLine.Reading
import Chip8.Proofs.Machine.Host
import Chip8.Proofs.Session.RunFrames

/-!
# `Chip8.Proofs.CommandLine.Play`: what a request comes to

A run reads a clock, writes a log and looks at a file. Only the file
matters for its end: `Request.play` says without a log and a clock what
becomes of the machine, and `Request.ending` how the run ends. That the log
can be written is known of the numbers of a request (`Request.Written`).

A request is played in three parts: the program is put into a machine, a
key is held down, and the frames are run. For each part, and for the
settings before them, there is a lemma that lists what it may come to and
when (`settings_cases`, `opened_cases`, `hold_cases`, `framed_cases`).
-/

set_option autoImplicit false

namespace Chip8.CommandLine

/-- Whether an obstacle is reported. The others are passed on to the
caller. -/
def Obstacle.isReported : Obstacle → Bool
  | .vacant _ | .error (.tooWide _) => false
  | .error _ => true

/-- The end of a run that leads to a machine or to an obstacle. -/
def Ending.of : Except Obstacle Machine → Ending
  | .ok t => .finished 0 (Request.picture t.display)
  | .error o => if o.isReported then .finished 1 "" else .escaped o

namespace Request

/-- The machine at the start of the program that a file holds. -/
def opened (r : Request) (file : Except FileError Rom) : Except Obstacle Machine := do
  let rom ← (Rom.accept r.rom file).mapError .error
  let seed ← need .seed r.seed
  (Machine.ofSeed seed >>= fun s => s.load rom).mapError .error

/-- The machine with the key held down that was asked for. -/
def hold (r : Request) (s : Machine) : Except Obstacle Machine :=
  match r.key with
  | none => .ok s
  | some key => do
    let key ← need .key key
    (s.pressInt key).mapError .error

/-- The machine after the frames that were asked for. -/
def framed (r : Request) (settings : Settings) (s : Machine) : Except Obstacle Machine := do
  let n ← need .frames r.frames
  (s.playFrames settings.cyclesPerFrame n settings.showProgress).mapError .error

/-- The machine at the end of a run, or what keeps the run from coming to
its end, when the file of the program has the given content. -/
def play (r : Request) (settings : Settings) (file : Except FileError Rom) :
    Except Obstacle Machine := do
  let s ← r.opened file
  let s ← r.hold s
  r.framed settings s

/-- How a run ends when the file of the program has the given content. -/
def ending (r : Request) (file : Except FileError Rom) : Ending :=
  match r.settings with
  | .error o => .escaped o
  | .ok settings => .of (r.play settings file)

/-- The number of cycles that were asked for, which the summary of a run
tells, is within the range of a double. -/
def CountFits (r : Request) : Prop :=
  ∀ n c, r.frames = some n → r.cyclesPerFrame = some c → Double.Fits (n.toNat * c.toNat : Nat)

variable {r : Request} {settings : Settings}

/-! ### The settings -/

/-- Only a number of cycles and a level are needed for settings. The number
has to be positive and must not have too many digits. -/
theorem settings_cases (r : Request) :
    ((r.cyclesPerFrame = none ∨
          (∃ c, r.cyclesPerFrame = some c ∧ (c ≤ 0 ∨ Text.Numeral.isWritable c = false)) ∨
          r.logLevel = none) ∧
        ∃ o, r.settings = .error o) ∨
      ∃ settings level, r.settings = .ok settings ∧
        r.cyclesPerFrame = some (settings.cyclesPerFrame : Int) ∧ r.logLevel = some level ∧
        settings.logLevel = level.name ∧ settings.seed = r.seed.getD 0 ∧
        settings.showProgress = r.progress := by
  cases hcycles : r.cyclesPerFrame with
  | none => exact .inl ⟨.inl rfl, .vacant .cyclesPerFrame, by rw [settings, hcycles]; rfl⟩
  | some c =>
    let draft : Settings.Draft :=
      { cyclesPerFrame := c, seed := r.seed.getD 0, showProgress := r.progress }
    have hsettings : r.settings = (draft.check.mapError .error >>= fun checked =>
        need .logLevel r.logLevel >>= fun level => pure { checked with logLevel := level.name }) := by
      rw [settings, hcycles]
      rfl
    cases hcheck : draft.check with
    | error e =>
      refine .inl ⟨.inr (.inl ⟨c, rfl, ?_⟩), .error e, by rw [hsettings, hcheck]; rfl⟩
      -- The budget of a wait has its usual value, so it is not what is wrong.
      have hmax : (0 : Int) < 10000 ∧ Text.Numeral.isWritable 10000 = true := by decide +kernel
      rcases Settings.Draft.of_check_eq_error hcheck with hc | hle | hdigits
      · exact hc
      · exact absurd hmax.1 (Int.not_lt.2 hle)
      · cases hmax.2.symm.trans hdigits
    | ok checked =>
      obtain ⟨hcyclesPerFrame, -, hseed, -, hprogress⟩ := Settings.Draft.of_check_eq_ok hcheck
      cases hlevel : r.logLevel with
      | none =>
        refine .inl ⟨.inr (.inr rfl), .vacant .logLevel, ?_⟩
        rw [hsettings, hcheck, hlevel]
        rfl
      | some level =>
        refine .inr ⟨{ checked with logLevel := level.name }, level, ?_, ?_, rfl, rfl, hseed,
          hprogress⟩
        · rw [hsettings, hcheck, hlevel]
          rfl
        · exact congrArg some hcyclesPerFrame.symm

/-- What is known of settings that can be used. -/
theorem of_settings_eq_ok (h : r.settings = .ok settings) :
    r.cyclesPerFrame = some (settings.cyclesPerFrame : Int) ∧
      (∃ level, r.logLevel = some level ∧ settings.logLevel = level.name) ∧
      settings.seed = r.seed.getD 0 ∧ settings.showProgress = r.progress := by
  rcases r.settings_cases with ⟨-, o, ho⟩ | ⟨_, level, hs, hcycles, hlevel, hname, hseed, hprogress⟩
  · cases h.symm.trans ho
  · cases h.symm.trans hs
    exact ⟨hcycles, ⟨level, hlevel, hname⟩, hseed, hprogress⟩

/-- The end of a run is known from what is played, once the settings can
be used. -/
theorem ending_eq_of (h : r.settings = .ok settings) (file : Except FileError Rom) :
    r.ending file = .of (r.play settings file) := by
  rw [ending, h]

theorem of_error_of_isReported {o : Obstacle} (h : o.isReported = true) :
    Ending.of (.error o) = .finished 1 "" := if_pos h

theorem of_error_of_not_isReported {o : Obstacle} (h : o.isReported = false) :
    Ending.of (.error o) = .escaped o := if_neg (Bool.eq_false_iff.1 h)

/-! ### The parts -/

/-- The program is put into a fresh machine, unless there is no seed that
fits, or the file cannot be read or is too large. The last is reported. -/
theorem opened_cases (r : Request) (file : Except FileError Rom) :
    (∃ rom seed s, file = .ok rom ∧ rom.length ≤ Rom.maxSize ∧ r.seed = some seed ∧
        FitsSigned 64 seed ∧ (Machine.boot (.ofSeed seed)).load rom = .ok s ∧
        r.opened file = .ok s) ∨
      (∃ rom o, file = .ok rom ∧ rom.length ≤ Rom.maxSize ∧
        (∀ seed, r.seed = some seed → ¬FitsSigned 64 seed) ∧ r.opened file = .error o ∧
        o.isReported = false) ∨
      ∃ e, (∀ rom, file = .ok rom → Rom.maxSize < rom.length) ∧
        Rom.accept r.rom file = .error e ∧ r.opened file = .error (.error e) ∧
        (Obstacle.error e).isReported = true := by
  cases file with
  | error why => exact .inr (.inr ⟨_, nofun, rfl, rfl, rfl⟩)
  | ok rom =>
    by_cases hrom : Rom.maxSize < rom.length
    · have haccept : Rom.accept r.rom (.ok rom) = .error (.romTooLarge rom.length) := if_pos hrom
      refine .inr (.inr ⟨_, ?_, haccept, by rw [opened, haccept]; rfl, rfl⟩)
      rintro _ ⟨⟩
      exact hrom
    · have hfits : rom.length ≤ Rom.maxSize := Nat.le_of_not_lt hrom
      have hopened : r.opened (.ok rom) = (need .seed r.seed >>= fun seed =>
          (Machine.ofSeed seed >>= fun s => s.load rom).mapError .error) := by
        rw [opened, Rom.accept_eq_ok_iff.2 ⟨rfl, hfits⟩]
        rfl
      rw [hopened]
      -- The seed is looked at only now: a file that cannot be used is reported first.
      cases hseed : r.seed with
      | none => exact .inr (.inl ⟨rom, _, rfl, hfits, nofun, rfl, rfl⟩)
      | some seed =>
        by_cases hwide : FitsSigned 64 seed
        · obtain ⟨s, hload, hset⟩ := Machine.ofSeed_load hwide hfits
          refine .inl ⟨rom, seed, s, rfl, hfits, rfl, hwide, hload, ?_⟩
          show Except.mapError _ (Machine.ofSeed seed >>= fun s => s.load rom) = _
          rw [hset]
          rfl
        · have hset : Machine.ofSeed seed = .error (.tooWide seed) := by
            rw [Machine.ofSeed, RandomKey.ofSeed?, if_neg hwide]
          refine .inr (.inl ⟨rom, .error (.tooWide seed), rfl, hfits, ?_, ?_, rfl⟩)
          · rintro _ ⟨⟩
            exact hwide
          · show Except.mapError _ (Machine.ofSeed seed >>= fun s => s.load rom) = _
            rw [hset]
            rfl

/-- A key is held down if one was asked for, and if it is one of the
sixteen. That there is no such key is reported. -/
theorem hold_cases (r : Request) (s : Machine) :
    (r.key = none ∧ r.hold s = .ok s) ∨
      (∃ k, ∃ key : Key, r.key = some (some k) ∧ k = key.val ∧ r.hold s = .ok (s.press key)) ∨
      (∃ k, r.key = some (some k) ∧ ¬(0 ≤ k ∧ k < 16) ∧
        r.hold s = .error (.error (.keyOutOfRange k))) ∨
      r.key = some none ∧ r.hold s = .error (.vacant .key) := by
  cases hkey : r.key with
  | none => exact .inl ⟨rfl, by rw [hold, hkey]⟩
  | some key =>
    cases key with
    | none => exact .inr (.inr (.inr ⟨rfl, by rw [hold, hkey]; rfl⟩))
    | some k =>
      have hhold : r.hold s = (s.pressInt k).mapError .error := by
        rw [hold, hkey]
        rfl
      rw [hhold, Machine.pressInt, Key.ofInt?]
      by_cases hk : 0 ≤ k ∧ k < 16
      · rw [dif_pos hk]
        exact .inr (.inl ⟨k, _, rfl, (Int.toNat_of_nonneg hk.1).symm, rfl⟩)
      · rw [dif_neg hk]
        exact .inr (.inr (.inl ⟨k, rfl, hk, rfl⟩))

/-- The frames are run if their number is given, and if the bar and the
counter of the cycles can take the numbers. Then nothing but the program
can go wrong. -/
theorem framed_cases (hw : r.Written) (settings : Settings) (s : Machine) :
    (r.frames = none ∧ r.framed settings s = .error (.vacant .frames)) ∨
      ∃ n, r.frames = some n ∧
        ((settings.showProgress = true ∧ ¬Double.Fits n ∨
            0 < n ∧ signedBound 32 ≤ settings.cyclesPerFrame) ∧
          (∃ v, r.framed settings s = .error (.error (.tooWide v))) ∨
        ((settings.showProgress = true → Double.Fits n) ∧
            (0 < n → settings.cyclesPerFrame < signedBound 32)) ∧
          r.framed settings s
            = (s.runFrames settings.cyclesPerFrame n.toNat).mapError .error ∧
          ∀ e, s.runFrames settings.cyclesPerFrame n.toNat = .error e → ∃ f, e = .fault f) := by
  cases hframes : r.frames with
  | none => exact .inl ⟨rfl, by rw [framed, hframes]; rfl⟩
  | some n =>
    have hplay : r.framed settings s = (if settings.showProgress = true ∧ ¬Double.Fits n then
        .error (.tooWide 0) else s.runFrames settings.cyclesPerFrame n.toNat).mapError .error := by
      rw [framed, hframes]
      show (s.playFrames settings.cyclesPerFrame n settings.showProgress).mapError _ = _
      rw [Machine.playFrames, hw.frames n hframes]
      rfl
    refine .inr ⟨n, rfl, ?_⟩
    rw [hplay]
    -- The bar is drawn before the first cycle is counted, so it is the first to go wrong.
    by_cases hbar : settings.showProgress = true ∧ ¬Double.Fits n
    · rw [if_pos hbar]
      exact .inl ⟨.inl hbar, 0, rfl⟩
    · rw [if_neg hbar]
      by_cases hwide : 0 < n ∧ signedBound 32 ≤ settings.cyclesPerFrame
      · rw [Machine.runFrames_of_le (by omega) hwide.2]
        exact .inl ⟨.inr hwide, _, rfl⟩
      · have hcounted : 0 < n → settings.cyclesPerFrame < signedBound 32 := fun hn =>
          Nat.lt_of_not_le fun hc => hwide ⟨hn, hc⟩
        exact .inr ⟨⟨fun hp => Decidable.byContradiction fun hn => hbar ⟨hp, hn⟩, hcounted⟩, rfl,
          fun _ => Machine.fault_of_runFrames fun hn => hcounted (by omega)⟩

end Request

end Chip8.CommandLine
