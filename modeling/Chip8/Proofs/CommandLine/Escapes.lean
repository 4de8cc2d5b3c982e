import Chip8.Proofs.CommandLine.Scene

/-!
# `Chip8.Proofs.CommandLine.Escapes`: what is not reported

A run that goes wrong reports an error and ends with the code 1, but not
every time. `Request.Escapes` lists the requests whose errors are passed on
to the caller: numbers and levels are missing, not positive, or too wide.

`ending_escaped_iff` shows that the list is complete. The main statement
is `run_escapes`, for all arguments that make up a request. That a frame of
no cycles is refused in this way is `run_noCycles_escapes`.
-/

set_option autoImplicit false

namespace Chip8.CommandLine

/-- The file holds a program that fits in memory. -/
def HoldsProgram (file : Except FileError Rom) : Prop :=
  ∃ rom, file = .ok rom ∧ rom.length ≤ Rom.maxSize

/-- The request ends with something that is not reported. -/
inductive Request.Escapes (r : Request) (file : Except FileError Rom) : Prop where
  /-- The number of cycles in a frame is missing or not positive. -/
  | cyclesPerFrame (h : ∀ c, r.cyclesPerFrame = some c → c ≤ 0)
  /-- The level of the log is missing. -/
  | logLevel (h : r.logLevel = none)
  /-- There is a program, but the seed is missing or does not fit 64
  bits. -/
  | seed (hfile : HoldsProgram file) (h : ∀ seed, r.seed = some seed → ¬FitsSigned 64 seed)
  /-- There is a program, but the key that was asked for is missing. -/
  | key (hfile : HoldsProgram file) (h : r.key = some none)
  /-- There is a program, and no key or one of the sixteen, but the number
  of frames is missing or too large for the bar, or there are frames and
  their cycles are too many for the counter. -/
  | frames (hfile : HoldsProgram file)
      (hkey : ∀ key, r.key = some key → ∃ k, key = some k ∧ 0 ≤ k ∧ k < 16)
      (h : ∀ n, r.frames = some n → r.progress = true ∧ ¬Double.Fits n ∨
        0 < n ∧ ∃ c, r.cyclesPerFrame = some c ∧ 2147483648 ≤ c)

namespace Request

variable {r : Request} {settings : Settings} {file : Except FileError Rom}

/-- A run escapes at an obstacle that is not reported. -/
theorem of_eq_escaped_iff {result : Except Obstacle Machine} :
    (∃ o, Ending.of result = .escaped o) ↔ ∃ o, result = .error o ∧ o.isReported = false := by
  cases result with
  | ok t => exact ⟨nofun, nofun⟩
  | error o =>
    cases ho : o.isReported with
    | true =>
      rw [of_error_of_isReported ho]
      exact ⟨nofun, by rintro ⟨_, ⟨⟩, hfalse⟩; exact nomatch ho.symm.trans hfalse⟩
    | false =>
      rw [of_error_of_not_isReported ho]
      exact ⟨fun _ => ⟨o, rfl, ho⟩, fun _ => ⟨o, rfl⟩⟩

/-! ### The parts -/

/-- Of a program that is there, only the seed is not reported. -/
theorem opened_unreported_iff :
    (∃ o, r.opened file = .error o ∧ o.isReported = false) ↔
      HoldsProgram file ∧ ∀ seed, r.seed = some seed → ¬FitsSigned 64 seed := by
  rcases r.opened_cases file with ⟨rom, seed, s, hfile, hrom, hseed, hfits, -, hopened⟩ |
    ⟨rom, o, hfile, hrom, hseed, hopened, ho⟩ | ⟨e, hfile, -, hopened, he⟩
  · constructor
    · rintro ⟨o, h, -⟩
      cases hopened.symm.trans h
    · rintro ⟨-, h⟩
      exact absurd hfits (h seed hseed)
  · exact iff_of_true ⟨o, hopened, ho⟩ ⟨⟨rom, hfile, hrom⟩, hseed⟩
  · constructor
    · rintro ⟨o, h, ho⟩
      cases hopened.symm.trans h
      exact nomatch he.symm.trans ho
    · rintro ⟨⟨rom, h, hrom⟩, -⟩
      exact absurd (hfile rom h) (Nat.not_lt.2 hrom)

theorem holdsProgram_of_opened {s : Machine} (h : r.opened file = .ok s) : HoldsProgram file := by
  rcases r.opened_cases file with ⟨rom, _, _, hfile, hrom, -⟩ | ⟨_, _, -, -, -, hopened, -⟩ |
    ⟨_, -, -, hopened, -⟩
  · exact ⟨rom, hfile, hrom⟩
  · cases hopened.symm.trans h
  · cases hopened.symm.trans h

/-- A program that is there is opened, or else that is not reported. -/
theorem opened_of_holdsProgram (h : HoldsProgram file) :
    (∃ o, r.opened file = .error o ∧ o.isReported = false) ∨ ∃ s, r.opened file = .ok s := by
  rcases r.opened_cases file with ⟨_, _, s, -, -, -, -, -, hopened⟩ |
    ⟨_, o, -, -, -, hopened, ho⟩ | ⟨_, hfile, -⟩
  · exact .inr ⟨s, hopened⟩
  · exact .inl ⟨o, hopened, ho⟩
  · obtain ⟨rom, hrom, hfits⟩ := h
    exact absurd (hfile rom hrom) (Nat.not_lt.2 hfits)

theorem hold_unreported_iff {s : Machine} :
    (∃ o, r.hold s = .error o ∧ o.isReported = false) ↔ r.key = some none := by
  rcases r.hold_cases s with ⟨hkey, h⟩ | ⟨k, key, hkey, -, h⟩ | ⟨k, hkey, -, h⟩ | ⟨hkey, h⟩
  · exact iff_of_false (fun ⟨_, ho, _⟩ => nomatch h.symm.trans ho) (fun hk => nomatch hkey.symm.trans hk)
  · exact iff_of_false (fun ⟨_, ho, _⟩ => nomatch h.symm.trans ho) (fun hk => nomatch hkey.symm.trans hk)
  · refine iff_of_false ?_ (fun hk => nomatch hkey.symm.trans hk)
    rintro ⟨_, ho, hreported⟩
    cases h.symm.trans ho
    cases hreported
  · exact iff_of_true ⟨_, h, rfl⟩ hkey

/-- A machine can hold a key down if it is one of the sixteen. -/
theorem hold_eq_ok_iff {s : Machine} :
    (∃ t, r.hold s = .ok t) ↔ ∀ key, r.key = some key → ∃ k, key = some k ∧ 0 ≤ k ∧ k < 16 := by
  rcases r.hold_cases s with ⟨hkey, h⟩ | ⟨k, key, hkey, rfl, h⟩ | ⟨k, hkey, hk, h⟩ | ⟨hkey, h⟩
  · exact iff_of_true ⟨_, h⟩ (by rw [hkey]; nofun)
  · refine iff_of_true ⟨_, h⟩ ?_
    rw [hkey]
    rintro _ ⟨⟩
    exact ⟨_, rfl, by omega, by omega⟩
  · refine iff_of_false (fun ⟨_, ho⟩ => nomatch h.symm.trans ho) fun hall => ?_
    obtain ⟨_, ⟨⟩, hrange⟩ := hall _ hkey
    exact hk hrange
  · refine iff_of_false (fun ⟨_, ho⟩ => nomatch h.symm.trans ho) fun hall => ?_
    obtain ⟨_, hnone, -⟩ := hall _ hkey
    cases hnone

/-- Of the frames, a fault is reported; numbers that are missing or too
wide are not. -/
theorem framed_unreported_iff {s : Machine} (hw : r.Written) (h : r.settings = .ok settings) :
    (∃ o, r.framed settings s = .error o ∧ o.isReported = false) ↔
      ∀ n, r.frames = some n → r.progress = true ∧ ¬Double.Fits n ∨
        0 < n ∧ ∃ c, r.cyclesPerFrame = some c ∧ 2147483648 ≤ c := by
  obtain ⟨hcycles, -, -, hprogress⟩ := of_settings_eq_ok h
  rcases framed_cases hw settings s with ⟨hnone, hframed⟩ | ⟨n, hn, ⟨hwide, v, hframed⟩ |
    ⟨⟨hbar, hcount⟩, hframed, hfault⟩⟩
  · exact iff_of_true ⟨_, hframed, rfl⟩ (by rw [hnone]; nofun)
  · refine iff_of_true ⟨_, hframed, rfl⟩ ?_
    rw [hn]
    rintro _ ⟨⟩
    rw [hprogress] at hwide
    exact hwide.imp_right fun ⟨hpos, hc⟩ => ⟨hpos, _, hcycles, Int.ofNat_le.2 hc⟩
  · refine iff_of_false ?_ fun hall => ?_
    · rintro ⟨o, ho, hreported⟩
      obtain ⟨e, he, rfl⟩ := mapError_eq_error.1 (hframed.symm.trans ho)
      obtain ⟨f, rfl⟩ := hfault e he
      cases hreported
    · rcases hall n hn with ⟨hp, hfits⟩ | ⟨hpos, c, hc, hle⟩
      · exact hfits (hbar (hprogress.trans hp))
      · cases hcycles.symm.trans hc
        have hlt : settings.cyclesPerFrame < 2147483648 := hcount hpos
        omega

/-! ### The whole -/

/-- With settings that can be used, what is not reported comes from one of
the three parts, and the parts before it go well. -/
theorem play_unreported_iff :
    (∃ o, r.play settings file = .error o ∧ o.isReported = false) ↔
      (∃ o, r.opened file = .error o ∧ o.isReported = false) ∨
      ∃ s, r.opened file = .ok s ∧
        ((∃ o, r.hold s = .error o ∧ o.isReported = false) ∨
          ∃ t, r.hold s = .ok t ∧
            ∃ o, r.framed settings t = .error o ∧ o.isReported = false) := by
  rw [play]
  constructor
  · rintro ⟨o, h, ho⟩
    rcases bind_eq_error.1 h with h | ⟨s, hs, h⟩
    · exact .inl ⟨o, h, ho⟩
    · rcases bind_eq_error.1 h with h | ⟨t, ht, h⟩
      · exact .inr ⟨s, hs, .inl ⟨o, h, ho⟩⟩
      · exact .inr ⟨s, hs, .inr ⟨t, ht, o, h, ho⟩⟩
  · rintro (⟨o, h, ho⟩ | ⟨s, hs, ⟨o, h, ho⟩ | ⟨t, ht, o, h, ho⟩⟩)
    · exact ⟨o, bind_eq_error.2 (.inl h), ho⟩
    · exact ⟨o, bind_eq_error.2 (.inr ⟨s, hs, bind_eq_error.2 (.inl h)⟩), ho⟩
    · exact ⟨o, bind_eq_error.2 (.inr ⟨s, hs, bind_eq_error.2 (.inr ⟨t, ht, h⟩)⟩), ho⟩

/-- The list of what is not reported is complete. -/
theorem ending_escaped_iff (hw : r.Written) :
    (∃ o, r.ending file = .escaped o) ↔ r.Escapes file := by
  rcases r.settings_cases with ⟨hbad, o, ho⟩ | ⟨settings, level, hs, hcycles, hlevel, -⟩
  · have hescaped : ∃ o, r.ending file = .escaped o := ⟨o, by rw [ending, ho]⟩
    refine iff_of_true hescaped ?_
    rcases hbad with h | ⟨c, h, hc | hdigits⟩ | h
    · refine .cyclesPerFrame fun c hc => ?_
      cases h.symm.trans hc
    · refine .cyclesPerFrame fun c' hc' => ?_
      cases h.symm.trans hc'
      exact hc
    · cases (hw.cyclesPerFrame c h).symm.trans hdigits
    · exact .logLevel h
  · rw [ending_eq_of hs, of_eq_escaped_iff, play_unreported_iff, opened_unreported_iff]
    constructor
    · rintro (⟨hfile, hseed⟩ | ⟨s, hopened, hkey | ⟨t, ht, hframes⟩⟩)
      · exact .seed hfile hseed
      · exact .key (holdsProgram_of_opened hopened) (hold_unreported_iff.1 hkey)
      · exact .frames (holdsProgram_of_opened hopened) (hold_eq_ok_iff.1 ⟨t, ht⟩)
          ((framed_unreported_iff hw hs).1 hframes)
    · -- A file with a program leads to a machine, unless the seed keeps it from that; so what
      -- is wrong with the key and the frames is met only with a seed that fits.
      intro h
      cases h with
      | cyclesPerFrame h =>
        have hpos := settings.cyclesPerFrame_pos
        have hle := h _ hcycles
        omega
      | logLevel h => cases hlevel.symm.trans h
      | seed hfile h => exact .inl ⟨hfile, h⟩
      | key hfile h =>
        rcases opened_of_holdsProgram (r := r) hfile with hseed | ⟨s, hopened⟩
        · exact .inl (opened_unreported_iff.1 hseed)
        · exact .inr ⟨s, hopened, .inl (hold_unreported_iff.2 h)⟩
      | frames hfile hkey h =>
        rcases opened_of_holdsProgram (r := r) hfile with hseed | ⟨s, hopened⟩
        · exact .inl (opened_unreported_iff.1 hseed)
        · obtain ⟨t, ht⟩ := hold_eq_ok_iff.2 hkey
          exact .inr ⟨s, hopened, .inr ⟨t, ht, (framed_unreported_iff hw hs).2 h⟩⟩

end Request

/-- Arguments that make up a request end in one of three ways. The program
is played and the picture is shown, with the code 0; or something goes
wrong, and the code is 1 and the last line of the log tells what; or the
error is passed on. The last is so for the requests that are listed, and
for no other whose cycles can be counted by a double. If they cannot, a run
that has come to its end may fail with its summary, in either way. -/
theorem run_escapes {arguments : List String} {r : Request}
    (h : Request.ofArguments arguments = .ok r) (scene : Scene) :
    ∃ ending scene', (run arguments : InScene Ending) scene = (ending, scene') ∧
      ((∃ settings t, r.settings = .ok settings ∧
          r.play settings (scene.files r.rom) = .ok t ∧
          ending = .finished 0 (Request.picture t.display)) ∨
        (∃ settings o lines, r.settings = .ok settings ∧
          (r.play settings (scene.files r.rom) = .error o ∨
            ¬r.CountFits ∧ ∃ v, o = .error (.notWritable v)) ∧
          ending = .finished 1 "" ∧
          scene'.log = scene.log ++ Text.ofLines lines ++ s!"Error: {o.message}\n") ∨
        ∃ o, ending = .escaped o) ∧
      (r.Escapes (scene.files r.rom) → ∃ o, ending = .escaped o) ∧
      ((∃ o, ending = .escaped o) → r.CountFits → r.Escapes (scene.files r.rom)) := by
  have hw := Request.written_of_ofArguments h
  rw [run_of_ofArguments h]
  obtain ⟨ending, scene', hrun, ⟨rfl, hlog⟩ | ⟨⟨settings, t, hsettings, hplay⟩, hcount, v, hend⟩⟩ :=
    Request.run_inScene hw scene
  · refine ⟨_, scene', hrun, ?_, (Request.ending_escaped_iff hw).2,
      fun hescaped _ => (Request.ending_escaped_iff hw).1 hescaped⟩
    cases hsettings : r.settings with
    | error o => exact .inr (.inr ⟨o, by rw [Request.ending, hsettings]⟩)
    | ok settings =>
      rw [Request.ending_eq_of hsettings]
      cases hplay : r.play settings (scene.files r.rom) with
      | ok t => exact .inl ⟨settings, t, rfl, hplay, rfl⟩
      | error o =>
        cases ho : o.isReported with
        | false => exact .inr (.inr ⟨o, Request.of_error_of_not_isReported ho⟩)
        | true =>
          obtain ⟨lines, hlines⟩ := hlog settings o hsettings hplay ho
          exact .inr (.inl ⟨settings, o, lines, rfl, .inl hplay,
            Request.of_error_of_isReported ho, hlines⟩)
  · -- All parts have gone well, so the request is not one of the list.
    have hlisted : ¬r.Escapes (scene.files r.rom) := by
      rw [← Request.ending_escaped_iff hw, Request.ending_eq_of hsettings, hplay]
      rintro ⟨o, ⟨⟩⟩
    refine ⟨ending, scene', hrun, ?_, fun hescapes => absurd hescapes hlisted,
      fun _ hfits => absurd hfits hcount⟩
    rcases hend with rfl | ⟨rfl, lines, hlines⟩
    · exact .inr (.inr ⟨_, rfl⟩)
    · exact .inr (.inl ⟨settings, .error (.notWritable v), lines, hsettings,
        .inr ⟨hcount, v, rfl⟩, rfl, hlines⟩)

/-- When the file is missing, a seed that does not fit is no matter: that
the file is missing is reported. -/
theorem run_escapes_missing :
    let arguments := ["game.ch8", "--seed", "9223372036854775808"]
    let scene : Scene := { files := fun _ => .error .missing }
    ∃ r, Request.ofArguments arguments = .ok r ∧
      ∃ scene', (run arguments : InScene Ending) scene = (.finished 1 "", scene') := by
  intro arguments scene
  let r : Request := ⟨"game.ch8", some 60, some 11, some 9223372036854775808, none, some .info, false⟩
  have hr : Request.ofArguments arguments = .ok r := rfl
  refine ⟨r, hr, ?_⟩
  obtain ⟨ending, scene', hrun, hend, -, hescapes⟩ := run_escapes hr scene
  have hfits : r.CountFits := by
    rintro n c ⟨⟩ ⟨⟩
    decide +kernel
  rcases hend with ⟨settings, t, -, hplay, -⟩ | ⟨_, _, _, -, -, rfl, -⟩ | hescaped
  · cases hplay
  · exact ⟨scene', hrun⟩
  · cases hescapes hescaped hfits with
    | cyclesPerFrame h => exact absurd (h 11 rfl) (by decide)
    | logLevel h => cases h
    | seed hfile => obtain ⟨_, ⟨⟩, -⟩ := hfile
    | key hfile => obtain ⟨_, ⟨⟩, -⟩ := hfile
    | frames hfile => obtain ⟨_, ⟨⟩, -⟩ := hfile

/-- Frames of no cycles are refused where nobody reports it: neither is
the code 0 or 1, nor is there a line in the log. -/
theorem run_noCycles_escapes :
    let arguments := ["game.ch8", "--cycles-per-frame", "0"]
    let scene : Scene := { files := fun _ => .ok [0x12, 0x00] }
    (run arguments : InScene Ending) scene
        = (.escaped (.error (.notPositive "cycles_per_frame" 0)), scene) ∧
      ¬∃ code output, ((run arguments : InScene Ending) scene).1 = .finished code output := by
  intro arguments scene
  have hr : Request.ofArguments arguments = .ok
      ⟨"game.ch8", some 60, some 0, some 0, none, some .info, false⟩ := rfl
  have hrun : (run arguments : InScene Ending) scene
      = (.escaped (.error (.notPositive "cycles_per_frame" 0)), scene) := by
    rw [run_of_ofArguments hr]
    rfl
  refine ⟨hrun, ?_⟩
  rintro ⟨code, output, h⟩
  rw [hrun] at h
  cases h

end Chip8.CommandLine
