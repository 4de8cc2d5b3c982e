import Chip8.Proofs.CommandLine.Escapes

/-!
# `Chip8.Proofs.CommandLine.Playback`: what the end of a run depends on

A `Playback` holds the four numbers that a run depends on: the number of
frames, the cycles in a frame, the seed, and the key that is held down.
`Playback.play` is what they make of a file. It knows nothing of a log, a
progress bar or a clock.

A request may ask for a playback (`Request.Asks`). If the numbers are in
the range of the bar, the counter and the summary (`Playback.InRange`),
the run of the request ends just as the playback does
(`Request.Asks.run_eq`), and errors are reported. The main statement
is `run_playback`, for all arguments that ask for a playback, and for any
two runs of the same playback.
-/

set_option autoImplicit false

namespace Chip8

/-! ### The latch -/

namespace Machine

variable {s t : Machine}

/-- A cycle leaves the latch as it is. -/
theorem key_of_cycle (h : s.cycle = .ok t) : t.key = s.key := by
  obtain ⟨i, -, hexec⟩ := current?_of_cycle h
  obtain ⟨u, hu, rfl⟩ := execute_eq_ok_iff.1 hexec
  exact (flow_of_perform hu).2

/-- Cycles and ticks leave the latch as it is. -/
theorem key_of_replay {es : List Event} (hes : ∀ e ∈ es, e = .cycle ∨ e = .tick)
    (h : s.replay es = .ok t) : t.key = s.key := by
  induction es generalizing s with
  | nil =>
    cases h
    rfl
  | cons e es ih =>
    rw [replay_cons] at h
    obtain ⟨u, hu, ht⟩ := bind_eq_ok.1 h
    have hrest := ih (fun e he => hes e (List.mem_cons_of_mem _ he)) ht
    rcases hes e List.mem_cons_self with rfl | rfl
    · exact hrest.trans (key_of_cycle hu)
    · cases hu
      exact hrest

/-- Frames consist of cycles and ticks. -/
theorem mem_frameEvents {c n : Nat} {e : Event} (h : e ∈ frameEvents c n) :
    e = .cycle ∨ e = .tick := by
  rw [frameEvents, List.mem_flatten] at h
  obtain ⟨frame, hframe, he⟩ := h
  rw [List.eq_of_mem_replicate hframe, List.mem_append] at he
  exact he.imp List.eq_of_mem_replicate List.mem_singleton.1

end Machine

namespace CommandLine

/-! ### Playbacks -/

/-- The numbers that a run depends on. -/
structure Playback where
  /-- The number of frames, none at all if it is negative. -/
  frames : Int
  /-- The number of cycles in a frame. -/
  cyclesPerFrame : Nat
  /-- The seed of the random source. -/
  seed : Int
  /-- The number of the key that is held down, if any. -/
  key? : Option Int
  /-- A frame takes at least one cycle. -/
  cyclesPerFrame_pos : 0 < cyclesPerFrame
  /-- The seed fits 64 bits. -/
  seed_fits : FitsSigned 64 seed

namespace Playback

/-- The events of all frames. -/
def events (p : Playback) : List Machine.Event :=
  Machine.frameEvents p.cyclesPerFrame p.frames.toNat

/-- The machine before the first frame, with the program in it and the key
held down. -/
def start (p : Playback) (rom : Rom) : Except Error Machine := do
  let s ← (Machine.boot (.ofSeed p.seed)).load rom
  match p.key? with
  | none => return s
  | some key => s.pressInt key

/-- The machine after the last frame, or what goes wrong. -/
def play (p : Playback) (path : String) (file : Except FileError Rom) : Except Error Machine := do
  let rom ← Rom.accept path file
  let s ← p.start rom
  s.runFrames p.cyclesPerFrame p.frames.toNat

/-- The numbers of a playback that starts with the machine `s` are in
range: the number of frames for a bar that is shown, the cycles of a frame
for the counter, and those of all frames for the summary. -/
structure InRange (p : Playback) (progress : Bool) (s : Machine) : Prop where
  drawn : progress = true → Double.Fits p.frames
  counted : 0 < p.frames → p.cyclesPerFrame < 2147483648
  summed : (∃ t, s.replay p.events = .ok t) →
    Double.Fits (p.frames.toNat * p.cyclesPerFrame : Nat)

end Playback

/-- The request asks for the playback, at some level of the log. -/
structure Request.Asks (r : Request) (p : Playback) : Prop where
  frames : r.frames = some p.frames
  cyclesPerFrame : r.cyclesPerFrame = some (p.cyclesPerFrame : Int)
  seed : r.seed = some p.seed
  key : r.key = p.key?.map some
  logLevel : r.logLevel.isSome = true

namespace Playback

variable {p : Playback} {s t : Machine} {rom : Rom} {file : Except FileError Rom}

theorem key_eq_some_iff {key : Int} {k : Key} : Key.ofInt? key = some k ↔ key = k.val := by
  rw [Key.ofInt?]
  constructor
  · intro h
    split at h
    next hrange =>
      cases h
      exact (Int.toNat_of_nonneg hrange.1).symm
    next => cases h
  · rintro rfl
    rw [dif_pos ⟨by omega, by omega⟩]
    rfl

/-- The program is put into a fresh machine, and then the key goes down. -/
theorem start_eq_ok_iff :
    p.start rom = .ok s ↔ ∃ s₀, (Machine.boot (.ofSeed p.seed)).load rom = .ok s₀ ∧
      (p.key? = none ∧ s = s₀ ∨ ∃ k : Key, p.key? = some (k.val : Int) ∧ s = s₀.press k) := by
  rw [start, bind_eq_ok]
  refine exists_congr fun s₀ => and_congr_right fun _ => ?_
  cases p.key? with
  | none =>
    constructor
    · rintro ⟨⟩
      exact .inl ⟨rfl, rfl⟩
    · rintro (⟨-, rfl⟩ | ⟨_, h, -⟩)
      · rfl
      · cases h
  | some key =>
    show s₀.pressInt key = .ok s ↔ _
    simp only [Machine.pressInt_eq_ok_iff, key_eq_some_iff, reduceCtorEq, false_and, false_or,
      Option.some.injEq]

/-- The start goes well for a program that fits and a key that exists. -/
theorem exists_start_iff :
    (∃ s, p.start rom = .ok s) ↔
      rom.length ≤ Rom.maxSize ∧ ∀ key, p.key? = some key → 0 ≤ key ∧ key < 16 := by
  simp only [start_eq_ok_iff, Machine.load_eq_ok_iff]
  constructor
  · rintro ⟨s, s₀, ⟨hrom, -⟩, hkey⟩
    refine ⟨hrom, fun key hsome => ?_⟩
    rcases hkey with ⟨hnone, -⟩ | ⟨k, hk, -⟩
    · cases hnone.symm.trans hsome
    · cases hk.symm.trans hsome
      exact ⟨by omega, by omega⟩
  · rintro ⟨hrom, hrange⟩
    cases hkey : p.key? with
    | none => exact ⟨_, _, ⟨hrom, rfl⟩, .inl ⟨rfl, rfl⟩⟩
    | some key =>
      obtain ⟨hlow, hhigh⟩ := hrange key hkey
      refine ⟨_, _, ⟨hrom, rfl⟩, .inr ⟨⟨key.toNat, by omega⟩, ?_, rfl⟩⟩
      exact congrArg some (Int.toNat_of_nonneg hlow).symm

/-- The cycles of a frame can be counted, once there are frames. -/
def Counted (p : Playback) : Prop := 0 < p.frames.toNat → p.cyclesPerFrame < signedBound 32

theorem InRange.isCounted {progress : Bool} (h : p.InRange progress s) : p.Counted :=
  fun hframes => h.counted (by omega)

/-- A playback comes to its end for a file that can be read, whatever its
name, if its cycles can be counted and its events go well. -/
theorem play_eq_ok_iff {path : String} :
    p.play path file = .ok t ↔
      ∃ rom s, file = .ok rom ∧ p.start rom = .ok s ∧ p.Counted ∧ s.replay p.events = .ok t := by
  constructor
  · intro h
    obtain ⟨rom, haccept, h⟩ := bind_eq_ok.1 h
    obtain ⟨s, hs, h⟩ := bind_eq_ok.1 h
    exact ⟨rom, s, (Rom.accept_eq_ok_iff.1 haccept).1, hs, Machine.runFrames_eq_ok_iff.1 h⟩
  · rintro ⟨rom, s, hfile, hs, ht⟩
    have haccept : Rom.accept path file = .ok rom :=
      Rom.accept_eq_ok_iff.2 ⟨hfile, (exists_start_iff.1 ⟨s, hs⟩).1⟩
    exact bind_eq_ok.2 ⟨rom, haccept, bind_eq_ok.2 ⟨s, hs, Machine.runFrames_eq_ok_iff.2 ht⟩⟩

/-- Whatever goes wrong in a playback is reported, if its cycles can be
counted when it comes to that. -/
theorem isReported_of_play {path : String} {e : Error}
    (hcounted : ∀ rom s, file = .ok rom → p.start rom = .ok s → p.Counted)
    (h : p.play path file = .error e) : (Obstacle.error e).isReported = true := by
  -- One case for each part of the playback: the file, the memory, the key and the frames.
  rcases bind_eq_error.1 h with h | ⟨rom, hrom, h⟩
  · cases file with
    | error why =>
      cases h
      rfl
    | ok content =>
      rw [Rom.accept] at h
      split at h <;> cases h
      rfl
  · rcases bind_eq_error.1 h with h | ⟨s, hs, h⟩
    · rcases bind_eq_error.1 h with h | ⟨s₀, -, h⟩
      · rw [Machine.load] at h
        split at h <;> cases h
        rfl
      · cases hkey : p.key? with
        | none =>
          rw [hkey] at h
          cases h
        | some key =>
          simp only [hkey, Machine.pressInt] at h
          split at h <;> cases h
          rfl
    · have hcount := hcounted rom s (Rom.accept_eq_ok_iff.1 hrom).1 hs
      obtain ⟨f, rfl⟩ := Machine.fault_of_runFrames hcount h
      rfl

/-- How a playback ends, as it is told by whether it comes to its end. -/
theorem ending_of_play (path : String)
    (hcounted : ∀ rom s, file = .ok rom → p.start rom = .ok s → p.Counted) :
    Ending.of ((p.play path file).mapError .error)
      = (p.play path file).toOption.elim (.finished 1 "")
          fun t => .finished 0 (Request.picture t.display) := by
  cases hplay : p.play path file with
  | error e => exact Request.of_error_of_isReported (isReported_of_play hcounted hplay)
  | ok t => rfl

/-- Whether a playback comes to its end, and with which machine, depends
on the bytes of the file, if they can be read, and on nothing else. -/
theorem toOption_play_eq {file' : Except FileError Rom} (h : file'.toOption = file.toOption)
    (path path' : String) : (p.play path' file').toOption = (p.play path file).toOption := by
  cases file' <;> cases file <;> cases h <;> rfl

/-- While the frames are run, the key that went down before stays down. -/
theorem key_of_start {k : Key} {u : Machine} {done rest : List Machine.Event}
    (hs : p.start rom = .ok s) (hk : p.key? = some (k.val : Int))
    (hevents : p.events = done ++ rest) (hu : s.replay done = .ok u) : u.key = .holding k := by
  have hframes : ∀ e ∈ done, e = .cycle ∨ e = .tick := by
    intro e he
    have hmem : e ∈ p.events := by
      rw [hevents]
      exact List.mem_append_left rest he
    exact Machine.mem_frameEvents hmem
  rw [Machine.key_of_replay hframes hu]
  obtain ⟨s₀, -, ⟨hnone, -⟩ | ⟨k', hk', rfl⟩⟩ := start_eq_ok_iff.1 hs
  · cases hnone.symm.trans hk
  · have hsame : k' = k := Fin.ext (Int.ofNat_inj.1 (Option.some.inj (hk'.symm.trans hk)))
    rw [hsame]
    rfl

end Playback

/-! ### Requests that ask for a playback -/

namespace Request

variable {r : Request} {p : Playback} {settings : Settings} {rom : Rom}
  {file : Except FileError Rom}

/-- A request for a playback has settings. -/
theorem Asks.exists_settings (hp : r.Asks p) (hw : r.Written) :
    ∃ settings, r.settings = .ok settings ∧ settings.cyclesPerFrame = p.cyclesPerFrame ∧
      settings.showProgress = r.progress := by
  rcases r.settings_cases with ⟨hcycles | ⟨c, hc, hle | hdigits⟩ | hlevel, -⟩ |
    ⟨settings, level, hs, hcycles, -, -, -, hprogress⟩
  · cases hp.cyclesPerFrame.symm.trans hcycles
  · have hpos := p.cyclesPerFrame_pos
    cases hp.cyclesPerFrame.symm.trans hc
    omega
  · cases (hw.cyclesPerFrame c hc).symm.trans hdigits
  · have hsome := hp.logLevel
    rw [hlevel] at hsome
    cases hsome
  · exact ⟨settings, hs, Int.ofNat_inj.1 (Option.some.inj (hcycles.symm.trans hp.cyclesPerFrame)),
      hprogress⟩

theorem Asks.hold_eq (hp : r.Asks p) {s₀ : Machine}
    (hload : (Machine.boot (.ofSeed p.seed)).load rom = .ok s₀) :
    r.hold s₀ = (p.start rom).mapError .error := by
  rw [hold, hp.key, Playback.start, hload]
  cases p.key? <;> rfl

/-- Numbers in range are no obstacle to the frames. -/
theorem Asks.framed_eq (hp : r.Asks p) (hw : r.Written) {s : Machine}
    (hcycles : settings.cyclesPerFrame = p.cyclesPerFrame)
    (hprogress : settings.showProgress = r.progress) (hrange : p.InRange r.progress s) :
    r.framed settings s = (s.runFrames p.cyclesPerFrame p.frames.toNat).mapError .error := by
  rcases framed_cases hw settings s with ⟨hnone, -⟩ | ⟨n, hn, ⟨hwide, -⟩ | ⟨-, hframed, -⟩⟩
  · cases hp.frames.symm.trans hnone
  · cases hp.frames.symm.trans hn
    rw [hprogress, hcycles] at hwide
    rcases hwide with ⟨hbar, hfits⟩ | ⟨hpos, hc⟩
    · exact absurd (hrange.drawn hbar) hfits
    · exact absurd (hrange.counted hpos) (Nat.not_lt.2 hc)
  · cases hp.frames.symm.trans hn
    rw [hframed, hcycles]

/-- What a request makes of a file is what its playback makes of it. -/
theorem Asks.play_eq (hp : r.Asks p) (hw : r.Written)
    (hcycles : settings.cyclesPerFrame = p.cyclesPerFrame)
    (hprogress : settings.showProgress = r.progress)
    (hrange : ∀ rom s, file = .ok rom → p.start rom = .ok s → p.InRange r.progress s) :
    r.play settings file = (p.play r.rom file).mapError .error := by
  rcases r.opened_cases file with ⟨rom, seed, s₀, hfile, hrom, hseed, -, hload, hopened⟩ |
    ⟨rom, o, -, -, hseed, -⟩ | ⟨e, -, haccept, hopened, -⟩
  · cases hp.seed.symm.trans hseed
    rw [play, hopened, Playback.play, Rom.accept_eq_ok_iff.2 ⟨hfile, hrom⟩]
    show (r.hold s₀ >>= fun s => r.framed settings s)
      = (p.start rom >>= fun s => s.runFrames p.cyclesPerFrame p.frames.toNat).mapError _
    rw [hp.hold_eq hload]
    cases hstart : p.start rom with
    | error e => rfl
    | ok s => exact hp.framed_eq hw hcycles hprogress (hrange rom s hfile hstart)
  · exact absurd p.seed_fits (hseed _ hp.seed)
  · rw [play, hopened, Playback.play, haccept]
    rfl

/-- The run of a request ends as its playback does, and reports what goes
wrong. -/
theorem Asks.run_eq (hp : r.Asks p) (hw : r.Written) (scene : Scene)
    (hrange : ∀ rom s, scene.files r.rom = .ok rom → p.start rom = .ok s →
      p.InRange r.progress s) :
    ∃ scene', (r.run : InScene Ending) scene
        = (.of ((p.play r.rom (scene.files r.rom)).mapError .error), scene') ∧
      ∀ e, p.play r.rom (scene.files r.rom) = .error e →
        ∃ lines, scene'.log = scene.log ++ Text.ofLines lines ++ s!"Error: {e.message}\n" := by
  obtain ⟨settings, hs, hcycles, hprogress⟩ := hp.exists_settings hw
  have hplay := hp.play_eq hw hcycles hprogress hrange
  obtain ⟨ending, scene', hrun, ⟨rfl, hlog⟩ | ⟨⟨settings', t, hs', ht⟩, hcount, -⟩⟩ :=
    run_inScene hw scene
  · rw [ending_eq_of hs, hplay] at hrun
    refine ⟨scene', hrun, fun e he => ?_⟩
    exact hlog settings (.error e) hs (by rw [hplay, he]; rfl)
      (Playback.isReported_of_play (fun rom s hfile hs => (hrange rom s hfile hs).isCounted) he)
  · -- All frames were run, so the number of their cycles is in range.
    cases hs.symm.trans hs'
    rw [hplay, mapError_eq_ok, Playback.play_eq_ok_iff] at ht
    obtain ⟨rom, s, hfile, hstart, -, ht⟩ := ht
    refine absurd ?_ hcount
    intro n c hn hc
    cases hp.frames.symm.trans hn
    cases hp.cyclesPerFrame.symm.trans hc
    exact (hrange rom s hfile hstart).summed ⟨t, ht⟩

end Request

/-- Arguments that ask for a playback whose numbers are in range end with
the code 0 or 1. The code is 0 just if the file can be read and fits in
memory, the key is one of the sixteen, and no frame goes wrong; then the
picture of the display after the frames is shown, with the key down from
the first frame to the last. Otherwise nothing is shown, and the last line
of the log tells the error. So two runs of one playback on the same bytes
have the same code and show the same, whatever the level of the log, the
bar and the clock. -/
theorem run_playback {arguments : List String} {r : Request} {p : Playback} (scene : Scene)
    (hr : Request.ofArguments arguments = .ok r) (hp : r.Asks p)
    (hrange : ∀ rom s, scene.files r.rom = .ok rom → p.start rom = .ok s →
      p.InRange r.progress s) :
    ∃ code output scene',
      (run arguments : InScene Ending) scene = (.finished code output, scene') ∧
      (code = 0 ∨ code = 1) ∧
      (code = 0 ↔ ∃ rom, scene.files r.rom = .ok rom ∧ rom.length ≤ 3584 ∧
        (∀ key, p.key? = some key → 0 ≤ key ∧ key < 16) ∧
        ∀ s f, p.start rom = .ok s → s.replay p.events ≠ .error f) ∧
      (code = 0 → ∃ rom s t, scene.files r.rom = .ok rom ∧ p.start rom = .ok s ∧
        s.replay p.events = .ok t ∧ output = Request.picture t.display) ∧
      (∀ rom s (k : Key), p.start rom = .ok s → p.key? = some (k.val : Int) →
        ∀ done rest u, p.events = done ++ rest → s.replay done = .ok u → u.key = .holding k) ∧
      (code = 1 → output = "" ∧ ∃ e lines, p.play r.rom (scene.files r.rom) = .error e ∧
        scene'.log = scene.log ++ Text.ofLines lines ++ s!"Error: {e.message}\n") ∧
      ∀ (arguments' : List String) (r' : Request) (scene₂ : Scene),
        Request.ofArguments arguments' = .ok r' → r'.Asks p →
        (scene₂.files r'.rom).toOption = (scene.files r.rom).toOption →
        (∀ rom s, scene₂.files r'.rom = .ok rom → p.start rom = .ok s →
          p.InRange r'.progress s) →
        ∃ scene₃, (run arguments' : InScene Ending) scene₂ = (.finished code output, scene₃) := by
  have hcounted : ∀ rom s, scene.files r.rom = .ok rom → p.start rom = .ok s → p.Counted :=
    fun rom s hfile hs => (hrange rom s hfile hs).isCounted
  obtain ⟨scene', hrun, hlog⟩ := hp.run_eq (Request.written_of_ofArguments hr) scene hrange
  rw [← run_of_ofArguments hr, Playback.ending_of_play r.rom hcounted] at hrun
  -- Another run of the playback has the same end, which is told by the bytes of the file.
  have htwo : ∀ (arguments' : List String) (r' : Request) (scene₂ : Scene),
      Request.ofArguments arguments' = .ok r' → r'.Asks p →
      (scene₂.files r'.rom).toOption = (scene.files r.rom).toOption →
      (∀ rom s, scene₂.files r'.rom = .ok rom → p.start rom = .ok s →
        p.InRange r'.progress s) →
      ∃ scene₃, (run arguments' : InScene Ending) scene₂
        = ((p.play r.rom (scene.files r.rom)).toOption.elim (.finished 1 "")
            fun t => .finished 0 (Request.picture t.display), scene₃) := by
    intro arguments' r' scene₂ hr' hp' hsame hrange'
    obtain ⟨scene₃, hrun', -⟩ := hp'.run_eq (Request.written_of_ofArguments hr') scene₂ hrange'
    have hcounted' : ∀ rom s, scene₂.files r'.rom = .ok rom → p.start rom = .ok s → p.Counted :=
      fun rom s hfile hs => (hrange' rom s hfile hs).isCounted
    rw [← run_of_ofArguments hr', Playback.ending_of_play r'.rom hcounted',
      Playback.toOption_play_eq hsame r.rom r'.rom] at hrun'
    exact ⟨scene₃, hrun'⟩
  cases hplay : p.play r.rom (scene.files r.rom) with
  | ok t =>
    rw [hplay] at hrun htwo
    obtain ⟨rom, s, hfile, hs, -, ht⟩ := Playback.play_eq_ok_iff.1 hplay
    obtain ⟨hfits, hkey⟩ := Playback.exists_start_iff.1 ⟨s, hs⟩
    refine ⟨0, _, scene', hrun, .inl rfl, ?_, fun _ => ⟨rom, s, t, hfile, hs, ht, rfl⟩,
      fun _ _ _ hs hk _ _ _ => Playback.key_of_start hs hk, nofun, htwo⟩
    refine iff_of_true rfl ⟨rom, hfile, hfits, hkey, fun s' f hs' hf => ?_⟩
    cases hs.symm.trans hs'
    cases ht.symm.trans hf
  | error e =>
    rw [hplay] at hrun htwo
    obtain ⟨lines, hlines⟩ := hlog e hplay
    refine ⟨1, "", scene', hrun, .inr rfl, ?_, nofun,
      fun _ _ _ hs hk _ _ _ => Playback.key_of_start hs hk, fun _ => ⟨rfl, e, lines, rfl, hlines⟩,
      htwo⟩
    -- A program that fits, with a key that exists, starts; so without a fault it would end.
    refine iff_of_false nofun fun ⟨rom, hfile, hfits, hkey, hfaultless⟩ => ?_
    obtain ⟨s, hs⟩ := Playback.exists_start_iff.2 ⟨hfits, hkey⟩
    cases ht : s.replay p.events with
    | error f => exact hfaultless s f hs ht
    | ok t =>
      have hplayed : p.play r.rom (scene.files r.rom) = .ok t :=
        Playback.play_eq_ok_iff.2 ⟨rom, s, hfile, hs, hcounted rom s hfile hs, ht⟩
      cases hplay.symm.trans hplayed

/-- A program that waits for a key and draws the digit on it. The key that
is held down reaches the program, and the code is 0. -/
theorem run_playback_key :
    let arguments := ["game.ch8", "--frames", "1", "--cycles-per-frame", "3", "--key", "8"]
    let rom : Rom := [0xF3, 0x0A, 0xF3, 0x29, 0xD0, 0x15]
    let scene : Scene := { files := fun _ => .ok rom }
    let p : Playback := ⟨1, 3, 0, some 8, by decide, by decide⟩
    ∃ r s t scene', Request.ofArguments arguments = .ok r ∧ r.Asks p ∧ p.start rom = .ok s ∧
      s.replay p.events = .ok t ∧ t.registers.get 3 = 8 ∧
      (run arguments : InScene Ending) scene
        = (.finished 0 (Request.picture t.display), scene') := by
  intro arguments rom scene p
  have hr : Request.ofArguments arguments = .ok
      ⟨"game.ch8", some 1, some 3, some 0, some (some 8), some .info, false⟩ := rfl
  have hp : Request.Asks
      ⟨"game.ch8", some 1, some 3, some 0, some (some 8), some .info, false⟩ p :=
    ⟨rfl, rfl, rfl, rfl, rfl⟩
  have hcheck : (p.start rom).toOption.any (fun s => (s.replay p.events).toOption.any
      fun t => t.registers.get 3 = 8) = true := by
    decide +kernel
  obtain ⟨s, hs, hcheck⟩ := ok_of_any hcheck
  obtain ⟨t, ht, hregister⟩ := ok_of_any hcheck
  have hcount : Double.Fits ((1 : Int).toNat * 3 : Nat) := by decide +kernel
  obtain ⟨code, output, scene', hrun, -, hcode, hshown, -⟩ := run_playback scene hr hp
    fun _ _ _ _ => ⟨nofun, fun _ => by decide, fun _ => hcount⟩
  have hzero : code = 0 := by
    refine hcode.2 ⟨rom, rfl, by decide, ?_, fun s' f hs' hf => ?_⟩
    · rintro _ ⟨⟩
      decide
    · cases hs.symm.trans hs'
      cases ht.symm.trans hf
  obtain ⟨_, s', t', ⟨⟩, hs', ht', rfl⟩ := hshown hzero
  cases hs.symm.trans hs'
  cases ht.symm.trans ht'
  exact ⟨_, s, t, scene', hr, hp, hs, ht, of_decide_eq_true hregister, hzero ▸ hrun⟩

/-- Frames of 2147483648 cycles are more than the counter can take, which
is not reported: the code is neither 0 nor 1, though the number of cycles
is positive and the seed fits. -/
theorem run_wideCycles_escapes :
    let arguments := ["game.ch8", "--cycles-per-frame", "2147483648"]
    let scene : Scene := { files := fun _ => .ok [0x00, 0xEE] }
    (∃ r, Request.ofArguments arguments = .ok r ∧ r.cyclesPerFrame = some 2147483648 ∧
        r.seed = some 0) ∧
      ¬∃ code output, ((run arguments : InScene Ending) scene).1 = .finished code output := by
  intro arguments scene
  let r : Request := ⟨"game.ch8", some 60, some 2147483648, some 0, none, some .info, false⟩
  have hr : Request.ofArguments arguments = .ok r := rfl
  refine ⟨⟨r, hr, rfl, rfl⟩, ?_⟩
  rintro ⟨code, output, h⟩
  have hescapes : r.Escapes (scene.files r.rom) := by
    refine .frames ⟨_, rfl, by decide⟩ nofun ?_
    rintro _ ⟨⟩
    exact .inr ⟨by decide, _, rfl, by decide⟩
  have hw := Request.written_of_ofArguments hr
  obtain ⟨o, ho⟩ := (Request.ending_escaped_iff hw).2 hescapes
  rw [run_of_ofArguments hr] at h
  obtain ⟨ending, scene', hrun, ⟨rfl, -⟩ | ⟨⟨settings, t, hsettings, hplay⟩, -⟩⟩ :=
    Request.run_inScene hw scene
  · rw [hrun, ho] at h
    cases h
  · rw [Request.ending_eq_of hsettings, hplay] at ho
    cases ho

end CommandLine

end Chip8
