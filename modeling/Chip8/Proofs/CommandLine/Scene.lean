import Chip8.Proofs.CommandLine.Play
import Chip8.Proofs.Session.Lines

/-!
# `Chip8.Proofs.CommandLine.Scene`: the command line in a scene

In a scene each part of a run gives what `Request.play` says, whatever it
logs and whatever time it is (`start_inScene`, `holdKey_inScene`,
`display_inScene`), and it only adds lines to the log (`orderly_display`).

The main statement is `Request.run_inScene`: a run has the end that
`Request.ending` gives it, and an error that is reported is the last line
of the log. There is one exception, a run that has carried out more cycles
than a double can hold: its summary may not be written. Which error that
is, and whether it is reported, depends on the time that has passed.
-/

set_option autoImplicit false

namespace Chip8.CommandLine

namespace Request

variable {r : Request} {settings : Settings}

/-! ### The run in a scene -/

theorem level_choose? (level : Log.Level) : Log.Level.choose? level.name = some level := by
  cases level <;> decide +kernel

/-- Opening the program gives a console for the machine at its start. -/
theorem start_inScene (hw : r.Written) (h : r.settings = .ok settings) (scene : Scene) :
    ∃ lg scene', (r.start settings : InScene _) scene
        = ((r.opened (scene.files r.rom)).map fun s =>
            { session := { settings, initial := s, machine := s }, logger := lg }, scene') ∧
      lg.kind = .sessions := by
  obtain ⟨-, ⟨level, -, hname⟩, hseed, -⟩ := of_settings_eq_ok h
  obtain ⟨lg, scene₁, hmake, hkind, -, hfiles, -⟩ := Log.Logger.make_inScene
    (o := { level := settings.logLevel }) scene (hname ▸ level_choose? level)
  rw [start, bind_inScene hmake, opened, ← hfiles]
  cases hseed' : r.seed with
  | some seed =>
    rw [hseed', Option.getD_some] at hseed
    obtain ⟨scene₂, hread⟩ := Console.readProgram_accept r.rom hkind
      (Settings.findSome?_entries (hseed.symm ▸ hw.seed seed hseed')) scene₁
    refine ⟨lg, scene₂, ?_, hkind⟩
    show ((Console.readProgram r.rom settings.entries lg >>= _) >>= _ : InScene _) scene₁ = _
    rw [bind_assoc, bind_inScene hread]
    cases Rom.accept r.rom (scene₁.files r.rom) with
    | error e => rfl
    | ok rom =>
      simp only [Session.start_eq, hseed]
      show _ = (Except.map _ (Except.mapError _ (Machine.ofSeed seed >>= fun s => s.load rom)), _)
      cases Machine.ofSeed seed >>= fun s => s.load rom <;> rfl
  | none =>
    -- Without a seed the program is read all the same, and the log shows an empty list.
    have hlist : (Log.Value.list []).unwritable? = none := by
      simp [Log.Value.unwritable?, Log.Value.numbers, Log.Value.itemNumbers]
    obtain ⟨scene₂, hread⟩ := Console.readProgram_accept r.rom hkind
      (settings.findSome?_entriesWith hlist) scene₁
    refine ⟨lg, scene₂, ?_, hkind⟩
    show (Console.readProgram r.rom (settings.entriesWith (.list [])) lg >>= _ : InScene _) scene₁
      = _
    rw [bind_inScene hread]
    cases Rom.accept r.rom (scene₁.files r.rom) <;> rfl

/-- Holding a key down leaves a console with the machine that holds it. -/
theorem holdKey_inScene (r : Request) (c : Console) (scene : Scene) :
    ∃ lg scene', (r.holdKey c : InScene _) scene
        = ((r.hold c.session.machine).map fun s =>
            { session := { c.session with machine := s }, logger := lg }, scene') ∧
      lg.kind = c.logger.kind := by
  rw [holdKey, hold]
  cases r.key with
  | none => exact ⟨c.logger, scene, rfl, rfl⟩
  | some key =>
    cases key with
    | none => exact ⟨c.logger, scene, rfl, rfl⟩
    | some key =>
      obtain ⟨elapsed, lg, scene', hperform, hkind, -⟩ := c.perform_elapsed (.press key) scene
      refine ⟨lg, scene', ?_, hkind⟩
      show (c.perform (.press key) >>= _ : InScene _) scene = _
      rw [bind_inScene hperform]
      -- A key that is pressed is worth no note, whether it exists or not.
      show _ = (Except.map _ (Except.mapError _ (c.session.machine.pressInt key)), _)
      simp only [Session.perform, Machine.pressInt]
      cases Key.ofInt? key <;> rfl

/-- Running the frames gives what becomes of the machine. Only if all of
them were run, the number of their cycles may be too large for the
summary. -/
theorem runFrames_inScene {c : Console} (hkind : c.logger.kind = .sessions) (n : Int)
    (scene : Scene) :
    let cycles := c.session.settings.cyclesPerFrame
    let played := c.session.machine.playFrames cycles n c.session.settings.showProgress
    ∃ c' scene' result, (c.perform (.runFrames n) : InScene _) scene = ((c', result), scene') ∧
      (result = played.map (fun t => some t.display) ∨
        (∃ t, played = .ok t) ∧ ¬Double.Fits (n.toNat * cycles : Nat) ∧
          ∃ e, (e = .tooWide (n.toNat * cycles : Nat) ∨ e = .notWritable (n.toNat * cycles : Nat)) ∧
            result = .error e) := by
  intro cycles played
  obtain ⟨elapsed, lg, scene', hperform, -, hdouble⟩ := c.perform_elapsed (.runFrames n) scene
  exact ⟨_, scene', _, hperform, Console.reported_runFrames hkind hdouble⟩

/-- The display that a run shows in the end is that of the machine, unless
the number of cycles is too large for the summary. -/
theorem display_inScene (hw : r.Written) (h : r.settings = .ok settings) (scene : Scene) :
    ∃ result scene', (r.display settings : InScene _) scene = (result, scene') ∧
      (result = (r.play settings (scene.files r.rom)).map (fun t => some t.display) ∨
        (∃ t, r.play settings (scene.files r.rom) = .ok t) ∧ ¬r.CountFits ∧
          ∃ v, result = .error (.error (.tooWide v)) ∨
            result = .error (.error (.notWritable v))) := by
  obtain ⟨hcycles, -, -, -⟩ := of_settings_eq_ok h
  obtain ⟨lg, scene₁, hstart, hkind⟩ := start_inScene hw h scene
  rw [display, bind_inScene hstart, play]
  cases r.opened (scene.files r.rom) with
  | error o => exact ⟨_, _, rfl, .inl rfl⟩
  | ok s₀ =>
    obtain ⟨lg₂, scene₂, hhold, hkind₂⟩ := r.holdKey_inScene
      { session := { settings, initial := s₀, machine := s₀ }, logger := lg } scene₁
    show ∃ result scene', (r.holdKey _ >>= _ : InScene _) scene₁ = _ ∧ _
    rw [bind_inScene hhold]
    show ∃ result scene', _ ∧ (result = Except.map _ (r.hold s₀ >>= fun s => r.framed settings s) ∨
      (∃ t, (r.hold s₀ >>= fun s => r.framed settings s) = .ok t) ∧ _)
    cases r.hold s₀ with
    | error o => exact ⟨_, _, rfl, .inl rfl⟩
    | ok s =>
      show ∃ result scene', _ ∧ (result = Except.map _ (r.framed settings s) ∨
        (∃ t, r.framed settings s = .ok t) ∧ _)
      rw [framed]
      cases hframes : r.frames with
      | none => exact ⟨_, _, rfl, .inl rfl⟩
      | some n =>
        obtain ⟨c', scene₃, result, hperform, hresult⟩ := runFrames_inScene
          (c := { session := { settings, initial := s₀, machine := s }, logger := lg₂ })
          (hkind₂.trans hkind) n scene₂
        refine ⟨result.mapError .error, scene₃, ?_, ?_⟩
        · show (Console.perform _ (.runFrames n) >>= _ : InScene _) scene₂ = _
          rw [bind_inScene hperform]
          rfl
        · show _ = Except.map _ (Except.mapError _ (s.playFrames settings.cyclesPerFrame n
            settings.showProgress)) ∨ _
          rcases hresult with rfl | ⟨⟨t, ht⟩, hwide, e, he, rfl⟩
          · left
            cases s.playFrames settings.cyclesPerFrame n settings.showProgress <;> rfl
          · refine .inr ⟨⟨t, mapError_eq_ok.2 ht⟩, fun hfits => hwide ?_,
              (n.toNat * settings.cyclesPerFrame : Nat), ?_⟩
            · exact hfits n _ hframes hcycles
            · rcases he with rfl | rfl
              · exact .inl rfl
              · exact .inr rfl

/-! ### The log of a run -/

theorem orderly_start (r : Request) (settings : Settings) : Orderly (r.start settings) := by
  refine orderly_bind (Log.Logger.orderly_make _) fun made => ?_
  cases made with
  | error e => exact orderly_pure _
  | ok lg =>
    dsimp only
    cases r.seed with
    | some seed =>
      exact orderly_bind (Console.orderly_openWith _ _ _) fun _ => orderly_pure _
    | none =>
      refine orderly_bind (Console.orderly_readProgram _ _ _) fun file => ?_
      cases file <;> exact orderly_pure _

theorem orderly_holdKey (r : Request) (c : Console) : Orderly (r.holdKey c) := by
  rw [holdKey]
  cases r.key with
  | none => exact orderly_pure _
  | some key =>
    cases key with
    | none => exact orderly_pure _
    | some key =>
      refine orderly_bind (c.orderly_perform _) fun pressed => ?_
      rcases pressed with ⟨c', e | shown⟩ <;> exact orderly_pure _

theorem orderly_display (r : Request) (settings : Settings) : Orderly (r.display settings) := by
  refine orderly_bind (r.orderly_start settings) fun opened => ?_
  cases opened with
  | error o => exact orderly_pure _
  | ok c =>
    refine orderly_bind (r.orderly_holdKey c) fun held => ?_
    cases held with
    | error o => exact orderly_pure _
    | ok c =>
      dsimp only
      cases r.frames with
      | none => exact orderly_pure _
      | some n => exact orderly_bind (c.orderly_perform _) fun _ => orderly_pure _

/-- What a run reports comes after the lines that it has logged, and is a
line of its own. -/
theorem conclude_inScene (result : Except Obstacle Machine) (scene : Scene) :
    ∃ scene', (conclude (result.map fun t => some t.display) : InScene _) scene
        = (.of result, scene') ∧
      ∀ o, result = .error o → o.isReported = true →
        scene'.log = scene.log ++ s!"Error: {o.message}\n" := by
  cases result with
  | ok t => exact ⟨scene, rfl, nofun⟩
  | error o =>
    cases o with
    | vacant v => exact ⟨scene, rfl, by rintro _ ⟨⟩ ⟨⟩⟩
    | error e =>
      cases e with
      | tooWide value => exact ⟨scene, rfl, by rintro _ ⟨⟩ ⟨⟩⟩
      | _ => exact ⟨_, rfl, by rintro _ ⟨⟩ -; rfl⟩

/-- A run has the end that the content of the file gives it. If an error
is reported, it is the last line of the log. Only a run that has come to
its end, with more cycles than a double can hold, may end otherwise. -/
theorem run_inScene (hw : r.Written) (scene : Scene) :
    ∃ ending scene', (r.run : InScene Ending) scene = (ending, scene') ∧
      (ending = r.ending (scene.files r.rom) ∧
          (∀ settings o, r.settings = .ok settings →
            r.play settings (scene.files r.rom) = .error o → o.isReported = true →
            ∃ lines, scene'.log = scene.log ++ Text.ofLines lines ++ s!"Error: {o.message}\n") ∨
        (∃ settings t, r.settings = .ok settings ∧
            r.play settings (scene.files r.rom) = .ok t) ∧ ¬r.CountFits ∧
          ∃ v, ending = .escaped (.error (.tooWide v)) ∨
            ending = .finished 1 "" ∧ ∃ lines, scene'.log = scene.log ++ Text.ofLines lines
              ++ s!"Error: {(Error.notWritable v).message}\n") := by
  rw [run, ending]
  cases hsettings : r.settings with
  | error o => exact ⟨_, scene, rfl, .inl ⟨rfl, by rintro _ _ ⟨⟩⟩⟩
  | ok settings =>
    obtain ⟨result, scene₁, hdisplay, hresult⟩ := display_inScene hw hsettings scene
    obtain ⟨lines, hlines⟩ := ((r.orderly_display settings).grows hdisplay).log
    show ∃ ending scene', (r.display settings >>= conclude : InScene _) scene = _ ∧ _
    rw [bind_inScene hdisplay]
    rcases hresult with rfl | ⟨⟨t, ht⟩, hcount, v, rfl | rfl⟩
    · -- The lines of the run come first, and then the line that `conclude` adds.
      obtain ⟨scene', hconclude, hlog⟩ :=
        conclude_inScene (r.play settings (scene.files r.rom)) scene₁
      refine ⟨_, scene', hconclude, .inl ⟨rfl, ?_⟩⟩
      rintro _ o ⟨⟩ ho hreported
      exact ⟨lines, by rw [hlog o ho hreported, hlines]⟩
    · exact ⟨_, scene₁, rfl, .inr ⟨⟨settings, t, rfl, ht⟩, hcount, v, .inl rfl⟩⟩
    · refine ⟨_, _, rfl, .inr ⟨⟨settings, t, rfl, ht⟩, hcount, v, .inr ⟨rfl, lines, ?_⟩⟩⟩
      rw [← hlines]

end Request

/-- Arguments that make up a request are run. -/
theorem run_of_ofArguments {arguments : List String} {r : Request}
    (h : Request.ofArguments arguments = .ok r) :
    (run arguments : InScene Ending) = r.run := by
  rw [run, h]

end Chip8.CommandLine
