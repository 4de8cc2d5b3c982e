import Chip8.Console

/-!
# `Chip8.Proofs.Session.Lines`: the log grows line by line

Whatever a console does, it adds whole lines to the log and leaves the
files alone: the scene afterwards comes after the scene before
(`Scene.Grows`). A computation that always does so is `Orderly`. Two
orderly computations in a row are orderly (`orderly_bind`), so this is
shown once for each thing that a session asks of its surroundings, and
then carried along the definitions, up to `Console.orderly_perform`.
-/

set_option autoImplicit false

namespace Chip8

/-- The text that consists of the given lines. -/
def Text.ofLines (lines : List String) : String := String.join (lines.map (· ++ "\n"))

theorem Text.ofLines_append (lines more : List String) :
    ofLines (lines ++ more) = ofLines lines ++ ofLines more := by
  rw [ofLines, List.map_append, String.join_append]
  rfl

theorem Text.ofLines_singleton (line : String) : ofLines [line] = line ++ "\n" := by
  show "" ++ (line ++ "\n") = line ++ "\n"
  exact String.empty_append

/-- The scene `t` has the files of `s`, and its log is the log of `s` with
some lines added. -/
structure Scene.Grows (s t : Scene) : Prop where
  files : t.files = s.files
  log : ∃ lines, t.log = s.log ++ Text.ofLines lines

theorem Scene.grows_refl (s : Scene) : s.Grows s where
  files := rfl
  log := ⟨[], String.append_empty.symm⟩

theorem Scene.Grows.trans {s t u : Scene} (h : s.Grows t) (h' : t.Grows u) : s.Grows u where
  files := h'.files.trans h.files
  log := by
    obtain ⟨lines, hlines⟩ := h.log
    obtain ⟨more, hmore⟩ := h'.log
    exact ⟨lines ++ more, by rw [hmore, hlines, Text.ofLines_append, String.append_assoc]⟩

/-- In every scene the computation adds whole lines to the log, and does
nothing else to the log and the files. -/
def Orderly {α : Type} (x : InScene α) : Prop := ∀ scene : Scene, scene.Grows (x scene).2

section
variable {α β : Type} {x : InScene α} {f : α → InScene β}

theorem Orderly.grows {a : α} {scene scene' : Scene} (hx : Orderly x)
    (h : x scene = (a, scene')) : scene.Grows scene' := by
  have hgrows := hx scene
  rwa [h] at hgrows

theorem orderly_pure (a : α) : Orderly (pure a) := Scene.grows_refl

theorem orderly_bind (hx : Orderly x) (hf : ∀ a, Orderly (f a)) : Orderly (x >>= f) :=
  fun scene => (hx scene).trans (hf _ _)

theorem orderly_forM {γ : Type} {g : γ → InScene PUnit} (hg : ∀ c, Orderly (g c))
    (cs : List γ) : Orderly (cs.forM g) := by
  induction cs with
  | nil => exact orderly_pure _
  | cons c cs ih => exact orderly_bind (hg c) fun _ => ih

end

/-! ### The surroundings -/

theorem orderly_now : Orderly Surroundings.now := by
  intro scene
  obtain ⟨clock, hclock⟩ := scene.now_snd
  show scene.Grows (Scene.now scene).2
  rw [hclock]
  exact ⟨rfl, [], String.append_empty.symm⟩

theorem orderly_onTerminal : Orderly Surroundings.onTerminal := Scene.grows_refl

theorem orderly_readFile (path : String) : Orderly (Surroundings.readFile path) :=
  Scene.grows_refl

/-- A line that is reported is added to the log. -/
theorem orderly_report (line : String) : Orderly (Surroundings.report (line ++ "\n")) := by
  intro scene
  refine ⟨rfl, [line], ?_⟩
  show scene.log ++ (line ++ "\n") = _
  rw [Text.ofLines_singleton]

/-! ### The logger -/

namespace Log.Logger

theorem orderly_make (o : Options) : Orderly (make o) := by
  rw [make]
  cases Level.choose? o.level with
  | none => exact orderly_pure _
  | some level =>
    exact orderly_bind orderly_onTerminal fun _ => orderly_bind orderly_now fun _ => orderly_pure _

/-- A record is written as one line, with or without the time. -/
theorem orderly_write (lg : Logger) (r : Record) : Orderly (lg.write r) := by
  rw [write]
  split
  · refine orderly_bind orderly_now fun now => ?_
    rw [timedLine, untimedLine, ← String.append_assoc]
    exact orderly_report _
  · exact orderly_report _

theorem orderly_call (lg : Logger) (c : Call) : Orderly (lg.call c) :=
  orderly_bind (orderly_forM lg.orderly_write _) fun _ => orderly_pure _

end Log.Logger

/-! ### The console -/

theorem Rom.orderly_readFile (path : String) : Orderly (Rom.readFile path) := by
  refine orderly_bind (Chip8.orderly_readFile path) fun file => ?_
  cases file with
  | error why => exact orderly_pure _
  | ok rom => exact orderly_pure _

namespace Console

theorem orderly_readProgram (path : String) (entries : List (String × Log.Value))
    (lg : Log.Logger) : Orderly (readProgram path entries lg) := by
  refine orderly_bind (Rom.orderly_readFile path) fun file => ?_
  cases file with
  | error e => exact orderly_pure _
  | ok rom =>
    show Orderly (if Rom.maxSize < rom.length then _ else _)
    split
    · exact orderly_bind (lg.orderly_call _) fun _ => orderly_pure _
    · refine orderly_bind (lg.orderly_call _) fun logged => ?_
      cases logged with
      | error e => exact orderly_pure _
      | ok lg => exact orderly_bind (lg.orderly_call _) fun _ => orderly_pure _

theorem orderly_openWith (path : String) (settings : Settings) (lg : Log.Logger) :
    Orderly (openWith path settings lg) := by
  refine orderly_bind (orderly_readProgram path _ lg) fun file => ?_
  cases file with
  | error e => exact orderly_pure _
  | ok rom =>
    dsimp only
    cases Session.start settings rom with
    | error e => exact orderly_pure _
    | ok session => exact orderly_pure _

theorem orderly_note (c : Console) (elapsed : Seconds) (notice : Notice) :
    Orderly (c.note elapsed notice) := by
  refine orderly_bind (c.logger.orderly_call _) fun logged => ?_
  cases logged with
  | error e => exact orderly_pure _
  | ok lg => exact orderly_pure _

theorem orderly_startTime (command : Command) : Orderly (startTime command) := by
  cases command with
  | runFrames n => exact orderly_now
  | _ => exact orderly_pure _

theorem orderly_elapsedTime (started : Float) (notice : Notice) :
    Orderly (elapsedTime started notice) := by
  cases notice with
  | ran frames cycles => exact orderly_bind orderly_now fun _ => orderly_pure _
  | _ => exact orderly_pure _

/-- Whatever a console is told to do, only lines are added to the log. -/
theorem orderly_perform (c : Console) (command : Command) : Orderly (c.perform command) := by
  refine orderly_bind (orderly_startTime command) fun started => ?_
  cases hnotice : (c.session.perform command).notice with
  | none =>
    simp only [hnotice]
    exact orderly_pure _
  | some notice =>
    simp only [hnotice]
    exact orderly_bind (orderly_elapsedTime started notice) fun elapsed =>
      orderly_bind (orderly_note _ elapsed notice) fun _ => orderly_pure _

end Console

end Chip8
