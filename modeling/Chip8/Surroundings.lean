import Chip8.Error

/-!
# `Chip8.Surroundings`: the world around a session

A session looks at a clock, reads a file and writes log text. It does so
through `Surroundings`, so the same session runs in the real world and
in a `Scene`, where the clock is a list of readings, the files are given,
and the log is kept as a value.
-/

set_option autoImplicit false

namespace Chip8

/-- What a session asks of the world around it. -/
class Surroundings (m : Type → Type) where
  /-- The time in seconds. -/
  now : m Float
  /-- Writes text to the log. -/
  report : String → m Unit
  /-- Whether the log is shown on a terminal. -/
  onTerminal : m Bool
  /-- The bytes of the file with the given name. -/
  readFile : String → m (Except FileError Rom)

/-- A world that is known in advance. -/
structure Scene where
  /-- The coming readings of the clock. The last one repeats for ever;
  with none at all the clock stands at zero. -/
  clock : List Float := []
  /-- The log text so far. -/
  log : String := ""
  /-- Whether the log is shown on a terminal. -/
  terminal : Bool := false
  /-- The files. -/
  files : String → Except FileError Rom := fun _ => .error .missing

/-- A computation inside a scene. -/
abbrev InScene := StateM Scene

/-- The next reading of the clock, and the scene after it. -/
def Scene.now (s : Scene) : Float × Scene :=
  match s.clock with
  | [] => (0, s)
  | [t] => (t, s)
  | t :: ts => (t, { s with clock := ts })

/-- Looking at the clock changes nothing but the clock. -/
theorem Scene.now_snd (s : Scene) : ∃ clock, s.now.2 = { s with clock } := by
  rw [now]
  split
  · exact ⟨s.clock, rfl⟩
  · exact ⟨s.clock, rfl⟩
  · exact ⟨_, rfl⟩

instance : Surroundings InScene where
  now := Scene.now
  report text s := ((), { s with log := s.log ++ text })
  onTerminal s := (s.terminal, s)
  readFile name s := (s.files name, s)

end Chip8
