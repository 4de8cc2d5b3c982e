import Chip8.Surroundings

/-!
# `Chip8.Machine.Load`: a program from a file

A program is the content of a file. `Machine.load` puts it in memory or
says that it does not fit; `Machine.loadFile` reads the file first.
-/

set_option autoImplicit false

namespace Chip8

variable {m : Type → Type} [Monad m] [Surroundings m]

/-- The program in the file `path`. -/
def Rom.readFile (path : String) : m (Except Error Rom) := do
  match ← Surroundings.readFile path with
  | .ok rom => return .ok rom
  | .error why => return .error (.unreadable path why)

namespace Machine

/-- The machine with a program put at `Rom.start`, or an error if the
program does not fit there. -/
def load (s : Machine) (rom : Rom) : Except Error Machine :=
  match s.loadRom? rom with
  | some s => .ok s
  | none => .error (.romTooLarge rom.length)

/-- The machine with the program in the file `path` put at
`Rom.start`. -/
def loadFile (s : Machine) (path : String) : m (Except Error Machine) := do
  match ← Rom.readFile path with
  | .ok rom => return s.load rom
  | .error e => return .error e

end Machine

end Chip8
