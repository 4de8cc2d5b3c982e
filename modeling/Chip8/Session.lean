import Chip8.Machine.Host
import Chip8.ProgressBar
import Chip8.Settings

/-!
# `Chip8.Session`: a program run by a host

A session is a machine with a program in it, and counts of the frames
and cycles it has run. The host drives it by commands. What a command
does is a pure function, `Session.perform`: it gives the session
afterwards, what is shown or what went wrong, and what is worth a note
in the log.

A command that fails leaves the session as it was. Only a run of several
frames keeps the frames that came before the failing one.
-/

set_option autoImplicit false

namespace Chip8

/-- A machine with a program in it, run by a host. -/
structure Session where
  /-- How the session is run. -/
  settings : Settings
  /-- The machine as it was when the program was loaded. -/
  initial : Machine
  /-- The machine as it is. -/
  machine : Machine
  /-- The number of frames run. -/
  frames : Nat := 0
  /-- The number of cycles run. -/
  cycles : Nat := 0

/-- What a host can ask for. -/
inductive Command where
  /-- Run one frame and count the timers down. -/
  | stepFrame
  /-- Run until the program completes a frame, within the budget that
  the settings give. -/
  | waitForFrame
  /-- Run the given number of frames. -/
  | runFrames (n : Int)
  /-- Press the key with the given number. -/
  | press (key : Int)
  /-- Release the key. -/
  | release
  /-- Count the timers down. -/
  | tick
  /-- Start the program afresh. -/
  | reset
deriving DecidableEq, Repr

/-- Something worth a note in the log. -/
inductive Notice where
  /-- The program went wrong in a batch of cycles that began at `pc`. -/
  | fault (pc : Nat) (f : Fault)
  /-- The budget was spent without a frame. -/
  | noFrame (cycles : Nat)
  /-- The frames asked for were run, which took so many cycles. -/
  | ran (frames : Int) (cycles : Nat)
  /-- The program was started afresh. -/
  | reset
deriving DecidableEq, Repr

/-- What a command led to. -/
structure Outcome where
  /-- The session after the command. -/
  session : Session
  /-- The display to show, if any, or what went wrong. -/
  result : Except Error (Option Display)
  /-- What is worth a note in the log. -/
  notice : Option Notice := none

namespace Session

/-- A session with a program at its start. -/
def start (settings : Settings) (rom : Rom) : Except Error Session := do
  let machine ← Machine.ofSeed settings.seed
  let machine ← machine.load rom
  return { settings, initial := machine, machine }

/-- Whether the tone sounds. -/
def soundActive (s : Session) : Bool := 0 < s.machine.sound

/-- Runs one frame: its cycles, then one tick of the timers. -/
def stepFrame (s : Session) : Except Error Session := do
  let machine ← s.machine.runCycles s.settings.cyclesPerFrame
  return { s with
    machine := machine.tick
    frames := s.frames + 1
    cycles := s.cycles + s.settings.cyclesPerFrame }

/-- Runs frames up to the first that goes wrong, and says what went
wrong with that one. -/
def stepFrames (s : Session) : Nat → Session × Option Error
  | 0 => (s, none)
  | n + 1 =>
    match s.stepFrame with
    | .ok s => s.stepFrames n
    | .error e => (s, some e)

/-- Runs until the program completes a frame, within the budget that
the settings give, and tells the number of cycles it took. -/
def waitForFrame (s : Session) : Except Error (Session × Nat) := do
  let (machine, cycles) ← s.machine.runWithin s.settings.maxCyclesPerFrame
  return ({ s with machine, cycles := s.cycles + cycles }, cycles)

/-- The session at the start of its program again. -/
def restart (s : Session) : Session := { s with machine := s.initial, frames := 0, cycles := 0 }

/-- The outcome of a command that the session `s` could not carry out. A
fault is worth a note, which tells where the batch of cycles began. -/
def failed (s : Session) (e : Error) : Outcome where
  session := s
  result := .error e
  notice :=
    match e with
    | .fault f => some (.fault s.machine.pc.toNat f)
    | _ => none

/-- The outcome that shows the display of the session `s`. -/
def shown (s : Session) (notice : Option Notice) : Outcome :=
  { session := s, result := .ok (some s.machine.display), notice }

/-- What a command does. -/
def perform (s : Session) : Command → Outcome
  | .stepFrame =>
    match s.stepFrame with
    | .ok t => t.shown none
    | .error e => s.failed e
  | .waitForFrame =>
    match s.waitForFrame with
    | .ok (t, cycles) =>
      if t.machine.frameReady then t.shown none
      else { session := t, result := .ok none, notice := some (.noFrame cycles) }
    | .error e => s.failed e
  | .runFrames n =>
    -- Once the bar is made, closing it cannot go wrong: `ProgressBar.close_advance`.
    match ProgressBar.start n none s.settings.showProgress 0 with
    | .error e => s.failed e
    | .ok _ =>
      match s.stepFrames n.toNat with
      | (t, none) => t.shown (some (.ran n (t.cycles - s.cycles)))
      | (t, some e) => t.failed e
  | .press key =>
    match s.machine.pressInt key with
    | .ok machine => { session := { s with machine }, result := .ok none }
    | .error e => s.failed e
  | .release => { session := { s with machine := s.machine.release }, result := .ok none }
  | .tick => { session := { s with machine := s.machine.tick }, result := .ok none }
  | .reset => s.restart.shown (some .reset)

end Session

end Chip8
