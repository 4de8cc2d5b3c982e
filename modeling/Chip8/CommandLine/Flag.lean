/-!
# `Chip8.CommandLine.Flag`: the flags of the command line

A flag starts with dashes. Some flags are followed by a value
(`Valued`), the others stand alone. A flag with two dashes may be cut
short as long as no other flag starts the same way; `Flag.startingWith`
finds the flags that a shortened one can mean.
-/

set_option autoImplicit false

namespace Chip8.CommandLine

/-- The flags that are followed by a value. -/
inductive Valued where
  /-- How many frames to run. -/
  | frames
  /-- How many cycles a frame takes. -/
  | cyclesPerFrame
  /-- The seed of the random source. -/
  | seed
  /-- The key to hold down. -/
  | key
  /-- The least level that is logged. -/
  | logLevel
deriving DecidableEq, Repr

/-- A flag of the command line. -/
inductive Flag where
  /-- Asks for help. -/
  | help
  /-- Is followed by a value. -/
  | valued (v : Valued)
  /-- Shows how far the run has come. -/
  | progress
deriving DecidableEq, Repr

/-- The name of a flag that is followed by a value. -/
def Valued.name : Valued → String
  | frames => "--frames"
  | cyclesPerFrame => "--cycles-per-frame"
  | seed => "--seed"
  | key => "--key"
  | logLevel => "--log-level"

namespace Flag

/-- All flags. -/
def all : List Flag :=
  [help, valued .frames, valued .cyclesPerFrame, valued .seed, valued .key, valued .logLevel,
   progress]

/-- The name of a flag with two dashes. -/
def name : Flag → String
  | help => "--help"
  | valued v => v.name
  | progress => "--progress"

/-- The name of a flag with one dash. -/
def shortName? : Flag → Option String
  | help => some "-h"
  | _ => none

/-- All names of a flag, as they stand in a message. -/
def label (f : Flag) : String :=
  match f.shortName? with
  | some short => short ++ "/" ++ f.name
  | none => f.name

/-- The flag with exactly the given name. -/
def named? (s : String) : Option Flag :=
  all.find? fun f => f.name == s || f.shortName? == some s

/-- The flags whose name with two dashes starts with the given text. -/
def startingWith (start : List Char) : List Flag :=
  all.filter fun f => start.isPrefixOf f.name.toList

end Flag

end Chip8.CommandLine
