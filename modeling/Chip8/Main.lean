import Chip8.CommandLine.Run

/-!
# `Chip8.Main`: the program

The command line in the real world: the log goes to standard error, the
picture to standard output, and files are read from disk.
-/

set_option autoImplicit false

namespace Chip8

/-- The number of a cause. Some systems give it with the sign changed. -/
def FileError.causeNumber (number : UInt32) : Nat :=
  if number < 0x80000000 then number.toNat else (-number).toNat

/-- The cause of a failure to read a file. -/
def FileError.ofSystem (e : IO.Error) : FileError :=
  match e with
  | .noFileOrDirectory _ _ _ => .missing
  | .inappropriateType _ number _ =>
    if causeNumber number = 20 then .notDirectory else .directory
  | .invalidArgument _ number reason =>
    if causeNumber number = 36 then .nameTooLong else .other (causeNumber number) reason
  | .permissionDenied _ number _ => .other (causeNumber number) "Permission denied"
  | e => .other 5 e.toString

/-- Reads a file from disk. -/
def readFromDisk (name : String) : IO (Except FileError Rom) := do
  if name.contains '\x00' then return .error .nulInName
  try
    return .ok (← IO.FS.readBinFile name).toList
  catch e => return .error (.ofSystem e)

instance : Surroundings IO where
  now := return (← IO.monoNanosNow).toFloat / 1000000000
  report text := do
    let stream ← IO.getStderr
    stream.putStr text
    stream.flush
  onTerminal := do
    let stream ← IO.getStderr
    stream.isTty
  readFile := readFromDisk

end Chip8

/-- Runs the command line and gives its exit code. -/
def main (arguments : List String) : IO UInt32 := do
  match ← (Chip8.CommandLine.run arguments : IO Chip8.CommandLine.Ending) with
  | .finished code output | .declined code output =>
    (← IO.getStdout).putStr output
    return UInt32.ofNat code
  | .escaped o =>
    (← IO.getStderr).putStr (o.message ++ "\n")
    return 1
