import Chip8.CommandLine.Refusal

/-!
# `Chip8.CommandLine.Usage`: how to use the program

The texts that explain the command line: a short one that goes with a
refusal, and a long one for those who ask for help.
-/

set_option autoImplicit false

namespace Chip8.CommandLine

/-- The name of the program. -/
def programName : String := "chix8"

/-- The short explanation. -/
def usage : String :=
  "usage: chix8 [-h] [--frames FRAMES] [--cycles-per-frame CYCLES_PER_FRAME]\n" ++
  "             [--seed SEED] [--key KEY]\n" ++
  "             [--log-level \x7bDEBUG,INFO,WARNING,ERROR,OFF\x7d] [--progress]\n" ++
  "             rom\n"

/-- The long explanation. -/
def help : String :=
  usage ++
  "\n" ++
  "Run a CHIP-8 ROM headless and print the display.\n" ++
  "\n" ++
  "positional arguments:\n" ++
  "  rom                   Path to the CHIP-8 ROM\n" ++
  "\n" ++
  "options:\n" ++
  "  -h, --help            show this help message and exit\n" ++
  "  --frames FRAMES       Number of 60 Hz frames to run\n" ++
  "  --cycles-per-frame CYCLES_PER_FRAME\n" ++
  "                        Instructions retired per frame\n" ++
  "  --seed SEED           Seed for the random instruction\n" ++
  "  --key KEY             Hex key (0-F) held down for the whole run\n" ++
  "  --log-level \x7bDEBUG,INFO,WARNING,ERROR,OFF\x7d\n" ++
  "  --progress            Show a progress bar\n"

/-- The text that goes with a refusal. -/
def Refusal.explanation (r : Refusal) : String :=
  usage ++ programName ++ ": error: " ++ r.message ++ "\n"

end Chip8.CommandLine
