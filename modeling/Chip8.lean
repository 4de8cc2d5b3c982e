import Chip8.Alu
import Chip8.CallStack
import Chip8.CommandLine.Flag
import Chip8.CommandLine.Refusal
import Chip8.CommandLine.Request
import Chip8.CommandLine.Run
import Chip8.CommandLine.Token
import Chip8.CommandLine.Usage
import Chip8.Console
import Chip8.Display
import Chip8.Double
import Chip8.Error
import Chip8.Failure
import Chip8.Fault
import Chip8.Field
import Chip8.Font
import Chip8.Instruction
import Chip8.Keypad
import Chip8.Log.Level
import Chip8.Log.Logger
import Chip8.Log.Value
import Chip8.Machine.Basic
import Chip8.Machine.Batch
import Chip8.Machine.Execute
import Chip8.Machine.Host
import Chip8.Machine.Load
import Chip8.Machine.Run
import Chip8.Main
import Chip8.Memory
import Chip8.Picture
import Chip8.ProgressBar
import Chip8.Proofs.CommandLine.Escapes
import Chip8.Proofs.CommandLine.Play
import Chip8.Proofs.CommandLine.Playback
import Chip8.Proofs.CommandLine.Reading
import Chip8.Proofs.CommandLine.Scene
import Chip8.Proofs.Log.Calls
import Chip8.Proofs.Log.Filter
import Chip8.Proofs.Machine.Accesses
import Chip8.Proofs.Machine.Arithmetic
import Chip8.Proofs.Machine.Batch
import Chip8.Proofs.Machine.Blocked
import Chip8.Proofs.Machine.CallReturn
import Chip8.Proofs.Machine.Cycle
import Chip8.Proofs.Machine.Decode
import Chip8.Proofs.Machine.Digits
import Chip8.Proofs.Machine.Drawing
import Chip8.Proofs.Machine.Failures
import Chip8.Proofs.Machine.Faults
import Chip8.Proofs.Machine.Fields
import Chip8.Proofs.Machine.Footprint
import Chip8.Proofs.Machine.Frames
import Chip8.Proofs.Machine.Host
import Chip8.Proofs.Machine.InBounds
import Chip8.Proofs.Machine.Interleaving
import Chip8.Proofs.Machine.Output
import Chip8.Proofs.Machine.PendingReturns
import Chip8.Proofs.Machine.RandomStream
import Chip8.Proofs.Machine.Reads
import Chip8.Proofs.Machine.Replay
import Chip8.Proofs.Machine.RunUntilFrame
import Chip8.Proofs.Machine.StoreLoad
import Chip8.Proofs.Machine.StraightLine
import Chip8.Proofs.Machine.Strokes
import Chip8.Proofs.Machine.Timers
import Chip8.Proofs.Machine.Unnoticed
import Chip8.Proofs.Machine.Within
import Chip8.Proofs.Picture
import Chip8.Proofs.Session.Blocked
import Chip8.Proofs.Session.Budget
import Chip8.Proofs.Session.Console
import Chip8.Proofs.Session.Contribution
import Chip8.Proofs.Session.FrameByFrame
import Chip8.Proofs.Session.Ledger
import Chip8.Proofs.Session.Lines
import Chip8.Proofs.Session.Loading
import Chip8.Proofs.Session.Lockstep
import Chip8.Proofs.Session.Reset
import Chip8.Proofs.Session.RunFrames
import Chip8.Proofs.Session.Timers
import Chip8.Proofs.Session.Waiting
import Chip8.Random
import Chip8.Registers
import Chip8.Session
import Chip8.Settings
import Chip8.Surroundings
import Chip8.Text.Fixed
import Chip8.Text.Numeral
import Chip8.Text.Printable
import Chip8.Text.Quoted
import Chip8.Time
import Chip8.Width
import Chip8.Word
