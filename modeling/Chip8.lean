import Chip8.Clock
import Chip8.Files
import Chip8.Instruction.Basic
import Chip8.Instruction.Pattern
import Chip8.Instruction.Word
import Chip8.Keypad.Control
import Chip8.Keypad.KeyName
import Chip8.Log.HeldFile
import Chip8.Log.Journal
import Chip8.Log.Message
import Chip8.Log.Record
import Chip8.Machine.Arithmetic
import Chip8.Machine.Basic
import Chip8.Machine.Edit
import Chip8.Machine.Fault
import Chip8.Machine.Flow
import Chip8.Machine.Font
import Chip8.Machine.Frame
import Chip8.Machine.Memory
import Chip8.Machine.Registers
import Chip8.Machine.Transfer
import Chip8.Main
import Chip8.Notice
import Chip8.Number.Allocation
import Chip8.Number.Binary64
import Chip8.Number.ByteSize
import Chip8.Number.Decimal
import Chip8.Number.Layout
import Chip8.Number.Numeral
import Chip8.Number.Range
import Chip8.Processor.Basic
import Chip8.Processor.Trace
import Chip8.Proofs.Instruction.Assembly
import Chip8.Proofs.Instruction.Coding
import Chip8.Proofs.Instruction.Disassembly
import Chip8.Proofs.Instruction.Table
import Chip8.Proofs.Keypad.LastMove
import Chip8.Proofs.Keypad.Mapping
import Chip8.Proofs.Log.Conservation
import Chip8.Proofs.Machine.Drawing
import Chip8.Proofs.Machine.Flipping
import Chip8.Proofs.Machine.Loading
import Chip8.Proofs.Machine.Operations
import Chip8.Proofs.Machine.Range
import Chip8.Proofs.Machine.Stamping
import Chip8.Proofs.Machine.Transfer
import Chip8.Proofs.Number.Rounding
import Chip8.Proofs.Processor.Arithmetic
import Chip8.Proofs.Processor.Atomicity
import Chip8.Proofs.Processor.Audience
import Chip8.Proofs.Processor.CallStack
import Chip8.Proofs.Processor.Clockwork
import Chip8.Proofs.Processor.Dispatch
import Chip8.Proofs.Processor.Effects
import Chip8.Proofs.Processor.Failure
import Chip8.Proofs.Processor.Footprint
import Chip8.Proofs.Processor.History
import Chip8.Proofs.Processor.KeyWait
import Chip8.Proofs.Processor.Perform
import Chip8.Proofs.Processor.Rendering
import Chip8.Proofs.Processor.Run
import Chip8.Proofs.Processor.Safety
import Chip8.Proofs.Processor.Slicing
import Chip8.Proofs.Processor.Step
import Chip8.Proofs.Processor.Substitution
import Chip8.Proofs.Processor.Succession
import Chip8.Proofs.Processor.Timekeeping
import Chip8.Proofs.Processor.Tracing
import Chip8.Proofs.Scheduler.Accounting
import Chip8.Proofs.Scheduler.Course
import Chip8.Proofs.Scheduler.Iteration
import Chip8.Proofs.Scheduler.Order
import Chip8.Proofs.Scheduler.Outcome
import Chip8.Proofs.Scheduler.Rate
import Chip8.Proofs.Scheduler.Script
import Chip8.Proofs.Scheduler.Tone
import Chip8.Proofs.Screen.Layout
import Chip8.Proofs.Session.Audio
import Chip8.Proofs.Session.Frequency
import Chip8.Proofs.Session.Stage
import Chip8.Proofs.Settings.Accepted
import Chip8.Proofs.Settings.Keyboard
import Chip8.Proofs.Settings.Laying
import Chip8.Proofs.Settings.Merge
import Chip8.Proofs.Settings.Outcome
import Chip8.Proofs.Settings.Table
import Chip8.Proofs.Sound.Build
import Chip8.Proofs.Sound.Shape
import Chip8.Proofs.Sound.Tone
import Chip8.Proofs.Stopwatch.Elapsed
import Chip8.Proofs.Text.Hex
import Chip8.Proofs.Timer.CatchUp
import Chip8.Proofs.Timer.ClosedForm
import Chip8.Proofs.Timer.Countdown
import Chip8.Proofs.Timer.Locality
import Chip8.Proofs.Timer.Slicing
import Chip8.Proofs.Toml.Tidy
import Chip8.Rom
import Chip8.Scheduler
import Chip8.Screen.Display
import Chip8.Screen.Offscreen
import Chip8.Session
import Chip8.Settings.Defaults
import Chip8.Settings.Entry
import Chip8.Settings.Load
import Chip8.Settings.Merge
import Chip8.Settings.Validation
import Chip8.Settings.Value
import Chip8.Sound.Beeper
import Chip8.Sound.Wave
import Chip8.Stopwatch
import Chip8.Text.Blank
import Chip8.Text.Case
import Chip8.Text.CodePoint
import Chip8.Text.Hex
import Chip8.Text.Printable
import Chip8.Text.Quoted
import Chip8.Text.WordCharacter
import Chip8.Timer
import Chip8.Timer.Bindings
import Chip8.Timer.Inert
import Chip8.Toml.Demand
import Chip8.Toml.Depth
import Chip8.Toml.Document
import Chip8.Toml.Namespace
import Chip8.Toml.Scalar
import Chip8.Toml.Scan
