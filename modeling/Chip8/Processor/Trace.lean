/-
Chip8.Processor.Trace — the recent history of a processor.

One line for each instruction, written before it is executed: address,
word, disassembly, index register, stack pointer and byte registers. The
trace keeps the last `Trace.capacity` lines.

That these are the last lines of a run is proved in
`Proofs.Processor.History`.
-/
import Chip8.Instruction.Pattern

namespace Chip8

/-- The last lines of a history, oldest first. -/
structure Trace where
  lines : Array String := #[]
deriving DecidableEq

namespace Trace

/-- How many lines are kept. -/
def capacity : Nat := 1024

/-- Add a line; the oldest one goes if there are too many. -/
def push (t : Trace) (line : String) : Trace :=
  if t.lines.size < capacity then ⟨t.lines.push line⟩
  else ⟨(t.lines.push line).extract (t.lines.size + 1 - capacity) (t.lines.size + 1)⟩

def toList (t : Trace) : List String := t.lines.toList

/-- Text filled up with blanks on the right to a width. -/
def filled (width : Nat) (text : String) : String :=
  text ++ String.ofList (List.replicate (width - text.length) ' ')

/-- The line for a word about to be executed. -/
def line (r : Registers) (w : Word) : String :=
  let hex := Text.Hex.padded
  let v := " ".intercalate (r.v.toList.map fun b => hex 2 b.toNat)
  s!"{hex 3 r.pc}: {hex 4 w.toNat} {filled 16 (Pattern.disassemble w)} | I: {hex 3 r.i} " ++
    s!"| SP: {r.sp} | V: {v}"

end Trace

end Chip8
