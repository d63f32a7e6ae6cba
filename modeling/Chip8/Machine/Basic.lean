/-
Chip8.Machine.Basic — the machine state and the loading of programs.

A `Machine` owns all that a program can change: registers, memory, call
stack and picture. A fresh machine has the font at the bottom of its
memory and everything else zero. `load` copies a program above
`programStart` and touches no other byte.

An operation on a machine is an `Attempt`: it leaves a machine, or a
fault together with the machine as the fault found it.

The range of its registers is kept by every operation
(`Proofs.Machine.Range`).
-/
import Chip8.Machine.Font
import Chip8.Machine.Frame

namespace Chip8

/-- The size of a machine's memory. -/
def memorySize : Nat := 4096

/-- The width of a machine's screen. -/
def screenWidth : Nat := 64

/-- The height of a machine's screen. -/
def screenHeight : Nat := 32

/-- The longest program that fits into a machine's memory. -/
def maxProgramSize : Nat := memorySize - programStart

/-- All that a running program can change. -/
structure Machine where
  registers : Registers := {}
  memory : Memory := (Memory.zeros memorySize).writeAll 0 Font.bytes
  stack : Vector Word 16 := Vector.replicate 16 0
  frame : Frame := Frame.dark screenWidth screenHeight
deriving DecidableEq

/-- A fault, with the machine as it was left when the fault arose. -/
structure Halted where
  fault : Fault
  machine : Machine
deriving DecidableEq

/-- The result of a machine operation. -/
abbrev Attempt := Except Halted Machine

namespace Machine

/-- Fail with `fault`, leaving the machine as it is. -/
def halt (m : Machine) (fault : Fault) : Attempt := .error ⟨fault, m⟩

/-- The machine with its registers changed by `f`. -/
def mapRegisters (m : Machine) (f : Registers → Registers) : Machine :=
  { m with registers := f m.registers }

/-- The most bytes a program may have to fit this memory. It is negative where
the memory ends before programs start, so that not even an empty one fits. -/
def programLimit (m : Machine) : Int := m.memory.size - programStart

/-- Copy a program into memory at `programStart`. -/
def load (m : Machine) (program : List Byte) : Attempt :=
  if (program.length : Int) > m.programLimit then
    m.halt (.programTooLarge program.length m.programLimit)
  else .ok { m with memory := m.memory.writeAll programStart program }

def clearScreen (m : Machine) : Machine := { m with frame := m.frame.clear }

/-- The stack slot that a slot number stands for: numbers below zero count
from the top end. -/
def slotOf (slot : Int) : Except Fault Index :=
  match Index.ofInt? (if slot < 0 then slot + 16 else slot) with
  | some s => .ok s
  | none => .error (.noSuchPlace slot stackDepth)

end Machine

end Chip8
