/-
Chip8.Machine.Fault — what can go wrong while a machine runs.

A `Fault` is a cause, with the numbers that describe it. Six causes are
the program's own doing (`Fault.isProgram`): a running machine stops on
them and reports them. The others need a machine that was put together
from values no program can produce, or a host that broke its side of the
contract; they are not caught by the scheduler.

`Fault.kind` and `Fault.message` are the name and the wording under which
a cause is reported.
-/
import Chip8.Number.Allocation
import Chip8.Text.Hex

namespace Chip8

/-- The number of bytes an instruction takes. -/
def instructionSize : Nat := 2

/-- The number of call frames a machine can hold. -/
def stackDepth : Nat := 16

/-- Causes of failure of a machine operation. -/
inductive Fault where
  /-- No whole instruction lies at the program counter. -/
  | fetchOutOfBounds (pc : Int)
  /-- A transfer of `count` bytes from `start` leaves the memory. -/
  | accessOutOfBounds (start : Int) (count size : Nat)
  /-- A call with every stack slot taken. -/
  | stackOverflow (pc : Int)
  /-- A return with no call open. -/
  | stackUnderflow (pc : Int)
  /-- A word that is no instruction. -/
  | illegalInstruction (word : Int) (pc : Int)
  /-- A program longer than the memory above its start. -/
  | programTooLarge (size limit : Int)
  /-- A value stored in a byte register that is no byte. -/
  | notAByte (value : Int)
  /-- A return address that does not fit a stack slot. -/
  | notAWord (value : Int)
  /-- A place that a register file, stack or picture of `size` does not have. -/
  | noSuchPlace (place : Int) (size : Nat)
  /-- Bytes written by hand to a span of memory of another length. -/
  | spanMismatch (given room : Nat)
  /-- A memory or picture for whose cells there is no room. -/
  | noRoom (shortage : Number.Shortage)
  /-- A key the keypad does not have. -/
  | noSuchKey
  /-- A coordinate on a screen without columns or rows. -/
  | emptyScreen
  /-- A registered frame listener that cannot be called. -/
  | deadListener
deriving DecidableEq, Repr

namespace Fault

/-- Whether the fault is the running program's own doing. -/
def isProgram : Fault → Bool
  | .fetchOutOfBounds _ | .accessOutOfBounds .. | .stackOverflow _ | .stackUnderflow _
  | .illegalInstruction .. | .programTooLarge .. => true
  | _ => false

/-- The address a fault is reported at, where it has one. -/
def address? : Fault → Option Int
  | .fetchOutOfBounds pc | .stackOverflow pc | .stackUnderflow pc
  | .illegalInstruction _ pc => some pc
  | .accessOutOfBounds start .. => some start
  | _ => none

/-- The numbers a fault is reported with, by name. -/
def numbers (f : Fault) : List (String × Int) :=
  let address := (f.address?.map fun a => ("address", a)).toList
  address ++ match f with
    | .illegalInstruction word _ => [("instruction", word)]
    | .programTooLarge size limit => [("size", size), ("limit", limit)]
    | _ => []

/-- The name of the kind of a fault, as it is reported. -/
def kind : Fault → String
  | .fetchOutOfBounds _ | .accessOutOfBounds .. => "OutOfBoundsError"
  | .stackOverflow _ => "StackOverflowError"
  | .stackUnderflow _ => "StackUnderflowError"
  | .illegalInstruction .. => "IllegalInstructionError"
  | .programTooLarge .. => "ProgramSizeError"
  | .notAByte _ | .notAWord _ => "OverflowError"
  | .noSuchPlace place _ => if Number.isUnsignedOnly place then "OverflowError" else "IndexError"
  | .spanMismatch .. => "ValueError"
  | .noRoom shortage => shortage.kind
  | .noSuchKey => "IndexError"
  | .emptyScreen => "ZeroDivisionError"
  | .deadListener => "TypeError"

def message : Fault → String
  | .fetchOutOfBounds pc => s!"Instruction fetch out of bounds at ${Text.Hex.padded 4 pc}"
  | .accessOutOfBounds start count size =>
      let stop := start + count - 1
      s!"Memory access ${Text.Hex.padded 4 start}-${Text.Hex.padded 4 stop} exceeds {size} bytes"
  | .stackOverflow _ => s!"CALL exceeds stack depth of {stackDepth}"
  | .stackUnderflow _ => "RET with an empty call stack"
  | .illegalInstruction word pc =>
      s!"Illegal instruction 0x{Text.Hex.padded 4 word} at 0x{Text.Hex.padded 3 pc}"
  | .programTooLarge size limit =>
      s!"Program is too large. Expected up to {limit} bytes, got {size}"
  | .notAByte value => Number.misfitText "uint8" value
  | .notAWord value => Number.misfitText "uint16" value
  | .noSuchPlace place size => Number.noPlaceText place size
  | .spanMismatch given room =>
      s!"could not broadcast input array from shape ({given},) into shape ({room},)"
  | .noRoom shortage => shortage.message
  | .noSuchKey => "tuple index out of range"
  | .emptyScreen => "integer modulo by zero"
  | .deadListener => "Callback None is not Callable"

end Fault

end Chip8
