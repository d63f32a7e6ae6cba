/-
Chip8.Notice — errors as they are reported.

A notice has a kind, a wording and numbers by name. A fault has one, and
one can be put together from the name of a kind and values. The kinds of
faults then take two values each, and what is wrong with the values is
itself told by a notice; every other kind takes any values and has them
as its wording.
-/
import Chip8.Log.Message
import Chip8.Machine.Fault
import Chip8.Number.Numeral

namespace Chip8

/-- An error as it is reported. -/
structure Notice where
  kind : String
  message : String
  numbers : List (String × Int) := []
deriving DecidableEq, Repr

namespace Notice

def ofFault (f : Fault) : Notice := { kind := f.kind, message := f.message, numbers := f.numbers }

/-- The notice that a value is of a wrong kind. -/
def wrongKind (message : String) : Notice := { kind := "TypeError", message }

/-- The notice that a value is not what it should be. -/
def wrongValue (message : String) : Notice := { kind := "ValueError", message }

/-- The kinds that take two values. -/
inductive Pair where
  | illegalInstruction | programSize
  /-- An error at an address, by the name of its kind. -/
  | place (name : String)
deriving DecidableEq, Repr

namespace Pair

/-- What a name stands for, if it is that of a kind that takes two values. -/
def ofName? : String → Option Pair
  | "IllegalInstructionError" => some .illegalInstruction
  | "ProgramSizeError" => some .programSize
  | "OutOfBoundsError" => some (.place "OutOfBoundsError")
  | "StackOverflowError" => some (.place "StackOverflowError")
  | "StackUnderflowError" => some (.place "StackUnderflowError")
  | _ => none

/-- Where the values of a kind are taken. -/
def constructor : Pair → String
  | .illegalInstruction => "IllegalInstructionError.__init__()"
  | .programSize => "ProgramSizeError.__init__()"
  | .place _ => "OutOfBoundsError.__init__()"

def parameters : Pair → String × String
  | .illegalInstruction => ("instruction", "address")
  | .programSize => ("size", "limit")
  | .place _ => ("message", "address")

/-- The notice that there are not two values. -/
def miscounted (p : Pair) (given : Nat) : Notice :=
  let (first, second) := p.parameters
  let place := p.constructor
  wrongKind <| match given with
    | 0 => s!"{place} missing 2 required positional arguments: '{first}' and '{second}'"
    | 1 => s!"{place} missing 1 required positional argument: '{second}'"
    | n => s!"{place} takes 3 positional arguments but {n + 1} were given"

end Pair

/-- What is wrong with a value that is to be written in hexadecimal. -/
def hexProblem? (v : Value) : Option Notice :=
  let kind := v.kind
  match v with
  | .int _ | .bool _ => none
  | .text _ | .float _ =>
      some (wrongValue s!"Unknown format code 'X' for object of type '{kind}'")
  | _ => some (wrongKind s!"unsupported format string passed to {kind}.__format__")

/-- The notice that a text is no decimal numeral. Of a long text only the
front is shown. -/
def unreadable (text : String) : Number.Numeral.Unreadable → Notice
  | .tooManyDigits digits => wrongValue (Number.unreadableText digits)
  | .malformed =>
      let shown := String.ofList ((Text.Quoted.quote text).toList.take 200)
      wrongValue s!"invalid literal for int() with base 10: {shown}"

/-- A value as a whole number; a number with a fraction is cut. -/
def whole (v : Value) : Except Notice Int :=
  let kind := v.kind
  match v with
  | .int n => .ok n
  | .bool b => .ok (if b then 1 else 0)
  | .float x =>
      match x.whole? with
      | some n => .ok n
      | none =>
          .error <| if x.isInfinite then
            { kind := "OverflowError", message := "cannot convert float infinity to integer" }
          else wrongValue "cannot convert float NaN to integer"
  | .text s => (Number.Numeral.decimal s).mapError (unreadable s)
  | _ => .error (wrongKind <| "int() argument must be a string, a bytes-like object " ++
      s!"or a real number, not '{kind}'")

/-- The notice of a kind that takes two values. -/
def ofPair (p : Pair) (first second : Value) : Except Notice Notice :=
  match p with
  | .illegalInstruction => do
      match (hexProblem? first).or (hexProblem? second) with
      | some problem => throw problem
      | none => return ofFault (.illegalInstruction (← whole first) (← whole second))
  | .programSize => do
      let (size, limit) := (first.plain, second.plain)
      return {
        kind := "ProgramSizeError"
        message := s!"Program is too large. Expected up to {limit} bytes, got {size}"
        numbers := [("size", ← whole first), ("limit", ← whole second)] }
  | .place kind => do
      return { kind, message := first.plain, numbers := [("address", ← whole second)] }

/-- The wording of a kind that takes any values. -/
def wording : List Value → String
  | [] => ""
  | [v] => v.plain
  | vs => Log.Message.rowText vs

/-- The notice of a kind given by name, with its values. -/
def make (kind : String) (values : List Value) : Notice :=
  match Pair.ofName? kind, values with
  | none, values => { kind, message := wording values }
  | some p, [first, second] =>
      match ofPair p first second with
      | .ok n | .error n => n
  | some p, values => p.miscounted values.length

end Notice

end Chip8
