/-
Chip8.Timer.Inert — what a timer can be bound to but not count down.

A register file answers to more names than those of its counters: to that
of its byte registers as a whole, and to those under which every record
tells of itself. A timer can be bound to such a name and described; what
comes of using it hangs on the kind of what it is bound to.
-/
import Chip8.Notice
import Chip8.Timer

namespace Chip8.Timer

/-- Something that is no number, as a timer sees it. -/
structure Inert where
  /-- How it is written. -/
  text : String
  /-- What comes of asking whether it is above zero. -/
  compared : Notice
  /-- What comes of counting it down. -/
  counted : Notice
  /-- What comes of taking it as a number. -/
  taken : Notice
  /-- What comes of storing a number in its place, unless that goes well. -/
  stored : Option Notice := none

/-- The name of the byte registers as a whole. -/
def bytesName : String := "V"

/-- The byte registers as numerals, each as wide as the longest. -/
def byteNumerals (r : Registers) : List String :=
  let numerals := r.v.toList.map fun b => toString b.toNat
  let width := numerals.foldl (fun n text => max n text.length) 0
  numerals.map fun text => String.ofList (List.replicate (width - text.length) ' ') ++ text

/-- A list cut into pieces of a length; `fuel` bounds their number. -/
def pieces {α : Type} (length : Nat) : Nat → List α → List (List α)
  | 0, _ => []
  | _, [] => []
  | fuel + 1, items => items.take length :: pieces length fuel (items.drop length)

/-- The width of a page of text. -/
def pageWidth : Nat := 75

/-- The byte registers as text that tells what they are, in lines that fit
on a page. -/
def bytesTextInFull (r : Registers) : String :=
  let numerals := byteNumerals r
  let width := (numerals.map String.length).foldl max 0
  let lead := "array(["
  let margin := String.ofList (List.replicate lead.length ' ')
  let kind := "dtype=uint8)"
  let lines := (pieces ((pageWidth + 1 - lead.length) / (width + 2)) numerals.length numerals).map
    (", ".intercalate ·)
  let last := lead.length + (lines.getLastD "").length + 2
  let gap := if last + 1 + kind.length > pageWidth then "\n      " else " "
  lead ++ (",\n" ++ margin).intercalate lines ++ "]," ++ gap ++ kind

namespace Inert

/-- Something of a kind for which zero, numbers and counting mean nothing. -/
def ofKind (kind text : String) : Inert where
  text := text
  compared := .wrongKind s!"'>' not supported between instances of '{kind}' and 'int'"
  counted := .wrongKind s!"unsupported operand type(s) for -=: '{kind}' and 'int'"
  taken := .wrongKind <| "int() argument must be a string, a bytes-like object " ++
    s!"or a real number, not '{kind}'"

def ofText (text : String) : Inert :=
  { ofKind "str" text with taken := Notice.unreadable text .malformed }

/-- The byte registers as a whole. They are many numbers, of which none
speaks for the others. -/
def ofBytes (r : Registers) : Inert :=
  let ambiguous := Notice.wrongValue <| "The truth value of an array with more than one " ++
    "element is ambiguous. Use a.any() or a.all()"
  { text := "[" ++ " ".intercalate (byteNumerals r) ++ "]"
    compared := ambiguous
    counted := ambiguous
    taken := .wrongKind "only 0-dimensional arrays can be converted to Python scalars" }

/-- What the register file says of itself. -/
def documentation : String :=
  "\n    General registers V0-VF, index register I, program counter, stack\n" ++
  "    pointer and the two timer registers.\n\n" ++
  "    SP points at the topmost occupied stack slot, -1 when the stack is empty.\n    "

/-- The fields of the register file with their kinds. -/
def fieldKinds : List (String × String) :=
  let whole := "<class 'int'>"
  [("PC", whole), ("V", "numpy.ndarray[tuple[typing.Any, ...], numpy.dtype[numpy.uint8]]"),
    ("I", whole), ("SP", whole), ("delay", whole), ("sound", whole)]

/-- Entries in braces, each name in quotation marks. -/
def bracedText (entries : List (String × String)) : String :=
  let entryText := fun (name, text) => Text.Quoted.quote name ++ ": " ++ text
  "\x7b" ++ ", ".intercalate (entries.map entryText) ++ "\x7d"

/-- The register file as text, given the texts of its entries. -/
def recordText (entries : List (String × String)) : String :=
  let fields := entries.take fieldKinds.length
  "Registers(" ++ ", ".intercalate (fields.map fun (name, text) => s!"{name}={text}") ++ ")"

/-- What is under a name that every record has. `entries` are the fields of
the register file and what was added to them, as text. -/
def ofName? (entries : List (String × String)) (name : String) : Option Inert :=
  let fixed (inert : Inert) (stored : Notice) : Option Inert :=
    some { inert with stored := some stored }
  match name with
  | "__hash__" => some (ofKind "NoneType" "None")
  | "__weakref__" => fixed (ofKind "NoneType" "None")
      { kind := "AttributeError"
        message := "attribute '__weakref__' of 'Registers' objects is not writable" }
  | "__module__" => some (ofText "pychip8.state")
  | "__doc__" => some (ofText documentation)
  | "__class__" => fixed (ofKind "type" "<class 'pychip8.state.Registers'>")
      (.wrongKind "__class__ must be set to a class, not 'int' object")
  | "__dict__" => fixed (ofKind "dict" (bracedText entries))
      (.wrongKind "__dict__ must be set to a dictionary, not a 'int'")
  | "__annotations__" => some (ofKind "dict" (bracedText fieldKinds))
  | "__match_args__" =>
      let names := fieldKinds.map fun (name, _) => Text.Quoted.quote name
      some (ofKind "tuple" ("(" ++ ", ".intercalate names ++ ")"))
  | "__dataclass_params__" => some <| ofKind "_DataclassParams" <|
      "_DataclassParams(init=True,repr=True,eq=True,order=False,unsafe_hash=False,frozen=False)"
  | "__init__" | "__repr__" | "__eq__" =>
      let record := recordText entries
      some (ofKind "method" s!"<bound method Registers.{name} of {record}>")
  | _ => none

def updated (i : Inert) (period delta : Int) : Notice := if delta ≥ period then i.counted else i.taken

def reported (i : Inert) (notify : Bool) : Notice := if notify then i.compared else i.taken

end Inert

end Chip8.Timer
