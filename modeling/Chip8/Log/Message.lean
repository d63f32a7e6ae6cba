/-
Chip8.Log.Message — filling values into message templates.

A template is text with conversions: a percent sign, the name of a field
in parentheses or nothing, flags, a width, a precision and a letter. They
take their values by name from a table, or one after the other from a
list; a star for the width or the precision takes a value too. `s`, `r`
and `a` write any value, as it is, quoted, or quoted in ASCII; `d`, `x`
and `o` write whole numbers, `e`, `f` and `g` any numbers, `c` a
character. Two percent signs stand for one. A character may be given by
any code point, so that what comes out is a line of code points.
-/
import Chip8.Settings.Value
import Chip8.Text.Blank
import Chip8.Text.WordCharacter

namespace Chip8

mutual

/-- A value as it is written inside others: text in quotation marks. -/
def Value.quoted : Value → String
  | .null => "None"
  | .bool b => if b then "True" else "False"
  | .int n => toString n
  | .float x => Number.Layout.plain x
  | .text s => Text.Quoted.quote s
  | .moment m => m.iso
  | .list items => "[" ++ ", ".intercalate (quotedItems items) ++ "]"
  | .table entries => "\x7b" ++ ", ".intercalate (quotedEntries entries) ++ "\x7d"

def quotedItems : List Value → List String
  | [] => []
  | v :: rest => v.quoted :: quotedItems rest

def quotedEntries : List (String × Value) → List String
  | [] => []
  | (k, v) :: rest => (Text.Quoted.quote k ++ ": " ++ v.quoted) :: quotedEntries rest

end

/-- A value as it is written on its own: text as it is. -/
def Value.plain : Value → String
  | .text s => s
  | v => v.quoted

namespace Log.Message

open Text (CodePoint Line)

/-- Something to fill in: a value, a line, or values side by side. -/
inductive Datum where
  | value (v : Value)
  | line (points : Line)
  | row (values : List Value)

/-- Values side by side, in parentheses; a comma follows a single one. -/
def rowText : List Value → String
  | [v] => s!"({v.quoted},)"
  | values => "(" ++ ", ".intercalate (values.map Value.quoted) ++ ")"

def Datum.plain : Datum → Line
  | .value v => Line.ofText v.plain
  | .line points => points
  | .row values => Line.ofText (rowText values)

/-- A datum as it is written inside others. -/
def Datum.quoted : Datum → List Char
  | .value v => v.quoted.toList
  | .line points => (Text.Quoted.quoteLine points).toList
  | .row values => (rowText values).toList

def Datum.kind : Datum → String
  | .value v => v.kind
  | .line _ => "str"
  | .row _ => "tuple"

/-- Data by name. -/
abbrev Fields := List (String × Datum)

def Fields.ofTable (t : Table) : Fields := t.map fun (k, v) => (k, .value v)

/-- What can be wrong with a template and its values. -/
inductive Misfit where
  | tooFew
  | tooMany
  | incomplete
  | incompleteKey
  | missing (key : String)
  | missingField (key : String)
  | notATemplate (template : String)
  | notAMapping
  | unsupported (letter : Char) (index : Nat)
  | notReal (letter : Char) (kind : String)
  | notWhole (letter : Char) (kind : String)
  | notFloat (kind : String)
  | notCharacter
  | characterRange
  | infinite
  | undefined
  | doubleRange
  | starNotWhole
  | starRange (size : String)
  | widthTooBig
  | precisionTooBig
  /-- More digits of a whole number than its text can have. -/
  | precisionTooLarge
  /-- There is no memory for a text of the width. -/
  | noRoom
deriving DecidableEq, Repr

def Misfit.message : Misfit → String
  | .tooFew => "not enough arguments for format string"
  | .tooMany => "not all arguments converted during string formatting"
  | .incomplete => "incomplete format"
  | .incompleteKey => "incomplete format key"
  | .missing key => Text.Quoted.quote key
  | .missingField key => "Formatting field not found in record: " ++ Text.Quoted.quote key
  | .notATemplate template => s!"Invalid format '{template}' for '%' style"
  | .notAMapping => "format requires a mapping"
  | .unsupported letter index =>
      let code := (Text.Hex.padded 0 letter.toNat).toLower
      let shown := if 31 ≤ letter.toNat ∧ letter.toNat < 127 then letter else '?'
      s!"unsupported format character '{shown}' (0x{code}) at index {index}"
  | .notReal letter kind => s!"%{letter} format: a real number is required, not {kind}"
  | .notWhole letter kind => s!"%{letter} format: an integer is required, not {kind}"
  | .notFloat kind => s!"must be real number, not {kind}"
  | .notCharacter => "%c requires int or char"
  | .characterRange => "%c arg not in range(0x110000)"
  | .infinite => "cannot convert float infinity to integer"
  | .undefined => "cannot convert float NaN to integer"
  | .doubleRange => "int too large to convert to float"
  | .starNotWhole => "* wants int"
  | .starRange size => s!"Python int too large to convert to C {size}"
  | .widthTooBig => "width too big"
  | .precisionTooBig => "precision too big"
  | .precisionTooLarge => "precision too large"
  | .noRoom => ""

/-- A conversion taken apart. -/
structure Conversion where
  left : Bool := false
  zeros : Bool := false
  plus : Bool := false
  blank : Bool := false
  alternate : Bool := false
  width : Nat := 0
  precision : Option Nat := none

/-- What a template is filled from: the fields that are asked by name, if
there are any, and the data that come next. -/
structure Supply where
  fields : Option Fields
  next : List Datum

def Supply.take (s : Supply) : Except Misfit (Datum × Supply) :=
  match s.next with
  | [] => .error .tooFew
  | v :: rest => .ok (v, { s with next := rest })

def Supply.select (fields : Fields) (key : String) : Except Misfit Supply :=
  match fields.lookup key with
  | some v => .ok { fields, next := [v] }
  | none => .error (.missing key)

/-- The name of a field in parentheses, which may be nested. -/
def takeKey : Nat → List Char → List Char → Option (String × List Char)
  | _, _, [] => none
  | 0, read, ')' :: rest => some (String.ofList read.reverse, rest)
  | depth + 1, read, ')' :: rest => takeKey depth (')' :: read) rest
  | depth, read, '(' :: rest => takeKey (depth + 1) ('(' :: read) rest
  | depth, read, c :: rest => takeKey depth (c :: read) rest

/-- A field by its name in parentheses, if the conversion has one. -/
def takeField (s : Supply) : List Char → Except Misfit (Supply × List Char)
  | '(' :: rest =>
      match s.fields, takeKey 0 [] rest with
      | none, _ => .error .notAMapping
      | some _, none => .error .incompleteKey
      | some fields, some (key, rest) => do
          let s ← Supply.select fields key
          return (s, rest)
  | cs => .ok (s, cs)

def takeFlags (c : Conversion) : List Char → Conversion × List Char
  | '-' :: rest => takeFlags { c with left := true } rest
  | '0' :: rest => takeFlags { c with zeros := true } rest
  | '+' :: rest => takeFlags { c with plus := true } rest
  | ' ' :: rest => takeFlags { c with blank := true } rest
  | '#' :: rest => takeFlags { c with alternate := true } rest
  | cs => (c, cs)

def takeNumber (cs : List Char) : Nat × List Char :=
  let digits := cs.takeWhile Char.isDigit
  (digits.foldl (fun n d => n * 10 + (d.toNat - 48)) 0, cs.drop digits.length)

/-- A number as it is; other than whole ones do not count. -/
def exactWhole? : Datum → Option Int
  | .value (.int n) => some n
  | .value (.bool b) => some (if b then 1 else 0)
  | _ => none

/-- A whole number between minus the limit and below it, taken for a star. -/
def Supply.takeStar (s : Supply) (limit : Nat) (size : String) :
    Except Misfit (Int × Supply) := do
  let (v, s) ← s.take
  match exactWhole? v with
  | none => .error .starNotWhole
  | some n => if -limit ≤ n ∧ n < limit then .ok (n, s) else .error (.starRange size)

/-- A width; one below zero moves the text to the left. The sixty-four bits
with a sign that hold it have no opposite of the least number. -/
def takeWidth (s : Supply) (c : Conversion) :
    List Char → Except Misfit (Supply × Conversion × List Char)
  | '*' :: rest => do
      let (n, s) ← s.takeStar (Number.twoTo 63) "ssize_t"
      let width := (Int.bmod n.natAbs (Number.twoTo 64)).toNat
      return (s, { c with width, left := c.left || n < 0 }, rest)
  | cs =>
      let (n, rest) := takeNumber cs
      if n < Number.twoTo 63 then .ok (s, { c with width := n }, rest) else .error .widthTooBig

/-- A precision behind a point; one below zero counts as zero. -/
def takePrecision (s : Supply) (c : Conversion) :
    List Char → Except Misfit (Supply × Conversion × List Char)
  | '.' :: '*' :: rest => do
      let (n, s) ← s.takeStar (Number.twoTo 31) "int"
      return (s, { c with precision := some n.toNat }, rest)
  | '.' :: cs =>
      let (n, rest) := takeNumber cs
      if n < Number.twoTo 31 then .ok (s, { c with precision := some n }, rest)
      else .error .precisionTooBig
  | cs => .ok (s, c, cs)

/-- The letter of a conversion; a mark of size before it means nothing. -/
def takeLetter : List Char → Except Misfit (Char × List Char)
  | 'h' :: c :: rest | 'l' :: c :: rest | 'L' :: c :: rest => .ok (c, rest)
  | ['h'] | ['l'] | ['L'] | [] => .error .incomplete
  | c :: rest => .ok (c, rest)

/-- A line filled up with blanks to the width, or with zeros behind a sign
and base mark of the given length. -/
def pad (memory : Number.Room) (c : Conversion) (zeros : Bool) (lead : Nat) (line : Line) :
    Except Misfit Line :=
  let lacking (filler : Char) : Line :=
    List.replicate (c.width - line.length) (.ofChar filler)
  if !memory.grants c.width then .error .noRoom
  else if c.left then .ok (line ++ lacking ' ')
  else if zeros then .ok (line.take lead ++ lacking '0' ++ line.drop lead)
  else .ok (lacking ' ' ++ line)

/-- A line cut to the precision and filled up with blanks. -/
def cut (memory : Number.Room) (c : Conversion) (line : Line) : Except Misfit Line :=
  pad memory c false 0 ((c.precision.map line.take).getD line)

def lineOf (chars : List Char) : Line := chars.map CodePoint.ofChar

def signOf (c : Conversion) (negative : Bool) : List Char :=
  if negative then ['-'] else if c.plus then ['+'] else if c.blank then [' '] else []

/-- The most digits of a whole number: with a sign and a base mark they are
still counted in thirty-one bits. -/
def maxPrecision : Nat := 0x7FFFFFFC

/-- A whole number with its digits and base mark. -/
def wholeText (memory : Number.Room) (c : Conversion) (n : Int) (digits mark : List Char) :
    Except Misfit Line :=
  if c.precision.getD 0 > maxPrecision then .error .precisionTooLarge
  else if !memory.grants (c.precision.getD 0) then .error .noRoom else
  let digits := List.replicate (c.precision.getD 0 - digits.length) '0' ++ digits
  let lead := signOf c (n < 0) ++ (if c.alternate then mark else [])
  pad memory c c.zeros lead.length (lineOf (lead ++ digits))

/-- The digits of a whole number in octal. -/
def octal (n : Nat) : List Char := Nat.toDigits 8 n

def toDouble (v : Datum) : Except Misfit Number.Binary64 :=
  match v, exactWhole? v with
  | .value (.float x), _ => .ok x
  | _, some n =>
      let x := Number.Binary64.ofRatio (n < 0) n.natAbs 1
      if x.ratio?.isSome then .ok x else .error .doubleRange
  | _, none => .error (.notFloat v.kind)

def toWhole (letter : Char) (v : Datum) : Except Misfit Int :=
  match v, exactWhole? v with
  | _, some n => .ok n
  | .value (.float x), none =>
      match x.whole? with
      | some n => .ok n
      | none => .error (if x.isInfinite then .infinite else .undefined)
  | _, none => .error (.notReal letter v.kind)

/-- A line of one code point, or the number of one. -/
def toCodePoint (v : Datum) : Except Misfit CodePoint :=
  match exactWhole? v with
  | some n =>
      match CodePoint.ofInt? n with
      | some p => .ok p
      | none => .error .characterRange
  | none =>
      if v.kind ≠ "str" then .error .notCharacter
      else match v.plain with
        | [p] => .ok p
        | _ => .error .notCharacter

/-- A value by a conversion with the given letter at the given place. -/
def convert (memory : Number.Room) (c : Conversion) (letter : Char) (index : Nat) (v : Datum) :
    Except Misfit Line :=
  match letter with
  | 's' => cut memory c v.plain
  | 'r' => cut memory c (lineOf v.quoted)
  | 'a' => cut memory c (lineOf (v.quoted.flatMap Text.Quoted.ascii))
  | 'd' | 'i' | 'u' => do
      let n ← toWhole letter v
      wholeText memory c n (Number.numeral n.natAbs) []
  | 'x' | 'X' | 'o' =>
      match exactWhole? v with
      | none => .error (.notWhole letter v.kind)
      | some n =>
          let upper := Text.Hex.digits n.natAbs
          match letter with
          | 'x' => wholeText memory c n (upper.map Char.toLower) ['0', 'x']
          | 'X' => wholeText memory c n upper ['0', 'X']
          | _ => wholeText memory c n (octal n.natAbs) ['0', 'o']
  | 'e' | 'E' | 'f' | 'F' | 'g' | 'G' => do
      let x ← toDouble v
      let layout : Number.Layout :=
        { precision := some (c.precision.getD 6), type := some letter, alternate := c.alternate }
      let text ← (layout.write memory x).mapError fun _ => .noRoom
      let body := text.toList.dropWhile (· == '-')
      let lead := signOf c (x.negative && x.unsigned ≤ Number.Binary64.infinityBits)
      pad memory c c.zeros lead.length (lineOf (lead ++ body))
  | 'c' => do
      let p ← toCodePoint v
      pad memory c false 0 [p]
  | _ => .error (.unsupported letter index)

/-- Fill a template, given the number of the characters before it, what it
is filled from and the line so far, last code point first. A conversion
takes at least one character, so that the number of characters suffices
for fuel. -/
def fillFrom (memory : Number.Room) : Nat → Nat → Supply → Line → List Char → Except Misfit Line
  | _, _, s, done, [] =>
      if s.fields.isNone && !s.next.isEmpty then .error .tooMany else .ok done.reverse
  | 0, _, _, _, _ :: _ => .error .incomplete
  | fuel + 1, index, s, done, '%' :: '%' :: rest =>
      fillFrom memory fuel (index + 2) s (.ofChar '%' :: done) rest
  | fuel + 1, index, s, done, '%' :: rest => do
      let (s, behind) ← takeField s rest
      let (c, behind) := takeFlags {} behind
      let (s, c, behind) ← takeWidth s c behind
      let (s, c, behind) ← takePrecision s c behind
      let (letter, behind) ← takeLetter behind
      let letterIndex := index + (rest.length - behind.length)
      let (v, s) ← s.take
      let text ← convert memory c letter letterIndex v
      fillFrom memory fuel (letterIndex + 1) s (text.reverse ++ done) behind
  | fuel + 1, index, s, done, c :: rest =>
      fillFrom memory fuel (index + 1) s (.ofChar c :: done) rest

/-- A template with its values filled in. -/
def fill (memory : Number.Room) (template : String) (s : Supply) : Except Misfit Line :=
  let cs := template.toList
  fillFrom memory cs.length 0 s [] cs

/-- A message and its arguments. Without arguments the message is taken as
it is; a single table that is not empty gives values by name. -/
def compose (memory : Number.Room) (message : String) : List Value → Except Misfit Line
  | [] => .ok (Line.ofText message)
  | [.table (e :: rest)] =>
      let whole := Datum.value (.table (e :: rest))
      fill memory message { fields := some (.ofTable (e :: rest)), next := [whole] }
  | values => fill memory message { fields := none, next := values.map .value }

/-- Whether a character is a decimal digit of any script. -/
def isDecimal (c : Char) : Bool := (Text.Blank.decimalValue? c).isSome

def dropSize : List Char → List Char
  | '*' :: rest => rest
  | cs => cs.dropWhile isDecimal

/-- Whether a character can be the letter of a field's conversion: the
letters of conversions and the percent sign, upper and lower case and
letters that differ from one of them only in that alike. -/
def isFieldLetter (c : Char) : Bool :=
  "diouxefgcrsa%\u0130\u0131\u017F".toList.contains c.toLower

/-- Whether a text begins with a conversion of a field whose name is a
word. -/
def startsWithField : List Char → Bool
  | '%' :: '(' :: rest =>
      let name := rest.takeWhile Text.WordCharacter.isWord
      match rest.drop name.length with
      | ')' :: behind =>
          let behind := dropSize (behind.dropWhile "#0+ -".toList.contains)
          let ending := match behind with
            | '.' :: size => if dropSize size = size then [] else dropSize size
            | _ => behind
          !name.isEmpty && ending.head?.any isFieldLetter
      | _ => false
  | _ => false

/-- Whether a text has the conversion of a field somewhere. -/
def hasField : List Char → Bool
  | [] => false
  | c :: rest => startsWithField (c :: rest) || hasField rest

/-- The names of the levels of a log file with the name that is written
for each, and their weights. -/
def levels : List (String × String × Int) :=
  [ ("CRITICAL", "CRITICAL", 50), ("FATAL", "CRITICAL", 50), ("ERROR", "ERROR", 40),
    ("WARNING", "WARNING", 30), ("WARN", "WARNING", 30), ("INFO", "INFO", 20),
    ("DEBUG", "DEBUG", 10), ("NOTSET", "NOTSET", 0) ]

/-- The fields that a record of a plain message leaves empty: where it was
written and what went wrong. -/
def emptyFields : List String := ["exc_info", "exc_text", "stack_info", "funcName"]

/-- The arguments of a message as a field: side by side, but a single
table that is not empty as it is. -/
def argumentsField : List Value → Datum
  | [.table (e :: rest)] => .value (.table (e :: rest))
  | values => .row values

/-- The fields of a record: its level by name and weight, the name of the
log, and the message as it was given, with its arguments, and as it is
composed. -/
def recordFields (level name given : String) (arguments : List Value) (message : Line) : Fields :=
  let (level, weight) := (levels.lookup level).getD (level, 0)
  [("levelname", .value (.text level)), ("levelno", .value (.int weight)),
    ("name", .value (.text name)), ("msg", .value (.text given)),
    ("args", argumentsField arguments), ("message", .line message)]
    ++ emptyFields.map fun field => (field, .value .null)

/-- Whether a text can be the template of a log file: it must have the
conversion of a field. -/
def checkTemplate (template : String) : Except Misfit Unit :=
  if hasField template.toList then .ok () else .error (.notATemplate template)

/-- A record laid out by a template with fields. -/
def layOut (memory : Number.Room) (template : String) (fields : Fields) : Except Misfit Line :=
  let whole := Datum.value (.table [])
  match fill memory template { fields := some fields, next := [whole] } with
  | .error (.missing key) => .error (.missingField key)
  | laidOut => laidOut

end Log.Message

end Chip8
