/-
Chip8.Number.Layout — laying out numbers by a format specification.

A specification reads

    [[fill]align][sign][z][#][0][width][grouping][.precision][type]

`Layout.parse` takes one apart and `Layout.render` writes a double by it:
in fixed places, in scientific form, in the shorter of the two, as a
percentage or, without a type, with the fewest digits that read back.
Rounding is exact, a half to the even digit. Width and precision may be
given in the decimal digits of any script.
-/
import Chip8.Number.Decimal
import Chip8.Number.Range
import Chip8.Text.Blank
import Chip8.Text.Hex

namespace Chip8.Number

/-- Where the padding goes. -/
inductive Align where
  | left | right | centre
  /-- Between the sign and the digits. -/
  | inside
deriving DecidableEq, Repr

/-- A format specification taken apart. -/
structure Layout where
  fill : Char := ' '
  align : Align := .right
  sign : Option Char := none
  noNegativeZero : Bool := false
  alternate : Bool := false
  width : Option Nat := none
  grouping : Option Char := none
  precision : Option Nat := none
  type : Option Char := none
deriving DecidableEq, Repr

/-- What is wrong with a format specification. -/
inductive LayoutError where
  | tooManyDigits
  | bothGroupings
  | missingPrecision
  | precisionTooBig
  | groupingNotAllowed (grouping type : Char)
  | unknownType (type : Char)
  | malformed (spec : String)
  /-- There is no memory for a text that long. -/
  | noRoom
deriving DecidableEq, Repr

/-- A character as it is named in an error. -/
def LayoutError.typeName (type : Char) : String :=
  if 32 < type.toNat ∧ type.toNat < 128 then type.toString
  else "\\x" ++ (Text.Hex.padded 0 type.toNat).toLower

def LayoutError.message : LayoutError → String
  | .tooManyDigits => "Too many decimal digits in format string"
  | .bothGroupings => "Cannot specify both ',' and '_'."
  | .missingPrecision => "Format specifier missing precision"
  | .precisionTooBig => "precision too big"
  | .groupingNotAllowed grouping type =>
      s!"Cannot specify '{grouping}' with '{LayoutError.typeName type}'."
  | .unknownType type =>
      s!"Unknown format code '{LayoutError.typeName type}' for object of type 'float'"
  | .malformed spec => s!"Invalid format specifier '{spec}' for object of type 'float'"
  | .noRoom => ""

namespace Layout

/-- The alignment a character stands for. -/
def alignOf? : Char → Option Align
  | '<' => some .left
  | '>' => some .right
  | '^' => some .centre
  | '=' => some .inside
  | _ => none

/-- Fill and alignment at the head of a specification. -/
def takeAlign (l : Layout) : List Char → Layout × Bool × Bool × List Char
  | c :: d :: rest =>
      match alignOf? d, alignOf? c with
      | some align, _ => ({ l with fill := c, align }, true, true, rest)
      | none, some align => ({ l with align }, false, true, d :: rest)
      | none, none => (l, false, false, c :: d :: rest)
  | [c] =>
      match alignOf? c with
      | some align => ({ l with align }, false, true, [])
      | none => (l, false, false, [c])
  | [] => (l, false, false, [])

/-- One of the given characters, if it comes next. -/
def takeOne? (wanted : List Char) : List Char → Option Char × List Char
  | c :: rest => if wanted.contains c then (some c, rest) else (none, c :: rest)
  | [] => (none, [])

def takeNumber? (cs : List Char) : Except LayoutError (Option Nat × List Char) :=
  let digits := (cs.map Text.Blank.decimalValue?).takeWhile Option.isSome
  let n := digits.foldl (fun n d => n * 10 + d.getD 0) 0
  if digits.isEmpty then .ok (none, cs)
  else if n ≥ twoTo 63 then .error .tooManyDigits
  else .ok (some n, cs.drop digits.length)

/-- The grouping characters, of which only one may be given. -/
def takeGrouping (cs : List Char) : Except LayoutError (Option Char × List Char) :=
  let (comma, cs) := takeOne? [','] cs
  let (underscore, cs) := takeOne? ['_'] cs
  if comma.isSome && underscore.isSome then .error .bothGroupings
  else if underscore.isSome && (cs.head? == some ',') then .error .bothGroupings
  else .ok (comma.or underscore, cs)

def takePrecision (cs : List Char) : Except LayoutError (Option Nat × List Char) :=
  match cs with
  | '.' :: rest =>
      match takeNumber? rest with
      | .error e => .error e
      | .ok (none, _) => .error .missingPrecision
      | .ok (some n, rest) => .ok (some n, rest)
  | _ => .ok (none, cs)

/-- Whether digits may be grouped for a type. -/
def groups (grouping : Char) (type : Char) : Bool :=
  "defgEG%F".toList.contains type || (grouping == '_' && "boxX".toList.contains type)

/-- Whether a double can be written by a type. -/
def writesDoubles (type : Char) : Bool := "eEfFgGn%".toList.contains type

def parse (spec : String) : Except LayoutError Layout := do
  let (l, filled, aligned, cs) := takeAlign {} spec.toList
  let (sign, cs) := takeOne? ['+', '-', ' '] cs
  let (z, cs) := takeOne? ['z'] cs
  let (hash, cs) := takeOne? ['#'] cs
  let (zero, cs) := if filled then (none, cs) else takeOne? ['0'] cs
  let l := { l with sign, noNegativeZero := z.isSome, alternate := hash.isSome }
  let l := if zero.isSome then
      { l with fill := '0', align := if aligned then l.align else .inside }
    else l
  let (width, cs) ← takeNumber? cs
  let (grouping, cs) ← takeGrouping cs
  let (precision, cs) ← takePrecision cs
  let l := { l with width, grouping, precision }
  match cs with
  | [] => checked l
  | [type] => checked (if type.toNat = 0 then l else { l with type := some type })
  | _ => throw (.malformed spec)
where
  /-- Reject types that do not go with the rest or with doubles. -/
  checked (l : Layout) : Except LayoutError Layout :=
    match l.type with
    | none => bounded l
    | some type =>
        match l.grouping with
        | some grouping =>
            if !groups grouping type then .error (.groupingNotAllowed grouping type)
            else if writesDoubles type then bounded l else .error (.unknownType type)
        | none => if writesDoubles type then bounded l else .error (.unknownType type)
  /-- Reject a precision beyond thirty-one bits. -/
  bounded (l : Layout) : Except LayoutError Layout :=
    if l.precision.getD 0 ≥ twoTo 31 then .error .precisionTooBig else .ok l

/-- The text of a number without its sign, cut into the digits before the
point and the rest. -/
structure Body where
  whole : List Char
  rest : List Char

/-- Digits in fixed places: the units of the last place, cut at the point. -/
def fixedBody (units places : Nat) (keepPoint : Bool) : Body :=
  let digits := numeral units
  let digits := List.replicate (places + 1 - digits.length) '0' ++ digits
  let cut := digits.length - places
  let fraction := digits.drop cut
  ⟨digits.take cut, if fraction.isEmpty && !keepPoint then [] else '.' :: fraction⟩

/-- More digits than any double has, before and after the point: what
follows them are zeros. -/
def allDigits : Nat := 1100

def placedBody (num den places : Nat) (keepPoint : Bool) : Body :=
  let shown := min places allDigits
  let body := fixedBody (fixed num den shown) shown keepPoint
  ⟨body.whole, body.rest ++ List.replicate (places - shown) '0'⟩

/-- A quotient rounded to a number of digits; zeros at the end may be
missing. -/
def rounded (num den count : Nat) : Digits :=
  if num = 0 then Digits.zero else significant num den (min count allDigits)

/-- The exponent of scientific form: a sign and at least two digits. -/
def exponentText (mark : Char) (e : Int) : List Char :=
  let digits := numeral e.natAbs
  [mark, if e < 0 then '-' else '+'] ++ List.replicate (2 - digits.length) '0' ++ digits

/-- Digits in scientific form, filled up with zeros to `count` digits. -/
def scientificBody (d : Digits) (count : Nat) (mark : Char) (keepPoint : Bool) : Body :=
  let digits := d.digits ++ List.replicate (count - d.digits.length) '0'
  let fraction := digits.drop 1
  let point := if fraction.isEmpty && !keepPoint then [] else ['.']
  ⟨digits.take 1, point ++ fraction ++ exponentText mark (d.point - 1)⟩

/-- Digits in positional form, filled up with zeros to `count` digits and
at least to the point. -/
def positionalBody (d : Digits) (count : Nat) (keepPoint : Bool) : Body :=
  let digits := List.replicate (1 - d.point).toNat '0' ++ d.digits
  let point := max d.point 1
  let lacking := max ((count : Int) - d.digits.length) (point - digits.length)
  let digits := digits ++ List.replicate lacking.toNat '0'
  let fraction := digits.drop point.toNat
  ⟨digits.take point.toNat, if fraction.isEmpty && !keepPoint then [] else '.' :: fraction⟩

/-- Positional form with at least one digit after the point. -/
def pointedBody (d : Digits) (count : Nat) : Body :=
  let body := positionalBody d count true
  if body.rest.length ≤ 1 then ⟨body.whole, ['.', '0']⟩ else body

/-- The shorter of positional and scientific form for `count` digits. With
`addZero` there is always a digit after the point of a positional form,
which must then fit as well. -/
def generalBody (num den count : Nat) (mark : Char) (alternate addZero : Bool) : Body :=
  let count := max count 1
  let d := (rounded num den count).trimmed
  let kept := if alternate then count else 0
  let room : Int := if addZero then (count : Int) - 1 else count
  if d.point ≤ -4 ∨ d.point > room then scientificBody d kept mark alternate
  else if addZero then pointedBody d kept
  else positionalBody d kept alternate

/-- The fewest digits that read back: scientific form from seventeen digits
before the point or four zeros after it, and otherwise always a fraction. -/
def shortestBody (m : Nat) (q : Int) (alternate : Bool) : Body :=
  let d := shortest m q
  if d.point ≤ -4 ∨ d.point > 16 then scientificBody d 0 'e' alternate else pointedBody d 0

/-- The text of a finite double's absolute value by a layout. -/
def bodyOf (l : Layout) (x : Binary64) : Option Body := do
  let (m, q) ← x.magnitude?
  let (num, den) := scaleTwo m 1 q
  let places := l.precision.getD 6
  match l.type, l.precision with
  | none, none => some (shortestBody m q l.alternate)
  | none, some p => some (generalBody num den p 'e' l.alternate true)
  | some 'e', _ => some (scientific num den places 'e')
  | some 'E', _ => some (scientific num den places 'E')
  | some 'f', _ | some 'F', _ => some (placedBody num den places l.alternate)
  | some 'G', _ => some (generalBody num den places 'E' l.alternate false)
  | some '%', _ =>
      match (Binary64.ofRatio false (num * 100) den).ratio? with
      | some (num, den) =>
          let body := placedBody num den places l.alternate
          some ⟨body.whole, body.rest ++ ['%']⟩
      | none => some ⟨[], ['i', 'n', 'f', '%']⟩
  | some _, _ => some (generalBody num den places 'e' l.alternate false)
where
  /-- Scientific form with a number of places after the point. The digits
  are counted in thirty-two bits, and there is at least one. -/
  scientific (num den places : Nat) (mark : Char) : Body :=
    let count := max 1 (wrapped (places + 1)).toNat
    scientificBody (rounded num den count) count mark l.alternate

/-- Digits, the last one first, in groups of three before the text that is
`done`, with zeros in front until they take at least `width` more places.
A group is written at a time. -/
def grouped (mark : Char) : Nat → List Char → Int → List Char → List Char
  | 0, _, _, done => done
  | fuel + 1, reversed, width, done =>
      let group := reversed.take 3
      let size := max group.length (min 3 (max width 1)).toNat
      let done := List.replicate (size - group.length) '0' ++ group.reverse ++ done
      let left := reversed.drop 3
      let width := width - size
      if left.isEmpty && width ≤ 0 then done
      else grouped mark fuel left (width - 1) (mark :: done)

/-- Whether a text has digits and every one of them is zero. -/
def isZeroText (b : Body) : Bool :=
  let digits := b.whole ++ b.rest.takeWhile fun c => c.isDigit || c == '.'
  !digits.isEmpty && digits.all fun c => c == '0' || c == '.'

/-- The word for a number that is not finite, in the case of the type. -/
def word (l : Layout) (x : Binary64) : List Char :=
  let text := (if x.isInfinite then "inf" else "nan").toList
  let text := if l.type.any Char.isUpper then text.map Char.toUpper else text
  if l.type = some '%' then text ++ ['%'] else text

/-- A double by a layout; what is not finite is written as a word. -/
def render (l : Layout) (x : Binary64) : String :=
  let body := (l.bodyOf x).getD ⟨[], l.word x⟩
  let negative := x.negative && !(l.noNegativeZero && isZeroText body)
  let sign := if negative then ['-'] else match l.sign with
    | some '+' => ['+']
    | some ' ' => [' ']
    | _ => []
  let width := l.width.getD 0
  let fixedLength := sign.length + body.rest.length
  let room : Int := if l.fill = '0' ∧ l.align = .inside then (width : Int) - fixedLength else 0
  let whole := match l.grouping with
    | some mark =>
        if body.whole.isEmpty then []
        else grouped mark (body.whole.length + width + 1) body.whole.reverse room []
    | none => body.whole
  let padding := width - (fixedLength + whole.length)
  let pad (n : Nat) : List Char := List.replicate n l.fill
  let text := whole ++ body.rest
  String.ofList <| match l.align with
    | .left => sign ++ text ++ pad padding
    | .right => pad padding ++ sign ++ text
    | .centre => pad (padding / 2) ++ sign ++ text ++ pad (padding - padding / 2)
    | .inside => sign ++ pad padding ++ text

/-- Whether there is memory for the digits of a double by a layout. Zero has
a single digit where nothing fills it up, and the count of the digits of
scientific form is lost beyond thirty-one bits. -/
def hasDigitRoom (memory : Room) (l : Layout) (x : Binary64) : Bool :=
  let places := l.precision.getD 0
  let isScientific := l.type = some 'e' || l.type = some 'E'
  let isFilled := l.alternate || isScientific || "fF%".toList.any fun t => l.type = some t
  memory.grants places || x.magnitude?.isNone || (x.unsigned = 0 && !isFilled)
    || (isScientific && places + 1 = twoTo 31)

/-- A double by a layout, if there is memory for its text. -/
def write (memory : Room) (l : Layout) (x : Binary64) : Except LayoutError String :=
  if hasDigitRoom memory l x && memory.grants (l.width.getD 0) then .ok (l.render x)
  else .error .noRoom

/-- A double with the fewest digits that read back. -/
def plain (x : Binary64) : String := render {} x

end Layout

end Chip8.Number
