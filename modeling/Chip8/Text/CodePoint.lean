/-
Chip8.Text.CodePoint — code points, and the text they encode.

A code point is a character or one half of a surrogate pair. Text is made
of characters alone, so that a line in which a half stands is no text:
`encode` gives the text of a line, or tells where its first halves are.
-/
import Chip8.Text.Hex

namespace Chip8.Text

/-- A code point by its number. -/
structure CodePoint where
  value : Nat
deriving DecidableEq, Repr

/-- A line of code points. -/
abbrev Line := List CodePoint

namespace CodePoint

/-- How many code points there are. -/
def count : Nat := 0x110000

def ofChar (c : Char) : CodePoint := ⟨c.toNat⟩

/-- The code point with a number, if there is one. -/
def ofInt? (n : Int) : Option CodePoint := if 0 ≤ n ∧ n < count then some ⟨n.toNat⟩ else none

/-- Whether a code point is half of a surrogate pair. -/
def isSurrogate (p : CodePoint) : Bool := 0xD800 ≤ p.value && p.value < 0xE000

/-- The character of a code point that is no surrogate. -/
def toChar (p : CodePoint) : Char := Char.ofNat p.value

/-- A number in lower-case hexadecimal with a number of places. -/
def places (width n : Nat) : List Char := (Hex.padded width n).toList.map Char.toLower

/-- A code point by its number, in two, four or eight places. -/
def numbered (p : CodePoint) : List Char :=
  if p.value < 0x100 then ['\\', 'x'] ++ places 2 p.value
  else if p.value < 0x10000 then ['\\', 'u'] ++ places 4 p.value
  else ['\\', 'U'] ++ places 8 p.value

end CodePoint

/-- A run of surrogates in a line: the first of them, its place and the
length of the run. -/
structure Unencodable where
  first : CodePoint
  place : Nat
  length : Nat
deriving DecidableEq, Repr

/-- The wording for a line that is no text. -/
def Unencodable.message (u : Unencodable) : String :=
  let subject :=
    if u.length = 1 then
      s!"character '{String.ofList u.first.numbered}' in position {u.place}"
    else s!"characters in position {u.place}-{u.place + u.length - 1}"
  s!"'utf-8' codec can't encode {subject}: surrogates not allowed"

namespace Line

def ofText (text : String) : Line := text.toList.map CodePoint.ofChar

/-- The text of a line, unless there are surrogates in it. -/
def encode (line : Line) : Except Unencodable String :=
  let before := line.takeWhile fun p => !p.isSurrogate
  match (line.drop before.length).takeWhile CodePoint.isSurrogate with
  | [] => .ok (String.ofList (line.map CodePoint.toChar))
  | first :: more => .error ⟨first, before.length, more.length + 1⟩

end Line

end Chip8.Text
