/-
Chip8.Toml.Scan — the lexical level of TOML documents.

A `Part` takes a value off the front of the text and returns the rest, or
finds none of its form there. A `Reader` takes one that must be there and
tells what is wrong otherwise. Here are blanks, comments, keys and
strings. Control characters other than the tab are legal nowhere, line
feeds only between lines and in multi-line strings.

Where any number of steps may be taken there is an amount of fuel; the
length of the text is always enough.
-/
import Chip8.Text.Hex
import Chip8.Toml.Depth

namespace Chip8.Toml

/-- Why a text is no document. -/
inductive Broken where
  | malformed
  /-- A decimal number of too many digits. -/
  | tooManyDigits (digits : Nat)
  /-- Arrays and tables one inside the other too often: there was no level
  for something. -/
  | tooDeep (level : Level)
deriving DecidableEq, Repr

/-- What may come next in a text, and the rest. -/
abbrev Part (α : Type) := List Char → Option (α × List Char)

/-- What must come next in a text, and the rest. -/
abbrev Reader (α : Type) := List Char → Except Broken (α × List Char)

def required {α : Type} : Option α → Except Broken α
  | some a => .ok a
  | none => .error .malformed

/-- Whether a character is a blank within a line. -/
def isSpace (c : Char) : Bool := c == ' ' || c == '\t'

/-- Whether a control character stands where none may stand. -/
def isIllegal (c : Char) : Bool := (c.toNat < 32 && c != '\t') || c.toNat == 127

/-- Whether a character may not stand in a multi-line string. -/
def isIllegalInLines (c : Char) : Bool := isIllegal c && c != '\n'

/-- The text behind the blanks in front of it. -/
def skipSpace (cs : List Char) : List Char := cs.dropWhile isSpace

/-- The text behind a comment, if one comes next; the end of the line
stays. -/
def skipComment (cs : List Char) : Option (List Char) :=
  match cs with
  | '#' :: rest =>
      let body := rest.takeWhile (· != '\n')
      if body.any isIllegal then none else some (rest.drop body.length)
  | _ => some cs

/-- The text behind all blanks, line feeds and comments. -/
def skipFiller : Nat → List Char → Option (List Char)
  | 0, cs => some cs
  | fuel + 1, cs =>
      match cs.dropWhile fun c => isSpace c || c == '\n' with
      | '#' :: rest => (skipComment ('#' :: rest)).bind (skipFiller fuel)
      | rest => some rest

/-- Whether a character may stand in a bare key. -/
def isBare (c : Char) : Bool := c.isAlphanum || c == '-' || c == '_'

/-- The value of a run of hexadecimal digits. -/
def hexValue? (cs : List Char) : Option Nat :=
  cs.foldlM (fun n c => (Text.Hex.value? c).map (n * 16 + ·)) 0

/-- A character given by its code point in `count` hexadecimal digits. -/
def codePoint (count : Nat) : Part Char := fun cs =>
  let digits := cs.take count
  if digits.length < count then none
  else do
    let n ← hexValue? digits
    if n.isValidChar then some (Char.ofNat n, cs.drop count) else none

/-- The character that a letter stands for behind a backslash. -/
def shortEscape? : Char → Option Char
  | 'b' => some (Char.ofNat 8)
  | 't' => some '\t'
  | 'n' => some '\n'
  | 'f' => some (Char.ofNat 12)
  | 'r' => some '\r'
  | '"' => some '"'
  | '\\' => some '\\'
  | _ => none

/-- The text behind a line end that a backslash hides, with all blanks and
line feeds that follow. The end of the document counts as a line end. -/
def skipHiddenLine (cs : List Char) : Option (List Char) :=
  match skipSpace cs with
  | [] => some []
  | '\n' :: rest => some (rest.dropWhile fun c => isSpace c || c == '\n')
  | _ => none

/-- What an escape stands for; `cs` begins behind the backslash. -/
def escape (lines : Bool) (cs : List Char) : Option (List Char × List Char) :=
  match cs with
  | 'u' :: rest => (codePoint 4 rest).map fun (c, rest) => ([c], rest)
  | 'U' :: rest => (codePoint 8 rest).map fun (c, rest) => ([c], rest)
  | c :: rest =>
      if lines && (isSpace c || c == '\n') then (skipHiddenLine cs).map fun rest => ([], rest)
      else (shortEscape? c).map fun c => ([c], rest)
  | [] => none

/-- The rest of a basic string, up to and with its closing marks. -/
def basicRest (lines : Bool) : Nat → List Char → Part String
  | 0, _, _ => none
  | fuel + 1, read, cs =>
      match cs with
      | [] => none
      | '"' :: rest =>
          if !lines then some (String.ofList read.reverse, rest)
          else match rest with
            | '"' :: '"' :: rest => some (String.ofList read.reverse, rest)
            | _ => basicRest lines fuel ('"' :: read) rest
      | '\\' :: rest => do
          let (chars, rest) ← escape lines rest
          basicRest lines fuel (chars.reverse ++ read) rest
      | c :: rest =>
          if if lines then isIllegalInLines c else isIllegal c then none
          else basicRest lines fuel (c :: read) rest

/-- The rest of a literal string on one line. -/
def literalRest : Part String := fun cs =>
  let body := cs.takeWhile (· != '\'')
  match cs.drop body.length with
  | _ :: rest => if body.any isIllegal then none else some (String.ofList body, rest)
  | [] => none

/-- The rest of a literal string over several lines. -/
def literalLinesRest : List Char → Part String
  | _, [] => none
  | read, '\'' :: '\'' :: '\'' :: rest => some (String.ofList read.reverse, rest)
  | read, c :: rest => if isIllegalInLines c then none else literalLinesRest (c :: read) rest

/-- Up to two more marks that belong to a string that ends in marks. -/
def extraMarks (mark : Char) (s : String) (cs : List Char) : String × List Char :=
  match cs with
  | a :: b :: rest =>
      if a ≠ mark then (s, cs)
      else if b ≠ mark then (s.push mark, b :: rest)
      else ((s.push mark).push mark, rest)
  | [a] => if a = mark then (s.push mark, []) else (s, cs)
  | [] => (s, cs)

/-- The text behind a line feed, if one comes first. -/
def skipFirstLineFeed : List Char → List Char
  | '\n' :: rest => rest
  | cs => cs

def string (fuel : Nat) : Part String := fun cs =>
  match cs with
  | '"' :: '"' :: '"' :: rest =>
      (basicRest true fuel [] (skipFirstLineFeed rest)).map
        fun (s, rest) => extraMarks '"' s rest
  | '"' :: rest => basicRest false fuel [] rest
  | '\'' :: '\'' :: '\'' :: rest =>
      (literalLinesRest [] (skipFirstLineFeed rest)).map fun (s, rest) => extraMarks '\'' s rest
  | '\'' :: rest => literalRest rest
  | _ => none

/-- One part of a key: bare, or a string on one line. -/
def keyPart (fuel : Nat) : Part String := fun cs =>
  match cs with
  | '"' :: rest => basicRest false fuel [] rest
  | '\'' :: rest => literalRest rest
  | _ =>
      let body := cs.takeWhile isBare
      if body.isEmpty then none else some (String.ofList body, cs.drop body.length)

/-- The parts of a key, joined by points, and the blanks behind them. -/
def keyParts (limit : Nat) : Nat → Part (List String)
  | 0, _ => none
  | fuel + 1, cs => do
      let (part, rest) ← keyPart limit cs
      match skipSpace rest with
      | '.' :: rest =>
          let (parts, rest) ← keyParts limit fuel (skipSpace rest)
          some (part :: parts, rest)
      | rest => some ([part], rest)

def key (fuel : Nat) : Part (List String) := keyParts fuel fuel

end Chip8.Toml
