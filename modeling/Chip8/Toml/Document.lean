/-
Chip8.Toml.Document — TOML documents.

`parse` reads a document in the TOML 1.0 format: statements, each on a
line, that set a key, open a table or begin a new table of an array. It
gives the root table, or tells why the text is no TOML document. Tables
keep the order in which their keys were first named. Arrays and inline
tables may be one inside the other as far as the levels go that the
reading takes.

The tables of a document have no key twice (`Proofs.Toml.Tidy`).
-/
import Chip8.Toml.Demand
import Chip8.Toml.Namespace

namespace Chip8.Toml

/-- The inner keys of a dotted key: every proper, non-empty front part. -/
def innerPaths (header : Path) (key : Path) : List Path :=
  (List.range (key.length - 1)).map fun k => header ++ key.take (k + 1)

/-- An inline table under construction: its entries, and the paths in it
that hold inline tables and arrays. -/
structure Inline where
  entries : Table := []
  marks : Marks := {}

def Inline.add (t : Inline) (key : Path) (v : Value) : Option Inline :=
  match key.getLast? with
  | none => none
  | some stem =>
      if t.marks.isFrozen key then none
      else do
        let entries ← modify false (addNew stem v) key.dropLast t.entries
        let marks := match v with
          | .table _ | .list _ => t.marks.freeze key
          | _ => t.marks
        some { entries, marks }

/-- Refuse what takes more levels than there are. -/
def afford (depth : Nat) (needs : List Need) : Except Broken Unit :=
  match lacking? depth needs with
  | some level => .error (.tooDeep level)
  | none => .ok ()

mutual

/-- A value. The `limit` bounds the length of the text, `depth` is the
number of levels. -/
def value (limit : Nat) :
    Nat → Nat → Practice → List Char → Except Broken (Value × Practice × List Char)
  | 0, _, _, _ => .error .malformed
  | fuel + 1, depth, p, cs =>
      match cs with
      | '[' :: rest => do
          let (needs, p) := fillerNeeds limit p rest
          afford depth (⟨3, .part⟩ :: needs)
          match ← required (skipFiller limit rest) with
          | ']' :: rest => return (.list [], p, rest)
          | rest => items limit fuel depth p [] rest
      | '\x7b' :: rest => do
          afford depth [⟨2, .call⟩, ⟨3, .part⟩]
          match skipSpace rest with
          | '\x7d' :: rest => return (.table [], p, rest)
          | rest => inlineEntries limit fuel depth p {} rest
      | '"' :: _ | '\'' :: _ => do
          let (needs, p) := stringNeeds limit p cs
          afford depth needs
          let (s, rest) ← required (string limit cs)
          return (.text s, p, rest)
      | _ => do
          let (needs, p) := scalarNeeds p cs
          afford depth needs
          let (v, rest) ← scalar cs
          return (v, p, rest)

/-- The items of an array, from one that must be there to the bracket. -/
def items (limit : Nat) : Nat → Nat → Practice → List Value → List Char →
    Except Broken (Value × Practice × List Char)
  | 0, _, _, _, _ => .error .malformed
  | fuel + 1, depth, p, read, cs => do
      let (v, p, rest) ← value limit fuel (depth - 2) p cs
      let read := v :: read
      let (needs, p) := fillerNeeds limit p rest
      afford depth needs
      match ← required (skipFiller limit rest) with
      | ']' :: rest => return (.list read.reverse, p, rest)
      | ',' :: rest => do
          let (needs, p) := fillerNeeds limit p rest
          afford depth needs
          match ← required (skipFiller limit rest) with
          | ']' :: rest => return (.list read.reverse, p, rest)
          | rest => items limit fuel depth p read rest
      | _ => do
          afford depth (refusal 3)
          throw .malformed

/-- The entries of an inline table, from one that must be there to the
brace. -/
def inlineEntries (limit : Nat) : Nat → Nat → Practice → Inline → List Char →
    Except Broken (Value × Practice × List Char)
  | 0, _, _, _, _ => .error .malformed
  | fuel + 1, depth, p, table, cs => do
      let (needs, p) := keyNeeds limit p cs
      afford depth needs
      let (key, rest) ← required (key limit cs)
      let rest ← required (expect '=' rest)
      let (v, p, rest) ← value limit fuel (depth - 3) p (skipSpace rest)
      let table ← required (table.add key v)
      match skipSpace rest with
      | '\x7d' :: rest => return (.table table.entries, p, rest)
      | ',' :: rest => inlineEntries limit fuel depth p table (skipSpace rest)
      | _ => throw .malformed

end

/-- A document as far as it was read: its root table, the table the last
header opened, and the paths that are taken. -/
structure State where
  root : Table := []
  header : Path := []
  marks : Marks := {}
  practice : Practice := {}

namespace State

def seekComment (s : State) : State := { s with practice := s.practice.seekComment }

def practiseKey (s : State) (limit : Nat) (cs : List Char) : State :=
  { s with practice := (keyNeeds limit s.practice cs).2 }

def openTable (s : State) (key : Path) : Option State :=
  let marks := s.marks.settle
  if marks.isExplicit key || marks.isFrozen key then none
  else (modify true some key s.root).map fun root =>
    { s with root, header := key, marks := marks.declare key }

/-- Begin a new table of an array by its header. -/
def openItem (s : State) (key : Path) : Option State :=
  let marks := s.marks.settle
  match key.getLast? with
  | none => none
  | some stem =>
      if marks.isFrozen key then none
      else (modify true (appendTable stem) key.dropLast s.root).map fun root =>
        { s with root, header := key, marks := (marks.release key).declare key }

def set (s : State) (key : Path) (v : Value) : Option State :=
  match key.getLast? with
  | none => none
  | some stem =>
      let inner := innerPaths s.header key
      let parent := s.header ++ key.dropLast
      if inner.any s.marks.isExplicit || s.marks.isFrozen parent then none
      else (modify true (addNew stem v) parent s.root).map fun root =>
        let marks := s.marks.postpone inner
        let marks := match v with
          | .table _ | .list _ => marks.freeze (s.header ++ key)
          | _ => marks
        { s with root, marks }

end State

/-- The text behind a header's closing brackets. -/
def expectAll : List Char → List Char → Option (List Char)
  | [], cs => some cs
  | c :: wanted, cs => (expect c cs).bind (expectAll wanted)

/-- One statement; the text begins with it. -/
def statement (limit depth : Nat) (s : State) (cs : List Char) :
    Except Broken (State × List Char) :=
  match cs with
  | '[' :: '[' :: rest => do
      let s := s.practiseKey limit (skipSpace rest)
      let (key, rest) ← required (key limit (skipSpace rest))
      let s ← required (s.openItem key)
      return (s, ← required (expectAll [']', ']'] rest))
  | '[' :: rest => do
      let s := s.practiseKey limit (skipSpace rest)
      let (key, rest) ← required (key limit (skipSpace rest))
      let s ← required (s.openTable key)
      return (s, ← required (expectAll [']'] rest))
  | '#' :: _ => .ok (s, cs)
  | _ => do
      let s := s.practiseKey limit cs
      let (key, rest) ← required (key limit cs)
      let rest ← required (expect '=' rest)
      let (v, practice, rest) ← value limit limit depth s.practice (skipSpace rest)
      return (← required (State.set { s with practice } key v), rest)

/-- Statements up to the end of the text. -/
def statements (limit depth : Nat) : Nat → State → List Char → Except Broken State
  | 0, _, _ => .error .malformed
  | fuel + 1, s, cs =>
      match skipSpace cs with
      | [] => .ok s
      | '\n' :: rest => statements limit depth fuel s rest
      | rest => do
          let (s, rest) ← statement limit depth s rest
          match ← required (skipComment (skipSpace rest)) with
          | [] => return s
          | '\n' :: rest => statements limit depth fuel s.seekComment rest
          | _ => throw .malformed

/-- A text in which every carriage return before a line feed is dropped. -/
def joinLineEnds : List Char → List Char
  | '\r' :: '\n' :: rest => '\n' :: joinLineEnds rest
  | c :: rest => c :: joinLineEnds rest
  | [] => []

/-- The root table of a document, with so many levels for each value. -/
def parse (depth : Nat) (text : String) : Except Broken Table :=
  let cs := joinLineEnds text.toList
  let limit := cs.length + 1
  (statements limit depth limit {} cs).map State.root

end Chip8.Toml
