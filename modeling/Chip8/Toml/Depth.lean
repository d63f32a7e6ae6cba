/-
Chip8.Toml.Depth — how deep the reading of a document may go.

A document is read by parts that call one another, and the calls may go
only so deep. A level is taken by a part of the reader, by a call of a
routine it is built on, by a comparison, or by what is quoted in a
refusal. Where a level is lacking, the reader breaks off and names what
would have taken it.
-/
namespace Chip8.Toml

/-- What takes a level. -/
inductive Level where
  | part | call | comparison | quotation
deriving DecidableEq, Repr

/-- The wording for a level that is lacking. -/
def Level.lackingText (level : Level) : String :=
  let taker := match level with
    | .part => ""
    | .call => " while calling a Python object"
    | .comparison => " in comparison"
    | .quotation => " while getting the repr of an object"
  s!"maximum recursion depth exceeded{taker}"

/-- A level on the way: so many must be there at least. -/
structure Need where
  least : Nat
  level : Level
deriving DecidableEq, Repr

/-- The levels that are there for a value of a document. -/
def maxDepth : Nat := 989

/-- The first level that is lacking, if any is. -/
def lacking? (depth : Nat) (needs : List Need) : Option Level :=
  (needs.find? fun need => depth < need.least).map Need.level

end Chip8.Toml
