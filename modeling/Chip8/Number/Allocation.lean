/-
Chip8.Number.Allocation — room for arrays of cells.

The length of an array is a machine word with a sign, and so is the
number of its bytes; beyond that it is the memory that decides. `allocate`
gives the length of an array there is room for, and
`allocateRows` the number of columns of a table of rows.
-/
import Chip8.Number.ByteSize
import Chip8.Number.Range

namespace Chip8.Number

/-- Why there is no room for an array. -/
inductive Shortage where
  /-- A length below zero. -/
  | negative
  /-- The length is no machine word. -/
  | notALength
  /-- The number of columns is no machine word. -/
  | notAWidth
  /-- The bytes are more than a machine word can count. -/
  | uncountable
  /-- There is no memory for that many cells. -/
  | noMemory (shape : List Nat) (bytes : Nat) (kind : String)
deriving DecidableEq, Repr

/-- The lengths of an array in its dimensions, as text. -/
def shapeText : List Nat → String
  | [length] => s!"({length},)"
  | lengths => "(" ++ ", ".intercalate (lengths.map toString) ++ ")"

def Shortage.message : Shortage → String
  | .negative => "negative dimensions are not allowed"
  | .notALength => "Maximum allowed dimension exceeded"
  | .notAWidth => tooLongText
  | .uncountable => uncountableText
  | .noMemory shape bytes kind => s!"Unable to allocate {ByteSize.text bytes} for an array " ++
      s!"with shape {shapeText shape} and data type {kind}"

/-- The name of the kind of a shortage, as it is reported. -/
def Shortage.kind : Shortage → String
  | .noMemory .. => "MemoryError"
  | .notAWidth => "OverflowError"
  | _ => "ValueError"

/-- The length of an array of cells of a kind, `cell` bytes each. -/
def allocate (memory : Room) (length : Int) (cell : Nat) (kind : String) :
    Except Shortage Nat :=
  let bytes := length * cell
  if !fitsLong length then .error .notALength
  else if length < 0 then .error .negative
  else if !fitsLong bytes then .error .uncountable
  else if !memory.grants bytes.toNat then .error (.noMemory [length.toNat] bytes.toNat kind)
  else .ok length.toNat

/-- The number of columns of a table of `rows` rows, with cells of a kind,
`cell` bytes each. A table without a second column is an array of its
rows, for which there is room already. -/
def allocateRows (memory : Room) (rows : Nat) (columns : Int) (cell : Nat) (kind : String) :
    Except Shortage Nat :=
  let bytes := rows * columns * cell
  if columns ≤ 1 then .ok 1
  else if !fitsLong columns then .error .notAWidth
  else if !fitsLong bytes then .error .uncountable
  else if !memory.grants bytes.toNat then .error (.noMemory [rows, columns.toNat] bytes.toNat kind)
  else .ok columns.toNat

end Chip8.Number
