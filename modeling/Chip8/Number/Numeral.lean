/-
Chip8.Number.Numeral — whole numbers read from text.

A numeral may have blanks around it and a sign before it. Its digits are
the decimal ones of any script and, in base sixteen, letters; a single
underscore may stand between two of them. In base sixteen a mark `0x` may
come first, which one underscore may follow.

The digits of a decimal numeral are counted before what follows them is
looked at, so that too many of them are told even where the text goes on
with something else.
-/
import Chip8.Number.Range
import Chip8.Text.Blank

namespace Chip8.Number.Numeral

/-- Why a text gives no decimal number. -/
inductive Unreadable where
  | malformed
  | tooManyDigits (digits : Nat)
deriving DecidableEq, Repr

/-- The value of a letter that is a digit in base sixteen. -/
def letter? (c : Char) : Option Nat :=
  if 'a' ≤ c ∧ c ≤ 'f' then some (c.toNat - 87)
  else if 'A' ≤ c ∧ c ≤ 'F' then some (c.toNat - 55)
  else none

def digit? (base : Nat) (c : Char) : Option Nat :=
  (Text.Blank.decimalValue? c).or (if base = 16 then letter? c else none)

/-- The digits that go on a numeral, and the rest; none if an underscore is
not between two digits. -/
def moreDigits? (base : Nat) : List Char → Option (List Nat × List Char)
  | [] => some ([], [])
  | '_' :: [] => none
  | '_' :: c :: rest => do
      let d ← digit? base c
      let (ds, rest) ← moreDigits? base rest
      return (d :: ds, rest)
  | c :: rest =>
      match digit? base c with
      | some d => (moreDigits? base rest).map fun (ds, rest) => (d :: ds, rest)
      | none => some ([], c :: rest)

/-- The digits in front of a text, and the rest. -/
def digits? (base : Nat) : List Char → Option (List Nat × List Char)
  | '_' :: _ => none
  | cs => moreDigits? base cs

def value (base : Nat) (ds : List Nat) : Nat := ds.foldl (fun n d => n * base + d) 0

/-- A numeral without the blanks around it: whether it has a minus, and
what follows the sign. -/
def signed (text : String) : Bool × List Char :=
  match Text.Blank.trimBy Text.Blank.isNumeralBlank text.toList with
  | '-' :: rest => (true, rest)
  | '+' :: rest => (false, rest)
  | cs => (false, cs)

def withSign (negative : Bool) (n : Nat) : Int := if negative then -n else n

/-- The text behind the mark of base sixteen, if there is one. -/
def unmarked (cs : List Char) : List Char :=
  match cs with
  | z :: x :: rest =>
      if Text.Blank.decimalValue? z = some 0 ∧ (x = 'x' ∨ x = 'X') then
        match rest with
        | '_' :: rest => rest
        | rest => rest
      else cs
  | _ => cs

/-- The whole number that a text gives in base sixteen. -/
def hexadecimal? (text : String) : Option Int :=
  let (negative, cs) := signed text
  match digits? 16 (unmarked cs) with
  | some (d :: ds, []) => some (withSign negative (value 16 (d :: ds)))
  | _ => none

/-- The whole number that a text gives in base ten. -/
def decimal (text : String) : Except Unreadable Int :=
  let (negative, cs) := signed text
  match digits? 10 cs with
  | none => .error .malformed
  | some (ds, rest) =>
      if ds.length > maxDigits then .error (.tooManyDigits ds.length)
      else if ds.isEmpty || !rest.isEmpty then .error .malformed
      else .ok (withSign negative (value 10 ds))

end Chip8.Number.Numeral
