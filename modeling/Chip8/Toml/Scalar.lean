/-
Chip8.Toml.Scalar — numbers, dates and times of TOML documents.

Whole numbers may be decimal, hexadecimal, octal or binary; digits may be
separated by single underscores. Numbers with a fraction or an exponent
are rounded once to binary64. A reader takes the longest text of its form
and leaves the rest, whatever it is, to the reader of the statement. What
has the form of a decimal number but too many digits is no value.
-/
import Chip8.Number.Range
import Chip8.Settings.Value
import Chip8.Toml.Scan

namespace Chip8.Toml

/-- The digits that follow a first one, single underscores between them
left out. -/
def moreDigits (isDigit : Char → Bool) : List Char → List Char × List Char
  | '_' :: d :: rest =>
      if isDigit d then
        let (digits, rest) := moreDigits isDigit rest
        (d :: digits, rest)
      else ([], '_' :: d :: rest)
  | d :: rest =>
      if isDigit d then
        let (digits, rest) := moreDigits isDigit rest
        (d :: digits, rest)
      else ([], d :: rest)
  | [] => ([], [])

def digits (isDigit : Char → Bool) : Part (List Char) := fun cs =>
  match cs with
  | d :: rest =>
      if isDigit d then
        let (ds, rest) := moreDigits isDigit rest
        some (d :: ds, rest)
      else none
  | [] => none

def decimalValue (ds : List Char) : Nat := ds.foldl (fun n d => n * 10 + (d.toNat - 48)) 0

def valueIn (base : Nat) (ds : List Char) : Nat :=
  ds.foldl (fun n d => n * base + (Text.Hex.value? d).getD 0) 0

/-- A whole number with a mark for its base. -/
def basedNumber : Part Nat := fun cs =>
  match cs with
  | '0' :: 'x' :: rest => (digits (fun c => (Text.Hex.value? c).isSome) rest).map
      fun (ds, rest) => (valueIn 16 ds, rest)
  | '0' :: 'b' :: rest => (digits (fun c => c == '0' || c == '1') rest).map
      fun (ds, rest) => (valueIn 2 ds, rest)
  | '0' :: 'o' :: rest => (digits (fun c => '0' ≤ c && c ≤ '7') rest).map
      fun (ds, rest) => (valueIn 8 ds, rest)
  | _ => none

/-- A sign, if one comes next: whether it is a minus. -/
def sign (cs : List Char) : Bool × List Char :=
  match cs with
  | '-' :: rest => (true, rest)
  | '+' :: rest => (false, rest)
  | _ => (false, cs)

/-- The digits before the point: a zero, or digits that do not begin with
one. -/
def wholePart : Part (List Char) := fun cs =>
  match cs with
  | '0' :: rest => some (['0'], rest)
  | _ => digits Char.isDigit cs

/-- The digits behind a point, if there are any. -/
def fractionPart (cs : List Char) : List Char × List Char :=
  match cs with
  | '.' :: rest => (digits Char.isDigit rest).getD ([], cs)
  | _ => ([], cs)

def exponentPart (cs : List Char) : Option Int × List Char :=
  match cs with
  | e :: rest =>
      if e == 'e' || e == 'E' then
        let (negative, behind) := sign rest
        match digits Char.isDigit behind with
        | some (ds, rest) =>
            let n : Int := decimalValue ds
            (some (if negative then -n else n), rest)
        | none => (none, cs)
      else (none, cs)
  | [] => (none, cs)

def wholeValue (negative : Bool) (ds : List Char) : Except Broken Value :=
  if ds.length > Number.maxDigits then .error (.tooManyDigits ds.length)
  else
    let n : Int := decimalValue ds
    .ok (.int (if negative then -n else n))

/-- A decimal number, whole or not, and its value. -/
def decimalNumber : Part (Except Broken Value) := fun cs => do
  let (negative, rest) := sign cs
  let (whole, rest) ← wholePart rest
  let (fraction, rest) := fractionPart rest
  let (exponent, rest) := exponentPart rest
  if fraction.isEmpty && exponent.isNone then some (wholeValue negative whole, rest)
  else
    let scale := exponent.getD 0 - fraction.length
    some (.ok (.float (.ofDecimal negative (decimalValue (whole ++ fraction)) scale)), rest)

def number : Part (Except Broken Value) := fun cs =>
  match basedNumber cs with
  | some (n, rest) => some (.ok (.int n), rest)
  | none => decimalNumber cs

def specialFloat : Part Value := fun cs =>
  let (negative, rest) := sign cs
  match rest with
  | 'i' :: 'n' :: 'f' :: rest => some (.float (.infinity negative), rest)
  | 'n' :: 'a' :: 'n' :: rest => some (.float (.notANumber negative), rest)
  | _ => none

def places (count : Nat) : Part Nat := fun cs =>
  let ds := cs.take count
  if ds.length = count && ds.all Char.isDigit then some (decimalValue ds, cs.drop count) else none

def within (low high : Nat) : Part Nat := fun cs => do
  let (n, rest) ← places 2 cs
  if low ≤ n && n ≤ high then some (n, rest) else none

def expect (c : Char) (cs : List Char) : Option (List Char) :=
  match cs with
  | d :: rest => if d = c then some rest else none
  | [] => none

/-- Microseconds behind a point; digits beyond the sixth are dropped. -/
def microseconds (cs : List Char) : Nat × List Char :=
  match cs with
  | '.' :: rest =>
      let ds := rest.takeWhile Char.isDigit
      if ds.isEmpty then (0, cs)
      else
        let six := ds.take 6
        (decimalValue (six ++ List.replicate (6 - six.length) '0'), rest.drop ds.length)
  | _ => (0, cs)

def dayTime : Part DayTime := fun cs => do
  let (hour, rest) ← within 0 23 cs
  let (minute, rest) ← within 0 59 (← expect ':' rest)
  let (second, rest) ← within 0 59 (← expect ':' rest)
  let (micro, rest) := microseconds rest
  some (⟨hour, minute, second, micro⟩, rest)

/-- An offset from universal time in minutes, if there is one. -/
def offset (cs : List Char) : Option Int × List Char :=
  match cs with
  | 'Z' :: rest | 'z' :: rest => (some 0, rest)
  | c :: rest =>
      if c == '+' || c == '-' then
        let read : Option (Nat × List Char) := do
          let (hour, rest) ← within 0 23 rest
          let (minute, rest) ← within 0 59 (← expect ':' rest)
          some (hour * 60 + minute, rest)
        match read with
        | some (minutes, rest) => (some (if c == '-' then -(minutes : Int) else minutes), rest)
        | none => (none, cs)
      else (none, cs)
  | [] => (none, cs)

def isLeapYear (year : Nat) : Bool := year % 4 == 0 && (year % 100 != 0 || year % 400 == 0)

def daysOf (year month : Nat) : Nat :=
  if month = 2 then (if isLeapYear year then 29 else 28)
  else if month = 4 ∨ month = 6 ∨ month = 9 ∨ month = 11 then 30
  else 31

def isDate (d : Date) : Bool := 1 ≤ d.year && d.day ≤ daysOf d.year d.month

/-- The text of a date, whether or not it is in the calendar. -/
def date : Part Date := fun cs => do
  let (year, rest) ← places 4 cs
  let (month, rest) ← within 1 12 (← expect '-' rest)
  let (day, rest) ← within 1 31 (← expect '-' rest)
  some (⟨year, month, day⟩, rest)

/-- The time behind a date, set off by a T or a blank, if there is one. -/
def timeBehind : Part DayTime := fun cs =>
  match cs with
  | 'T' :: rest | 't' :: rest | ' ' :: rest => dayTime rest
  | _ => none

def moment (d : Date) (cs : List Char) : Moment × List Char :=
  match timeBehind cs with
  | some (time, rest) =>
      let (offset, rest) := offset rest
      (.instant d time offset, rest)
  | none => (.day d, cs)

/-- A scalar that begins with neither a mark nor a bracket. What looks like
a date must be one. -/
def scalar : Reader Value := fun cs =>
  match cs with
  | 't' :: 'r' :: 'u' :: 'e' :: rest => .ok (.bool true, rest)
  | 'f' :: 'a' :: 'l' :: 's' :: 'e' :: rest => .ok (.bool false, rest)
  | _ =>
      match date cs, dayTime cs, number cs with
      | some (d, rest), _, _ =>
          if isDate d then
            let (m, rest) := moment d rest
            .ok (.moment m, rest)
          else .error .malformed
      | none, some (time, rest), _ => .ok (.moment (.time time), rest)
      | none, none, some (v, rest) => v.map fun v => (v, rest)
      | none, none, none => required (specialFloat cs)

end Chip8.Toml
