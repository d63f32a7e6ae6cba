/-
Chip8.Settings.Value — values of configuration files.

A `Value` is a scalar, a list or a table; a `Table` is a list of entries
that keeps the order in which keys were first set. `Table.insert` leaves
a key that is there where it is and puts a new one at the end, so that
the keys of a table are those that were inserted, each once.
-/
import Chip8.Number.Layout
import Chip8.Text.Quoted

namespace Chip8

/-- A day of the calendar. -/
structure Date where
  year : Nat
  month : Nat
  day : Nat
deriving DecidableEq, Repr

/-- A time of the day, to the microsecond. -/
structure DayTime where
  hour : Nat
  minute : Nat
  second : Nat
  micro : Nat
deriving DecidableEq, Repr

/-- A date, a time, or both; with both there may be an offset from
universal time in minutes. -/
inductive Moment where
  | day (date : Date)
  | time (time : DayTime)
  | instant (date : Date) (time : DayTime) (offset : Option Int)
deriving DecidableEq, Repr

/-- A configuration value. -/
inductive Value where
  | null
  | bool (b : Bool)
  | int (n : Int)
  | float (x : Number.Binary64)
  | text (s : String)
  | moment (m : Moment)
  | list (items : List Value)
  | table (entries : List (String × Value))
deriving Inhabited

/-- Entries in the order in which their keys were first set. -/
abbrev Table := List (String × Value)

namespace Table

def get? (t : Table) (key : String) : Option Value := t.lookup key

/-- Set a key: in its place if it is there, at the end if not. -/
def insert (t : Table) (key : String) (v : Value) : Table :=
  match t with
  | [] => [(key, v)]
  | (k, old) :: rest => if k = key then (key, v) :: rest else (k, old) :: insert rest key v

def erase (t : Table) (key : String) : Table := t.filter (·.1 ≠ key)

/-- The table with the given entries, later ones over earlier ones. -/
def ofList (entries : List (String × Value)) : Table :=
  entries.foldl (fun t (k, v) => insert t k v) []

def keys (t : Table) : List String := t.map (·.1)

end Table

namespace Value

def isTable : Value → Bool
  | .table _ => true
  | _ => false

/-- The name of the kind of a value, as it is used in reports. -/
def kind : Value → String
  | .null => "NoneType"
  | .bool _ => "bool"
  | .int _ => "int"
  | .float _ => "float"
  | .text _ => "str"
  | .moment (.day _) => "datetime.date"
  | .moment (.time _) => "datetime.time"
  | .moment (.instant ..) => "datetime.datetime"
  | .list _ => "list"
  | .table _ => "dict"

end Value

/-- A number in decimal, filled up with zeros on the left to a width. -/
def Moment.places (width n : Nat) : String :=
  let digits := Number.numeral n
  String.ofList (List.replicate (width - digits.length) '0' ++ digits)

/-- Year, month and day, joined by dashes. -/
def Date.iso (d : Date) : String :=
  s!"{Moment.places 4 d.year}-{Moment.places 2 d.month}-{Moment.places 2 d.day}"

/-- Hour, minute and second, joined by colons; microseconds if there are
any. -/
def DayTime.iso (t : DayTime) : String :=
  let micro := if t.micro = 0 then "" else "." ++ Moment.places 6 t.micro
  s!"{Moment.places 2 t.hour}:{Moment.places 2 t.minute}:{Moment.places 2 t.second}{micro}"

/-- An offset as a signed count of hours and minutes. -/
def Moment.offsetIso (minutes : Int) : String :=
  let sign := if minutes < 0 then "-" else "+"
  let n := minutes.natAbs
  s!"{sign}{Moment.places 2 (n / 60)}:{Moment.places 2 (n % 60)}"

def Moment.iso : Moment → String
  | .day d => d.iso
  | .time t => t.iso
  | .instant d t offset => s!"{d.iso}T{t.iso}" ++ (offset.map Moment.offsetIso).getD ""

mutual

/-- Whether two values are the same, whatever the order of the keys of
their tables. -/
def Value.same : Value → Value → Bool
  | .null, .null => true
  | .bool a, .bool b => a == b
  | .int a, .int b => a == b
  | .float a, .float b => a == b
  | .text a, .text b => a == b
  | .moment a, .moment b => a == b
  | .list a, .list b => sameItems a b
  | .table a, .table b => a.length == b.length && sameEntries a b
  | _, _ => false

/-- Whether two lists hold the same values. -/
def sameItems : List Value → List Value → Bool
  | [], [] => true
  | a :: as, b :: bs => a.same b && sameItems as bs
  | _, _ => false

/-- Whether every entry of the first table is in the second. -/
def sameEntries : List (String × Value) → List (String × Value) → Bool
  | [], _ => true
  | (k, v) :: rest, t =>
      (match Table.get? t k with
        | some w => v.same w
        | none => false) && sameEntries rest t

end

end Chip8
