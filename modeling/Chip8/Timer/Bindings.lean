/-
Chip8.Timer.Bindings — registers set by name, and timers bound to a name.

A register can be set by its name before a timer is bound to one. A name
that no register has makes a place of its own for a number, and a timer
can be bound to that as well. The name of the byte registers as a whole
is such a name: a number under it hides them, and from then on there is
no flag to be set or counted down. A few of the names that every record
has take no number.
-/
import Chip8.Machine.Edit
import Chip8.Settings.Validation
import Chip8.Timer.Inert

namespace Chip8

/-- What a register's name stands for when it is set: the last byte register
goes by two names, and as the flag it keeps only whether it is zero. -/
def Edit.named? (n : Int) : String → Option Edit
  | "PC" => some (.pc n)
  | "I" => some (.index n)
  | "SP" => some (.sp n)
  | "delay" => some (.delay n)
  | "sound" => some (.sound n)
  | "flag" => some (.register 15 (if n = 0 then 0 else 1))
  | "VF" => some (.register 15 n)
  | _ => none

namespace Timer

def Refusal.notice (r : Refusal) : Notice := .wrongValue r.message

/-- What a timer can be bound to. -/
inductive Target where
  | counter (c : Counter)
  | inert (i : Inert)

/-- A machine whose registers were set by name, and the numbers under other
names. -/
structure Bindings where
  machine : Machine := {}
  places : List (String × Int) := []

namespace Bindings

/-- Whether the byte registers are hidden by a number under their name. -/
def hidesBytes (b : Bindings) : Bool := (b.places.lookup bytesName).isSome

/-- The fields of the register file and the other places, as text. -/
def entries (b : Bindings) : List (String × String) :=
  let r := b.machine.registers
  let fields : Table := [("PC", .int r.pc), (bytesName, .text (bytesTextInFull r)), ("I", .int r.i),
    ("SP", .int r.sp), ("delay", .int r.delay), ("sound", .int r.sound)]
  let all := b.places.foldr (fun (name, n) fields => Table.insert fields name (.int n)) fields
  all.map fun (name, v) => (name, v.plain)

/-- What is under a name and is no number. -/
def inert? (b : Bindings) (name : String) : Option Inert :=
  if name = bytesName then some (.ofBytes b.machine.registers) else Inert.ofName? b.entries name

def put (b : Bindings) (name : String) (n : Int) : Except Notice Bindings :=
  let edited (e : Edit) : Except Notice Bindings :=
    match b.machine.edit e with
    | .ok machine => .ok { b with machine }
    | .error halted => .error (.ofFault halted.fault)
  match Edit.named? n name with
  | none =>
      match (b.inert? name).bind Inert.stored with
      | some problem => .error problem
      | none => .ok { b with places := (name, n) :: b.places }
  | some (.register place value) =>
      if b.hidesBytes then .error (.wrongKind (Breach.noAssignment "int").message)
      else edited (.register place value)
  | some e => edited e

/-- What a timer bound to a name would count down, and the registers for
that: a number under a name of its own is counted down as the delay
register is. -/
def target (b : Bindings) (name : String) (period : Int) : Except Notice (Target × Registers) :=
  let r := b.machine.registers
  if period ≤ 0 then .error (Refusal.notice .periodNotPositive)
  else match b.places.lookup name, Counter.ofName? name with
    | some n, _ => .ok (.counter .delay, { r with delay := n })
    | none, some c =>
        if c = .flag ∧ b.hidesBytes then .error (.wrongKind (Breach.noEntries "int").message)
        else .ok (.counter c, r)
    | none, none =>
        match b.inert? name with
        | some i => .ok (.inert i, r)
        | none => .error (Refusal.notice (.noSuchRegister name))

end Bindings

end Timer

end Chip8
