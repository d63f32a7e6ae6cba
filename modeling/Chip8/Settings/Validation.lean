/-
Chip8.Settings.Validation — which tables are settings.

`check` looks at the entries in a fixed order and stops at the first bad
one. A `Flaw` is a value of the wrong kind or out of range; a `Breach` is
a table that lacks an entry, or something that is no table where there
must be one. A table without either is given as `Settings`.

What accepted settings keep to is in `Proofs.Settings.Accepted`.
-/
import Chip8.Settings.Defaults
import Chip8.Toml.Depth

namespace Chip8

/-- An entry that is there but cannot be used. -/
inductive Flaw where
  | notPositive (name : String)
  | notBoolean
  | notAmplitude
  | notHexKey (key : String)
  | notKeyName (key : String)
deriving DecidableEq, Repr

def Flaw.message : Flaw → String
  | .notPositive name => s!"{name} must be a positive integer"
  | .notBoolean => "audio.enable must be a boolean"
  | .notAmplitude => "audio.amplitude must be an integer between 0 and 255"
  | .notHexKey key => s!"keyboard.{key} is not a hex key (expected 0-F)"
  | .notKeyName key => s!"keyboard.{key} must be a non-empty key name"

/-- A table that has not the shape of settings. -/
inductive Breach where
  | missing (key : String)
  /-- A value of the given kind where entries were looked up. -/
  | noEntries (kind : String)
  /-- A list where entries were looked up. -/
  | listForTable
  /-- A text where entries were looked up. -/
  | textForTable
  /-- A value of the given kind where all entries were wanted. -/
  | noItems (kind : String)
  /-- A value of the given kind where a key was looked for. -/
  | noKeys (kind : String)
  /-- A value of the given kind where an entry was to be set. -/
  | noAssignment (kind : String)
  /-- A value of the given kind where an entry was to be removed. -/
  | noRemoval (kind : String)
  /-- A document nested too deep. -/
  | tooDeep (level : Toml.Level)
deriving DecidableEq, Repr

def Breach.message : Breach → String
  | .missing key => Text.Quoted.quote key
  | .noEntries kind => s!"'{kind}' object is not subscriptable"
  | .listForTable => "list indices must be integers or slices, not str"
  | .textForTable => "string indices must be integers, not 'str'"
  | .noItems kind => s!"'{kind}' object has no attribute 'items'"
  | .noKeys kind => s!"'{kind}' object has no attribute 'get'"
  | .noAssignment kind => s!"'{kind}' object does not support item assignment"
  | .noRemoval kind => s!"'{kind}' object doesn't support item deletion"
  | .tooDeep level => level.lackingText

/-- The breach of looking up an entry in what is no table. -/
def Breach.ofLookup (v : Value) : Breach :=
  match v with
  | .list _ => .listForTable
  | .text _ => .textForTable
  | v => .noEntries v.kind

/-- The value of a key that must be there. -/
def Table.demand (t : Table) (key : String) : Except Breach Value :=
  match t.get? key with
  | some v => .ok v
  | none => .error (.missing key)

/-- What keeps a table from being settings. -/
inductive Problem where
  | flaw (f : Flaw)
  | breach (b : Breach)
deriving DecidableEq, Repr

/-- Settings that can be used. The tables hold whatever else the file says. -/
structure Settings where
  scale : Int
  cpuHz : Int
  timerHz : Int
  enable : Bool
  frequency : Int
  amplitude : Int
  keyboard : List (String × String)

namespace Settings

/-- The value of a key that must be there. -/
def entry (t : Table) (key : String) : Except Problem Value := (t.demand key).mapError .breach

/-- The value of a key in what must be a table. -/
def entryOf (v : Value) (key : String) : Except Problem Value :=
  match v with
  | .table t => entry t key
  | v => .error (.breach (.ofLookup v))

def positive (name : String) (v : Value) : Except Problem Int :=
  match v with
  | .int n => if n > 0 then .ok n else .error (.flaw (.notPositive name))
  | _ => .error (.flaw (.notPositive name))

def boolean (v : Value) : Except Problem Bool :=
  match v with
  | .bool b => .ok b
  | _ => .error (.flaw .notBoolean)

def byteRange (v : Value) : Except Problem Int :=
  match v with
  | .int n => if 0 ≤ n ∧ n ≤ 255 then .ok n else .error (.flaw .notAmplitude)
  | _ => .error (.flaw .notAmplitude)

def keyEntry (key : String) (v : Value) : Except Problem (String × String) :=
  if !hexKeys.contains key then .error (.flaw (.notHexKey key))
  else match v with
    | .text name => if name = "" then .error (.flaw (.notKeyName key)) else .ok (key, name)
    | _ => .error (.flaw (.notKeyName key))

/-- The entries of the keyboard table in order. -/
def keyEntries : List (String × Value) → Except Problem (List (String × String))
  | [] => .ok []
  | (key, v) :: rest => do
      let first ← keyEntry key v
      return first :: (← keyEntries rest)

def entriesOf (v : Value) : Except Problem Table :=
  match v with
  | .table t => .ok t
  | v => .error (.breach (.noItems v.kind))

def check (t : Table) : Except Problem Settings := do
  let scale ← positive "general.scale" (← entryOf (← entry t "general") "scale")
  let cpuHz ← positive "general.cpu_hz" (← entryOf (← entry t "general") "cpu_hz")
  let timerHz ← positive "general.timer_hz" (← entryOf (← entry t "general") "timer_hz")
  let enable ← boolean (← entryOf (← entry t "audio") "enable")
  let frequency ← positive "audio.frequency" (← entryOf (← entry t "audio") "frequency")
  let amplitude ← byteRange (← entryOf (← entry t "audio") "amplitude")
  let keyboard ← keyEntries (← entriesOf (← entry t "keyboard"))
  return { scale, cpuHz, timerHz, enable, frequency, amplitude, keyboard }

end Settings

end Chip8
