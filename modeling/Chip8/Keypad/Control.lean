/-
Chip8.Keypad.Control — the sixteen keys and the physical keyboard.

A `Control` maps key codes to keys of the keypad and holds which of them
are down. `process` takes a batch of events: if the window was closed or
Escape went down anywhere in it, the whole batch is dropped and the
answer is that the host wants to quit; otherwise every event is applied
in order.

The mapping of a keyboard table is proved in `Proofs.Keypad.Mapping`, and
that the last event for a key decides in `Proofs.Keypad.LastMove`.
-/
import Chip8.Keypad.KeyName
import Chip8.Log.Record
import Chip8.Number.Numeral
import Chip8.Scheduler

namespace Chip8

/-- What happened at the window. -/
inductive Event where
  | down (key : Int)
  | up (key : Int)
  | quit
  /-- An event that has nothing to do with keys. -/
  | other
deriving DecidableEq, Repr

/-- The keypad with the keyboard that drives it. -/
structure Control where
  mapping : List (Int × Index)
  keys : Vector Bool 16 := Vector.replicate 16 false

namespace Control

/-- The key of the keypad that a text names. -/
def hexKey? (text : String) : Option Index :=
  (Number.Numeral.hexadecimal? text).bind Index.ofInt?

/-- Map a code to a key, in place of what it was mapped to before. -/
def bind (mapping : List (Int × Index)) (code : Int) (key : Index) : List (Int × Index) :=
  mapping.filter (·.1 ≠ code) ++ [(code, key)]

/-- One entry of the keyboard table: the mapping after it, and a warning if
it cannot be used. Names of physical keys are looked up by `code?`. -/
def addEntry (code? : String → Option Nat) (mapping : List (Int × Index)) (hexKey name : String) :
    List (Int × Index) × List Log.Record :=
  match hexKey? hexKey with
  | none => (mapping, [Log.warning s!"Invalid hex key '{hexKey}' in config"])
  | some key =>
      match code? name with
      | none => (mapping, [Log.warning s!"Invalid key '{name}' in config for {hexKey}"])
      | some code => (bind mapping code key, [])

/-- Entries of the keyboard table one after the other, from a mapping on. -/
def addEntries (code? : String → Option Nat) (mapping : List (Int × Index)) :
    List (String × String) → List (Int × Index) × List Log.Record
  | [] => (mapping, [])
  | (hexKey, name) :: rest =>
      let (added, warnings) := addEntry code? mapping hexKey name
      let (final, more) := addEntries code? added rest
      (final, warnings ++ more)

/-- The mapping for a keyboard table, and the warnings about it. -/
def mappingOf (code? : String → Option Nat) (keyboard : List (String × String)) :
    List (Int × Index) × List Log.Record :=
  addEntries code? [] keyboard

/-- The control for a keyboard table, with no key down. -/
def make (keyboard : List (String × String)) : Control × List Log.Record :=
  let (mapping, warnings) := mappingOf KeyName.code? keyboard
  ({ mapping }, warnings)

/-- The key of the keypad that a code is mapped to. -/
def key? (c : Control) (code : Int) : Option Index := c.mapping.lookup code

/-- Set whether the key for a code is down. -/
def press (c : Control) (code : Int) (down : Bool) : Control :=
  match c.key? code with
  | some key => { c with keys := c.keys.set key.val down (Index.lt key) }
  | none => c

def apply (c : Control) : Event → Control
  | .down key => c.press key true
  | .up key => c.press key false
  | .quit | .other => c

def update (c : Control) (events : List Event) : Control := events.foldl apply c

def asksToQuit : Event → Bool
  | .quit => true
  | .down key => key == KeyName.escape
  | _ => false

/-- Take a batch of events; the answer is whether to go on. -/
def process (c : Control) (events : List Event) : Control × Bool :=
  if events.any asksToQuit then (c, false) else (c.update events, true)

def snapshot (c : Control) : Keypad := c.keys.toList

def reset (c : Control) : Control := { c with keys := Vector.replicate 16 false }

/-- Whether a key is down; only the low four bits of its number count. -/
def pressed (c : Control) (key : Int) : Bool :=
  c.keys.get (Index.ofInt key)

/-- A poll of the scheduler answered by a batch of events. -/
def poll (c : Control) (events : List Event) : Control × Poll :=
  let (after, goOn) := c.process events
  (after, { goOn, keys := after.snapshot })

/-- One more poll answered, after those before it. -/
def answer (answered : Control × Array Poll) (events : List Event) : Control × Array Poll :=
  let (after, poll) := answered.1.poll events
  (after, answered.2.push poll)

/-- Polls answered by one batch of events after the other. They are kept in
an array, as a script may be long. -/
def polls (c : Control) (batches : List (List Event)) : List Poll :=
  (batches.foldl answer (c, #[])).2.toList

end Control

end Chip8
