/-
Chip8.Log.Journal — the observable course of a run.

Beside the state it leaves, running a machine has effects on others: it
reads the keypad, hands pictures to listeners, polls its host, switches
the tone and writes log records. A `Journal` lists them in the order in
which they happen.
-/
import Chip8.Log.Record
import Chip8.Machine.Frame

namespace Chip8

/-- One observable effect. -/
inductive Entry where
  /-- The host was asked for its events. -/
  | poll
  /-- The keypad was read. -/
  | keypad
  /-- A listener was handed a picture. -/
  | frame (listener : String) (picture : Frame)
  /-- The tone was switched on. -/
  | toneOn
  /-- The tone was switched off. -/
  | toneOff
  /-- A log record was written. -/
  | log (record : Log.Record)
deriving DecidableEq

/-- Effects in the order in which they happen. -/
abbrev Journal := List Entry

namespace Journal

/-- How often the host was asked for its events. -/
def polls (j : Journal) : Nat := j.count .poll

def records (j : Journal) : List Log.Record :=
  j.filterMap fun
    | .log r => some r
    | _ => none

end Journal

end Chip8
