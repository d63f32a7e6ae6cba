/-
Chip8.Log.HeldFile — a log file that does not lose lines.

A line that cannot be written is held back. Before the next line is
written, the held ones are tried again in the order in which they came;
those that fail once more stay held. Every attempt to write may succeed
or fail on its own.

A line with a surrogate in it is no text. Writing it opens the file and
then breaks off: the line is not held, and if it was held before, neither
is the line that was to be written after it, while all held lines stay.

No line gets lost on the way (`Proofs.Log.Conservation`).
-/
import Chip8.Text.CodePoint

namespace Chip8.Log

open Text (Line Unencodable)

/-- The lines written to a file, and those held back. -/
structure HeldFile where
  written : List String := []
  held : List Line := []
  /-- Whether the file is there, be it empty. -/
  opened : Bool := false
deriving DecidableEq, Repr

namespace HeldFile

/-- What came of trying to write lines one after the other. -/
structure Attempted where
  done : List String := []
  failed : List Line := []
  opened : Bool := false
  broken : Option Unencodable := none

/-- Try to write lines one after the other; attempt `k` and those after it
succeed as `succeeds` says. -/
def attempt (succeeds : Nat → Bool) : Nat → List Line → Attempted
  | _, [] => {}
  | k, line :: rest =>
      if succeeds k then
        match line.encode with
        | .error problem => { opened := true, broken := some problem }
        | .ok text =>
            let after := attempt succeeds (k + 1) rest
            { after with done := text :: after.done, opened := true }
      else
        let after := attempt succeeds (k + 1) rest
        { after with failed := line :: after.failed }

def extend (f : HeldFile) (a : Attempted) : HeldFile :=
  { f with written := f.written ++ a.done, opened := f.opened || a.opened }

/-- Write a line, after trying those held back. -/
def emit (f : HeldFile) (succeeds : Nat → Bool) (line : Line) : HeldFile × Option Unencodable :=
  let old := attempt succeeds 0 f.held
  let f := f.extend old
  match old.broken with
  | some problem => (f, some problem)
  | none =>
      let new := attempt succeeds f.held.length [line]
      ({ f.extend new with held := old.failed ++ new.failed }, new.broken)

/-- The content of the file; there is none before it was opened. -/
def content? (f : HeldFile) : Option String :=
  if f.opened then some (String.join (f.written.map (· ++ "\n"))) else none

end HeldFile

end Chip8.Log
