/-
Chip8.Settings.Load — reading the settings from a file.

The table of the file is merged over the defaults. If the result checks,
it holds as a whole; if the file cannot be read, is no TOML document or
has a flaw, an error is logged and the defaults hold as a whole. A breach
of the shape of the table is passed on, and so is a document nested too
deep.

What a file comes to is proved in `Proofs.Settings.Outcome`, and what of it
is kept in `Proofs.Settings.Laying`.
-/
import Chip8.Log.Record
import Chip8.Settings.Merge
import Chip8.Settings.Validation
import Chip8.Text.Case
import Chip8.Toml.Document

namespace Chip8.Settings

/-- What is found in place of the settings file. -/
inductive Source where
  | absent
  | directory
  | content (bytes : List UInt8)

/-- A file that is missing, broken or invalid, with the reason to log. -/
def failureRecord (reason : String) : Log.Record := Log.error s!"Failed to load config: {reason}"

/-- The record of a file that is no document. -/
def notADocument : Log.Record := failureRecord "not a TOML document"

/-- The table with the names of keypad keys in upper case. Of several
spellings of one name the last holds, in the place of the first. -/
def normalised (t : Table) : Table :=
  match Table.get? t "keyboard" with
  | some (.table keys) =>
      Table.insert t "keyboard"
        (.table (Table.ofList (keys.map fun (k, v) => (Text.Case.upper k, v))))
  | _ => t

/-- The table of a document, if the bytes are one. -/
def document (depth : Nat) (bytes : List UInt8) : Except Toml.Broken Table :=
  match String.fromUTF8? (ByteArray.mk bytes.toArray) with
  | some text => Toml.parse depth text
  | none => .error .malformed

/-- The table that holds for a file with the given table. -/
def settle (t : Table) : Except Breach Table × List Log.Record :=
  let merged := Table.merge defaults (normalised t)
  match check merged with
  | .ok _ => (.ok merged, [])
  | .error (.flaw f) => (.ok defaults, [failureRecord f.message])
  | .error (.breach b) => (.error b, [])

/-- The table that holds for a settings file at `path`, read with so many
levels for each value. -/
def load (depth : Nat) (path : String) : Source → Except Breach Table × List Log.Record
  | .absent => (.ok defaults, [])
  | .directory =>
      (.ok defaults, [failureRecord s!"[Errno 21] Is a directory: {Text.Quoted.quote path}"])
  | .content bytes =>
      match document depth bytes with
      | .ok t => settle t
      | .error .malformed => (.ok defaults, [notADocument])
      | .error (.tooManyDigits digits) =>
          (.ok defaults, [failureRecord (Number.unreadableText digits)])
      | .error (.tooDeep level) => (.error (.tooDeep level), [])

end Chip8.Settings
