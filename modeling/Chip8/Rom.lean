/-
Chip8.Rom — program images.

An image has no header: the whole of it is copied to the program area, so
that its size is the only thing that can be wrong with it. An empty image
is accepted with a warning.
-/
import Chip8.Log.Record
import Chip8.Machine.Basic
import Chip8.Text.Quoted

namespace Chip8

/-- A program image, and the path of the file it came from. -/
structure Rom where
  file : String := ""
  data : List Byte
deriving DecidableEq

/-- What is found at a path. -/
inductive Found where
  | nothing
  | directory
  /-- A path that is too long, or has too long a part where one is looked up. -/
  | nameTooLong
  /-- A file that cannot be opened, with the number and text of the error. -/
  | locked (number : Int) (text : String)
  | content (bytes : List Byte)

namespace Rom

/-- Why there is no image. -/
inductive Refusal where
  | notBytes (kind : String)
  | tooLarge (size : Nat)
  | missing (path : String)
  | notRegular (path : String)
  | unreadable (path : String) (number : Int) (text : String)
  | nameTooLong (path : String)
deriving DecidableEq, Repr

/-- What is said of an error with a number at a path. -/
def errorText (number : Int) (text path : String) : String :=
  s!"[Errno {number}] {text}: {Text.Quoted.quote path}"

/-- Whether a refusal breaks off instead of being reported. -/
def Refusal.breaksOff : Refusal → Bool
  | .nameTooLong _ => true
  | _ => false

def Refusal.message : Refusal → String
  | .notBytes kind => s!"Expected bytes or bytearray, got {kind}"
  | .tooLarge size =>
      s!"Rom file is too large. Expected up to {maxProgramSize} bytes, got {size}"
  | .missing path => s!"File does not exist at {path}"
  | .notRegular path => s!"{path} does not point to a regular file"
  | .unreadable path number text =>
      s!"Unable to open file {path} for reading: {errorText number text path}"
  | .nameTooLong path => errorText 36 "File name too long" path

def ofBytes (data : List Byte) : Except Refusal Rom × List Log.Record :=
  if data.length > maxProgramSize then (.error (.tooLarge data.length), [])
  else (.ok { data }, if data.isEmpty then [Log.warning "Rom is empty"] else [])

/-- The image in what is found at `path`. -/
def ofFile (path : String) : Found → Except Refusal Rom × List Log.Record
  | .nothing => (.error (.missing path), [])
  | .directory => (.error (.notRegular path), [])
  | .nameTooLong => (.error (.nameTooLong path), [])
  | .locked number text => (.error (.unreadable path number text), [])
  | .content bytes =>
      let (made, logs) := ofBytes bytes
      (made.map fun rom => { rom with file := path }, logs)

def size (r : Rom) : Nat := r.data.length

def describe (r : Rom) : String :=
  s!"<Rom file={Text.Quoted.quote r.file} size={r.size} bytes>"

end Rom

end Chip8
