/-
Chip8.Files — paths as text, and what is found at them.

A path is written without empty and `.` parts. Parts that step back (`..`)
are kept where a path is only joined, so that they are followed through
directories that are really there, and taken out where it is resolved. The
working directory is taken to lie directly below the root.
-/
import Chip8.Rom

namespace Chip8

/-- A path: where it begins, and its parts. -/
structure Location where
  root : String
  parts : List String
deriving DecidableEq, Repr

namespace Location

/-- The parts of a path text that lead somewhere. -/
def partsOf (text : String) : List String :=
  (text.splitOn "/").filter fun part => part ≠ "" && part ≠ "."

/-- The parts with every step back taken; at the root it leads nowhere. -/
def collapse (parts : List String) : List String :=
  (parts.foldl (fun done part => if part = ".." then done.drop 1 else part :: done) []).reverse

/-- A path below a directory, as it is written. -/
def join (directory text : String) : Location := ⟨directory, partsOf text⟩

/-- Whether a path has a null character, which no path of a file has. -/
def hasNull (l : Location) : Bool := l.parts.any fun part => part.toList.any fun c => c.toNat = 0

/-- Why a path cannot be resolved. -/
inductive Unresolvable where
  | embeddedNull
deriving DecidableEq, Repr

/-- The wording for a path that cannot be resolved. -/
def Unresolvable.message : Unresolvable → String
  | .embeddedNull => "embedded null byte"

/-- The path with every step back taken. A step back from where it begins
leads to the root, where a step back leads nowhere. -/
def collapsed (l : Location) : Location :=
  let (root, done) := l.parts.foldl (fun (root, done) part =>
    match part, done with
    | "..", [] => ("", [])
    | "..", _ :: rest => (root, rest)
    | part, done => (root, part :: done)) (l.root, [])
  ⟨root, done.reverse⟩

/-- A path, seen from a working directory, without steps back. -/
def resolve (directory text : String) : Except Unresolvable Location :=
  let root := if text.startsWith "/" then "" else directory
  let l : Location := ⟨root, partsOf text⟩
  if l.hasNull then .error .embeddedNull else .ok l.collapsed

def text (l : Location) : String :=
  match l.parts with
  | [] => if l.root = "" then "/" else l.root
  | parts => l.root ++ "/" ++ "/".intercalate parts

def name (l : Location) : String := l.parts.getLast?.getD ""

/-- The most bytes of one part of a path. -/
def maxNameSize : Nat := 255

/-- The most bytes of a path. -/
def maxTextSize : Nat := 4095

end Location

/-- The files and directories in a working directory. -/
structure Tree where
  files : List (List String × List Byte) := []
  directories : List (List String) := []

namespace Tree

/-- The directories that a path leads through before its last part. -/
def passed (parts : List String) : List (List String) :=
  (List.range parts.length).map fun k => Location.collapse (parts.take k)

/-- Write a file, in place of one that was there; the directories that its
path leads through come into being. -/
def write (t : Tree) (name : String) (bytes : List Byte) : Tree :=
  let parts := Location.partsOf name
  { files := (Location.collapse parts, bytes) :: t.files
    directories := passed parts ++ t.directories }

/-- Make a directory and those that its path leads through. -/
def makeDirectory (t : Tree) (name : String) : Tree :=
  let parts := Location.partsOf name
  { t with directories := Location.collapse parts :: passed parts ++ t.directories }

/-- The directories below the root that every system has. -/
def systemDirectories : List String :=
  ["dev", "etc", "home", "opt", "proc", "root", "run", "srv", "sys", "tmp", "usr", "var"]

/-- Whether a path leads to a directory, seen from the working directory if
it begins `inside` and from the root otherwise. -/
def isDirectory (t : Tree) (inside : Bool) (path : List String) : Bool :=
  let known := if inside then t.directories else systemDirectories.map fun d => [d]
  path.isEmpty || known.contains path

/-- What is found at the end of a path that goes on from a place. Outside the
working directory there are no files. -/
def walk (t : Tree) : Bool → List String → List String → Found
  | inside, here, [] =>
      if t.isDirectory inside here then .directory
      else match if inside then t.files.lookup here else none with
        | some bytes => .content bytes
        | none => .nothing
  | inside, here, part :: rest =>
      if !t.isDirectory inside here then .nothing
      else if part = ".." then
        if here.isEmpty then t.walk false [] rest else t.walk inside here.dropLast rest
      else if part.utf8ByteSize > Location.maxNameSize then .nameTooLong
      else t.walk inside (here ++ [part]) rest

def find (t : Tree) (directory : String) (l : Location) : Found :=
  if l.hasNull then .nothing
  else if l.text.utf8ByteSize > Location.maxTextSize then .nameTooLong
  else t.walk (l.root = directory) [] l.parts

end Tree

end Chip8
