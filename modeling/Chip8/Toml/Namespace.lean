/-
Chip8.Toml.Namespace — the tables of a document under construction.

A document names tables by paths of keys. `Marks` records which paths may
no longer be touched: an explicit one was declared by a header or by the
dots of a key, a frozen one belongs to an inline table or array, with
everything below it. `modify` changes the table at a path, creating the
tables on the way; where a path leads through an array of tables, it goes
on in the last one.
-/
import Chip8.Settings.Value

namespace Chip8.Toml

/-- A path of keys. -/
abbrev Path := List String

/-- The paths that may not be declared or changed again. -/
structure Marks where
  explicit : List Path := []
  frozen : List Path := []
  /-- Paths that become explicit at the next header. -/
  pending : List Path := []

namespace Marks

def isExplicit (m : Marks) (path : Path) : Bool := m.explicit.contains path

/-- Whether a path lies in an inline table or array. -/
def isFrozen (m : Marks) (path : Path) : Bool :=
  m.frozen.any fun top => top.isPrefixOf path

def declare (m : Marks) (path : Path) : Marks := { m with explicit := path :: m.explicit }

/-- Freeze a path and everything below it. -/
def freeze (m : Marks) (path : Path) : Marks := { m with frozen := path :: m.frozen }

/-- Remember paths to declare at the next header. -/
def postpone (m : Marks) (paths : List Path) : Marks := { m with pending := paths ++ m.pending }

def settle (m : Marks) : Marks := { m with explicit := m.pending ++ m.explicit, pending := [] }

/-- Forget a path and everything below it. -/
def release (m : Marks) (path : Path) : Marks :=
  { m with
    explicit := m.explicit.filter fun p => !path.isPrefixOf p
    frozen := m.frozen.filter fun p => !path.isPrefixOf p }

end Marks

def modifyLast (f : Value → Option Value) (items : List Value) : Option (List Value) :=
  match items.getLast? with
  | some last => (f last).map fun v => items.dropLast ++ [v]
  | none => none

/-- Change the table at a path. `through` tells whether the path may lead
through arrays. It may not lead through anything else than tables. -/
def modify (through : Bool) (f : Table → Option Table) : Path → Table → Option Table
  | [], t => f t
  | k :: path, t =>
      match Table.get? t k with
      | none => (modify through f path []).map fun sub => Table.insert t k (.table sub)
      | some (.table sub) =>
          (modify through f path sub).map fun sub => Table.insert t k (.table sub)
      | some (.list items) =>
          if through then
            (modifyLast (fun
              | .table sub => (modify through f path sub).map .table
              | _ => none) items).map fun items => Table.insert t k (.list items)
          else none
      | some _ => none

/-- Add an entry whose key is not there yet. -/
def addNew (key : String) (v : Value) (t : Table) : Option Table :=
  match Table.get? t key with
  | some _ => none
  | none => some (Table.insert t key v)

/-- Add a table to the array of tables under a key, or begin one. -/
def appendTable (key : String) (t : Table) : Option Table :=
  match Table.get? t key with
  | none => some (Table.insert t key (.list [.table []]))
  | some (.list items) => some (Table.insert t key (.list (items ++ [.table []])))
  | some _ => none

end Chip8.Toml
