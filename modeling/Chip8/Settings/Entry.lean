/-
Chip8.Settings.Entry — changing the entries of a table.

A path of keys leads from a table through tables to an entry. Every key
but the last must be there and hold a table; what stands in the way is
told as a `Breach`. Setting an entry that is there keeps its place,
removing one that is not there is a breach.

Any two values can be laid one over the other as if they were tables; if
they are not, that too is told as a breach.
-/
import Chip8.Settings.Merge
import Chip8.Settings.Validation

namespace Chip8

namespace Breach

/-- The breach of setting an entry in what is no table. -/
def ofAssignment (v : Value) : Breach :=
  match v with
  | .list _ => .listForTable
  | v => .noAssignment v.kind

/-- The breach of removing an entry from what is no table. -/
def ofRemoval (v : Value) : Breach :=
  match v with
  | .list _ => .listForTable
  | v => .noRemoval v.kind

end Breach

namespace Table

/-- Change the table that holds the last key of a path. `refusal` is the
breach of finding something else there. -/
def atLast (refusal : Value → Breach) (change : Table → String → Except Breach Table) (t : Table) :
    List String → Except Breach Table
  | [] => .ok t
  | [key] => change t key
  | key :: next :: path => do
      match ← t.demand key with
      | .table sub => return t.insert key (.table (← atLast refusal change sub (next :: path)))
      | v => throw (if path.isEmpty then refusal v else .ofLookup v)

def setAt (t : Table) (path : List String) (v : Value) : Except Breach Table :=
  atLast .ofAssignment (fun t key => .ok (t.insert key v)) t path

/-- Remove the entry at the end of a path. -/
def removeAt (t : Table) (path : List String) : Except Breach Table :=
  atLast .ofRemoval (fun t key => (t.demand key).map fun _ => t.erase key) t path

end Table

/-- A value laid over another, as a table over a table. The upper one is
looked at first, and the lower one only where there is something to lay. -/
def Value.laidOver (overrides target : Value) : Except Breach Value :=
  match overrides, target with
  | .table [], v => .ok v
  | .table overrides, .table t => .ok (.table (Table.merge t overrides))
  | .table _, v => .error (.noKeys v.kind)
  | v, _ => .error (.noItems v.kind)

end Chip8
