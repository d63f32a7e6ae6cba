/-
Chip8.Settings.Merge — laying one table over another.

Where both tables have a table under a key, the two are merged; everywhere
else the overriding value wins. Keys of the lower table keep their order
and come first, new keys follow in the order of the upper one.

The laws of a merge are in `Proofs.Settings.Merge`.
-/
import Chip8.Settings.Value

namespace Chip8

mutual

/-- The table `overrides` laid over `target`. -/
def Table.merge (target : Table) : Table → Table
  | [] => target
  | (k, v) :: rest => Table.merge (target.insert k (Value.over (target.get? k) v)) rest

/-- A value laid over what was there before. -/
def Value.over (old : Option Value) : Value → Value
  | .table overrides =>
      match old with
      | some (.table target) => .table (Table.merge target overrides)
      | _ => .table overrides
  | v => v

end

end Chip8
