/-
Chip8.Number.ByteSize — counts of bytes in binary units.

A count is written in the unit in which it is at least one, with three
digits, or with all digits before the point if there are more. It is the
double nearest to the count of units that is rounded. The greatest unit
takes all that is left.
-/
import Chip8.Number.Layout

namespace Chip8.Number.ByteSize

/-- The units, each 1024 times the one before. -/
def units : List String := ["bytes", "KiB", "MiB", "GiB", "TiB", "PiB", "EiB"]

/-- A count of bytes in a unit, given by its number. -/
def inUnit (bytes unit : Nat) : Binary64 := .ofRatio false bytes (twoTo (10 * unit))

/-- The unit in which a count is written, by its number: a count that
would be rounded to 1024 goes to the next one. -/
def unitOf (bytes : Nat) : Nat :=
  let u := max bytes.log2 1 / 10
  if (inUnit bytes u).nearest = 1024 then u + 1 else u

def text (bytes : Nat) : String :=
  let u := min (unitOf bytes) 6
  let x := inUnit bytes u
  let layout : Layout :=
    if u = 0 then { precision := some 0, type := some 'f' }
    else if x.nearest < 1000 then
      { alternate := true, precision := some 3, type := some 'g' }
    else { alternate := true, precision := some 0, type := some 'f' }
  s!"{layout.render x} " ++ units.getD u "EiB"

end Chip8.Number.ByteSize
