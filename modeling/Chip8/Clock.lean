/-
Chip8.Clock — a clock of nanoseconds.

A clock is a stream of readings and the number of readings taken from it.
Whether an operation looked at the clock can be told from the count.
-/

namespace Chip8

/-- A stream of readings and how many of them were taken. -/
structure Clock where
  reading : Nat → Int
  taken : Nat := 0

namespace Clock

def read (c : Clock) : Int × Clock := (c.reading c.taken, { c with taken := c.taken + 1 })

/-- The clock after some more readings were taken. -/
def skip (c : Clock) (readings : Nat) : Clock := { c with taken := c.taken + readings }

/-- The clock that stands still at a time. -/
def fixed (now : Int) : Clock := { reading := fun _ => now }

end Clock

end Chip8
