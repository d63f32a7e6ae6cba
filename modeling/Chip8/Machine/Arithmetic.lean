/-
Chip8.Machine.Arithmetic — operations on the register file alone.

The additions and subtractions write their result first and the flag
last, so with `x = F` the flag wins. The shifts write the flag first and
then shift the register as it is by then, so with `x = F` they shift the
flag they have just written.

Their results as arithmetic, and the words that they come from, are in
`Proofs.Processor.Arithmetic`.
-/
import Chip8.Machine.Registers

namespace Chip8.Registers

def setByte (r : Registers) (x : Index) (k : Byte) : Registers := r.set x k

/-- Add the byte `k`, wrapping around; the flag is left alone. -/
def addByte (r : Registers) (x : Index) (k : Byte) : Registers := r.set x (r.get x + k)

def copy (r : Registers) (x y : Index) : Registers := r.set x (r.get y)

def or (r : Registers) (x y : Index) : Registers := r.set x (r.get x ||| r.get y)

def and (r : Registers) (x y : Index) : Registers := r.set x (r.get x &&& r.get y)

def xor (r : Registers) (x y : Index) : Registers := r.set x (r.get x ^^^ r.get y)

/-- Add Vy to Vx; the flag tells whether the sum passed 255. -/
def add (r : Registers) (x y : Index) : Registers :=
  (r.set x (r.get x + r.get y)).setFlag (r.value x + r.value y > 255)

/-- Subtract Vy from Vx; the flag tells whether Vx was the greater. -/
def sub (r : Registers) (x y : Index) : Registers :=
  (r.set x (r.get x - r.get y)).setFlag (r.value x > r.value y)

/-- Set Vx to Vy less Vx; the flag tells whether Vy was the greater. -/
def subFrom (r : Registers) (x y : Index) : Registers :=
  (r.set x (r.get y - r.get x)).setFlag (r.value y > r.value x)

/-- Move the lowest bit of Vx to the flag, then halve Vx. -/
def shiftRight (r : Registers) (x : Index) : Registers :=
  let flagged := r.setFlag (r.value x % 2 = 1)
  flagged.set x (UInt8.ofNat (flagged.value x / 2))

/-- Move the highest bit of Vx to the flag, then double Vx. -/
def shiftLeft (r : Registers) (x : Index) : Registers :=
  let flagged := r.setFlag (r.value x / 128 = 1)
  flagged.set x (UInt8.ofNat (flagged.value x * 2))

def random (r : Registers) (x : Index) (mask drawn : Byte) : Registers :=
  r.set x (drawn &&& mask)

def setDelay (r : Registers) (x : Index) : Registers := { r with delay := r.value x }

def setSound (r : Registers) (x : Index) : Registers := { r with sound := r.value x }

/-- Set the index register to an address. -/
def setIndex (r : Registers) (a : Nat) : Registers := { r with i := a }

/-- Add Vx to the index register, which wraps around at sixteen bits. -/
def addIndex (r : Registers) (x : Index) : Registers := { r with i := (r.i + r.value x) % 65536 }

end Chip8.Registers
