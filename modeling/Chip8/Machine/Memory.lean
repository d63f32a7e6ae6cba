/-
Chip8.Machine.Memory — the byte memory.

Memory is one flat array of bytes; the font lies at its bottom and the
program above `programStart`, but once loaded nothing tells them apart.
`fetch` reads the big-endian word at an address, `checked` is the range
test every multi-byte transfer makes before it touches anything.

What a program is once it is loaded is proved in `Proofs.Machine.Loading`.
-/
import Chip8.Machine.Registers

namespace Chip8

/-- A byte memory. -/
structure Memory where
  bytes : Array Byte
deriving DecidableEq

namespace Memory

def size (m : Memory) : Nat := m.bytes.size

def zeros (n : Nat) : Memory := ⟨Array.replicate n 0⟩

/-- A memory of zero bytes of a size given as a whole number, if there is room
for it. -/
def ofSize (room : Number.Room) (n : Int) : Except Fault Memory :=
  match Number.allocate room n 1 "uint8" with
  | .ok n => .ok (zeros n)
  | .error shortage => .error (.noRoom shortage)

/-- The byte at `a`; zero beyond the end. -/
def read (m : Memory) (a : Nat) : Byte := m.bytes.getD a 0

/-- Store a byte at `a`; nothing happens beyond the end. -/
def write (m : Memory) (a : Nat) (b : Byte) : Memory := ⟨m.bytes.setIfInBounds a b⟩

/-- Store bytes one after the other from `start` on. -/
def writeAll (m : Memory) (start : Nat) : List Byte → Memory
  | [] => m
  | b :: rest => (m.write start b).writeAll (start + 1) rest

def slice (m : Memory) (start count : Nat) : List Byte :=
  (List.range count).map fun k => m.read (start + k)

/-- A place in memory or at its end: places below zero count from the end,
and those beyond either end are moved to it. -/
def clamped (m : Memory) (place : Int) : Nat :=
  (min (if place < 0 then place + m.size else place) m.size).toNat

/-- The bytes from one place up to another, as `clamped` has them. -/
def between (m : Memory) (first last : Int) : List Byte :=
  m.slice (m.clamped first) (m.clamped last - m.clamped first)

/-- The start of a transfer of `count` bytes, if the transfer stays
inside the memory. A transfer of no bytes may start at the very end. -/
def checked (m : Memory) (start : Int) (count : Nat) : Except Fault Nat :=
  if start < 0 ∨ start + count > m.size then .error (.accessOutOfBounds start count m.size)
  else .ok start.toNat

def fetch (m : Memory) (pc : Int) : Except Fault Word :=
  if pc < 0 ∨ pc + instructionSize > m.size then .error (.fetchOutOfBounds pc)
  else
    let a := pc.toNat
    .ok (UInt16.ofNat ((m.read a).toNat * 256 + (m.read (a + 1)).toNat))

@[simp] theorem size_write (m : Memory) (a : Nat) (b : Byte) : (m.write a b).size = m.size := by
  simp [size, write]

@[simp] theorem size_writeAll (m : Memory) (start : Nat) (bs : List Byte) :
    (m.writeAll start bs).size = m.size := by
  induction bs generalizing m start with
  | nil => rfl
  | cons b rest ih => simp [writeAll, ih]

@[simp] theorem size_zeros (n : Nat) : (zeros n).size = n := by
  simp [size, zeros]

/-- What is read back after a byte was written. -/
theorem read_write (m : Memory) (a k : Nat) (b : Byte) :
    (m.write a b).read k = if k = a ∧ a < m.size then b else m.read k := by
  by_cases h : k = a
  · subst h
    by_cases hk : k < m.bytes.size <;> simp [read, write, size, Array.getD_eq_getD_getElem?, hk]
  · simp [read, write, h, Array.getD_eq_getD_getElem?, Array.getElem?_setIfInBounds_ne (Ne.symm h)]

/-- Writing leaves what lies below its start alone. -/
theorem read_writeAll_of_lt (m : Memory) {start k : Nat} (bs : List Byte) (h : k < start) :
    (m.writeAll start bs).read k = m.read k := by
  induction bs generalizing m start with
  | nil => rfl
  | cons b rest ih =>
    have : k ≠ start := by omega
    simp [writeAll, ih (m.write start b) (Nat.lt_succ_of_lt h), read_write, this]
end Memory

end Chip8
