/-
Chip8.Machine.Frame — the monochrome picture.

A frame is a flat, row-major array of cells, lit or dark, with its width
and height. A sprite is a list of rows of eight pixels, the leftmost in
the highest bit; `targets` lists the cells its set pixels fall on, with
both axes wrapping around, and `flip` inverts cells one by one and tells
whether a lit one was hit.

A size of two negative numbers makes a picture that counts its columns
and rows backwards.

Drawing is an exclusive or along wrapped places (`Proofs.Machine.Drawing`),
and drawings commute (`Proofs.Machine.Stamping`).
-/
import Chip8.Machine.Registers

namespace Chip8

/-- A picture of `width × height` cells. Counted backwards, the columns and
rows go down from the first cell, and what lies before it is found at the
end. -/
structure Frame where
  width : Nat
  height : Nat
  cells : Array Bool
  backwards : Bool := false
deriving DecidableEq

namespace Frame

def dark (width height : Nat) : Frame :=
  { width, height, cells := Array.replicate (width * height) false }

/-- The dark picture of a size given in whole numbers, if there is room for
it. -/
def ofSize (room : Number.Room) (width height : Int) : Except Fault Frame :=
  match Number.allocate room (width * height) 1 "bool" with
  | .ok _ =>
      .ok { dark width.natAbs height.natAbs with backwards := decide (width < 0 ∧ height < 0) }
  | .error shortage => .error (.noRoom shortage)

def lit (f : Frame) (p : Nat) : Bool := f.cells.getD p false

def clear (f : Frame) : Frame := { f with cells := Array.replicate f.cells.size false }

def invert (f : Frame) (p : Nat) : Frame :=
  { f with cells := f.cells.setIfInBounds p (!f.lit p) }

def litCount (f : Frame) : Nat := f.cells.foldl (fun n c => if c then n + 1 else n) 0

/-- Whether pixel `column` of a sprite row is set; column 0 is the
highest bit. -/
def pixelSet (row : Byte) (column : Nat) : Bool := row.toNat.testBit (7 - column)

/-- The cell at a column and a row, both taken around the edges. -/
def cellAt (f : Frame) (x y : Nat) : Nat :=
  if f.backwards then
    let size := f.width * f.height
    let column := (f.width - x % f.width) % f.width
    let row := (f.height - y % f.height) % f.height
    (row * f.width + (size - column)) % size
  else y % f.height * f.width + x % f.width

/-- The cells under the set pixels of one sprite row whose leftmost pixel
lies at `(x, y)`. -/
def rowTargets (f : Frame) (x y : Nat) (row : Byte) : List Nat :=
  ((List.range 8).filter (pixelSet row)).map fun column => f.cellAt (x + column) y

/-- The cells under the set pixels of a sprite placed at `(x, y)`, row by
row and from left to right. -/
def targets (f : Frame) (x y : Nat) : List Byte → List Nat
  | [] => []
  | row :: rest => f.rowTargets x y row ++ f.targets x (y + 1) rest

/-- Invert the given cells one after the other. The flag tells whether
one of them was lit when its turn came. -/
def flip (f : Frame) : List Nat → Frame × Bool
  | [] => (f, false)
  | p :: rest =>
      let was := f.lit p
      let (after, hit) := (f.invert p).flip rest
      (after, was || hit)

@[simp] theorem size_invert (f : Frame) (p : Nat) : (f.invert p).cells.size = f.cells.size := by
  simp [invert]

/-- Inverting a cell changes that cell and no other. -/
theorem lit_invert (f : Frame) (p q : Nat) :
    (f.invert p).lit q = if q = p ∧ p < f.cells.size then !f.lit p else f.lit q := by
  by_cases h : q = p
  · subst h
    by_cases hq : q < f.cells.size <;> simp [lit, invert, Array.getD_eq_getD_getElem?, hq]
  · simp [lit, invert, h, Array.getD_eq_getD_getElem?, Array.getElem?_setIfInBounds_ne (Ne.symm h)]

@[simp] theorem lit_clear (f : Frame) (p : Nat) : f.clear.lit p = false := by
  by_cases h : p < f.cells.size <;> simp [lit, clear, Array.getD_eq_getD_getElem?, h]
end Frame

end Chip8
