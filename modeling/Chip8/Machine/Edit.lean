/-
Chip8.Machine.Edit — changing a machine by hand.

An edit sets one register, stack slot or cell, or a run of memory bytes,
to values that need not be such as a program can produce. The registers
without a width take any whole number; a byte register takes bytes only
and a stack slot words only. Places below zero count from the end.

`editAll` makes edits in order up to the first that fails, and keeps what
was done before it.
-/
import Chip8.Machine.Basic

namespace Chip8

/-- One change to a machine. -/
inductive Edit where
  | pc (n : Int)
  | index (n : Int)
  | sp (n : Int)
  | delay (n : Int)
  | sound (n : Int)
  | register (place value : Int)
  | memory (start : Int) (bytes : List Byte)
  | slot (place value : Int)
  | light (cell : Int)
deriving DecidableEq, Repr

namespace Machine

def editRegister (m : Machine) (place value : Int) : Attempt :=
  match slotOf place, Byte.ofInt? value with
  | .error f, _ => m.halt f
  | .ok _, .error f => m.halt f
  | .ok x, .ok b => .ok (m.mapRegisters (·.set x b))

def editSlot (m : Machine) (place value : Int) : Attempt :=
  match slotOf place, Word.ofInt? value with
  | .error f, _ => m.halt f
  | .ok _, none => m.halt (.notAWord value)
  | .ok k, some w => .ok { m with stack := m.stack.set k.val w (Index.lt k) }

/-- Write bytes from `start` on. A single byte that falls on no place of
the memory is dropped. -/
def editMemory (m : Machine) (start : Int) (bytes : List Byte) : Attempt :=
  let first := m.memory.clamped start
  let room := m.memory.clamped (start + bytes.length) - first
  if bytes.length = room then .ok { m with memory := m.memory.writeAll first bytes }
  else if bytes.length = 1 then .ok m
  else m.halt (.spanMismatch bytes.length room)

def editCell (m : Machine) (cell : Int) : Attempt :=
  let size := m.frame.cells.size
  let place := if cell < 0 then cell + size else cell
  if 0 ≤ place ∧ place < size then
    .ok { m with frame := { m.frame with cells := m.frame.cells.setIfInBounds place.toNat true } }
  else m.halt (.noSuchPlace cell size)

def edit (m : Machine) : Edit → Attempt
  | .pc n => .ok (m.mapRegisters fun r => { r with pc := n })
  | .index n => .ok (m.mapRegisters fun r => { r with i := n })
  | .sp n => .ok (m.mapRegisters fun r => { r with sp := n })
  | .delay n => .ok (m.mapRegisters fun r => { r with delay := n })
  | .sound n => .ok (m.mapRegisters fun r => { r with sound := n })
  | .register place value => m.editRegister place value
  | .memory start bytes => m.editMemory start bytes
  | .slot place value => m.editSlot place value
  | .light cell => m.editCell cell

/-- Make changes in order, up to the first that fails. -/
def editAll (m : Machine) : List Edit → Attempt
  | [] => .ok m
  | e :: rest =>
      match m.edit e with
      | .ok next => next.editAll rest
      | .error halted => .error halted

end Machine

end Chip8
