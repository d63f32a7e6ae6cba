/-
Chip8.Machine.Transfer — moves between registers, memory and screen.

Every operation here tests the whole range of memory it is about to use
before it changes anything.

Storing and loading undo each other (`Proofs.Machine.Transfer`).
-/
import Chip8.Machine.Basic

namespace Chip8

namespace Registers

def upTo (r : Registers) (x : Index) : List Byte := r.v.toList.take (x.val + 1)

/-- Store bytes in the registers from number `k` on. -/
def setFrom (r : Registers) (k : Nat) : List Byte → Registers
  | [] => r
  | b :: rest =>
      (if h : k < 16 then r.set ⟨k, h⟩ b else r).setFrom (k + 1) rest

end Registers

namespace Machine

def getDelay (m : Machine) (x : Index) : Attempt :=
  match Byte.ofInt? m.registers.delay with
  | .error f => m.halt f
  | .ok b => .ok (m.mapRegisters (·.set x b))

/-- Point the index register at the glyph of the digit in Vx. -/
def glyph (m : Machine) (x : Index) : Machine :=
  m.mapRegisters fun r => { r with i := Font.glyphAddress (r.value x) }

/-- The three decimal digits of a byte, from the hundreds down. -/
def decimalDigits (b : Byte) : List Byte :=
  [UInt8.ofNat (b.toNat / 100), UInt8.ofNat (b.toNat / 10 % 10), UInt8.ofNat (b.toNat % 10)]

def writeAtIndex (m : Machine) (bs : List Byte) : Attempt :=
  match m.memory.checked m.registers.i bs.length with
  | .error f => m.halt f
  | .ok a => .ok { m with memory := m.memory.writeAll a bs }

/-- Write the decimal digits of Vx at the index register. -/
def digits (m : Machine) (x : Index) : Attempt := m.writeAtIndex (decimalDigits (m.registers.get x))

/-- Write V0 to Vx at the index register. -/
def store (m : Machine) (x : Index) : Attempt := m.writeAtIndex (m.registers.upTo x)

def loadRegisters (m : Machine) (x : Index) : Attempt :=
  match m.memory.checked m.registers.i (x.val + 1) with
  | .error f => m.halt f
  | .ok a => .ok (m.mapRegisters (·.setFrom 0 (m.memory.slice a (x.val + 1))))

/-- Draw a sprite of `rows` rows, read at the index register, at the
column in Vx and the row in Vy. The flag tells whether a lit cell was
made dark. -/
def draw (m : Machine) (x y : Index) (rows : Nat) : Attempt :=
  match m.memory.checked m.registers.i rows with
  | .error f => m.halt f
  | .ok a =>
      if m.frame.width = 0 ∨ m.frame.height = 0 then m.halt .emptyScreen
      else
        let sprite := m.memory.slice a rows
        let cells := m.frame.targets (m.registers.value x) (m.registers.value y) sprite
        let (frame, hit) := m.frame.flip cells
        .ok { m with frame := frame, registers := m.registers.setFlag hit }

end Machine

end Chip8
