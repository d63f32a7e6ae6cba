/-
Chip8.Machine.Flow — jumps, calls, returns and conditional skips.

A call pushes its own address and a return goes back to it; moving past
the call instruction is left to whoever runs the return. The skips move
the program counter past one extra instruction and do not count the skip
instruction itself.

The slots with the stack pointer are a stack of calls
(`Proofs.Processor.CallStack`).
-/
import Chip8.Machine.Basic

namespace Chip8

/-- A keypad snapshot: for each key whether it is down. -/
abbrev Keypad := List Bool

/-- A keypad of sixteen keys with none down. -/
def Keypad.released : Keypad := List.replicate 16 false

def Keypad.lowest? (keys : Keypad) : Option Nat := keys.findIdx? id

namespace Registers

def jump (r : Registers) (target : Nat) : Registers := { r with pc := target }

/-- Go to an address offset by V0, within twelve bits. -/
def jumpOffset (r : Registers) (a : Nat) : Registers :=
  { r with pc := ((a + r.value offsetIndex) % 4096 : Nat) }

def skipEqByte (r : Registers) (x : Index) (k : Byte) : Registers := r.skipIf (r.get x == k)

def skipNeByte (r : Registers) (x : Index) (k : Byte) : Registers := r.skipIf (r.get x != k)

def skipEq (r : Registers) (x y : Index) : Registers := r.skipIf (r.get x == r.get y)

def skipNe (r : Registers) (x y : Index) : Registers := r.skipIf (r.get x != r.get y)

end Registers

namespace Machine

/-- Take the topmost return address off the stack and go there. -/
def ret (m : Machine) : Attempt :=
  let r := m.registers
  if r.sp ≤ -1 then m.halt (.stackUnderflow r.pc)
  else match slotOf r.sp with
    | .error f => m.halt f
    | .ok s => .ok (m.mapRegisters fun r => { r with pc := (m.stack.get s).toNat, sp := r.sp - 1 })

/-- Put the program counter on the stack and go to `target`. The stack
pointer moves before the slot is written, so a slot that refuses the
address leaves it moved. -/
def call (m : Machine) (target : Nat) : Attempt :=
  let r := m.registers
  if r.sp + 1 ≥ stackDepth then m.halt (.stackOverflow r.pc)
  else
    let opened := m.mapRegisters fun r => { r with sp := r.sp + 1 }
    match slotOf (r.sp + 1) with
    | .error f => opened.halt f
    | .ok s => match Word.ofInt? r.pc with
      | none => opened.halt (.notAWord r.pc)
      | some w => .ok { opened with
          stack := m.stack.set s.val w (Index.lt s)
          registers := opened.registers.jump target }

/-- Whether the key named by Vx is down; only the low four bits of Vx
count. -/
def keyDown (m : Machine) (x : Index) (keys : Keypad) : Except Fault Bool :=
  match keys[m.registers.value x % 16]? with
  | some down => .ok down
  | none => .error .noSuchKey

def skipPressed (m : Machine) (x : Index) (keys : Keypad) : Attempt :=
  match m.keyDown x keys with
  | .error f => m.halt f
  | .ok down => .ok (m.mapRegisters (·.skipIf down))

/-- Skip unless the key named by Vx is down. -/
def skipReleased (m : Machine) (x : Index) (keys : Keypad) : Attempt :=
  match m.keyDown x keys with
  | .error f => m.halt f
  | .ok down => .ok (m.mapRegisters (·.skipIf !down))

/-- Store the lowest key that is down in Vx. The answer is false, and
nothing changes, if no key is down. -/
def awaitKey (m : Machine) (x : Index) (keys : Keypad) : Except Halted (Machine × Bool) :=
  match keys.lowest? with
  | none => .ok (m, false)
  | some key => match Byte.ofInt? key with
    | .error f => .error ⟨f, m⟩
    | .ok b => .ok (m.mapRegisters (·.set x b), true)

end Machine

end Chip8
