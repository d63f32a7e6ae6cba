/-
Chip8.Instruction.Basic — the instruction set, and the decoder.

An `Instruction` is one of thirty-four operations with its operands.
`decode` reads it off a word, family by family; a word that is no
instruction has none.

The words of each instruction are read off the decoder in
`Proofs.Instruction.Coding`.
-/
import Chip8.Instruction.Word

namespace Chip8

/-- The operations of the machine with their operands. -/
inductive Instruction where
  /-- Make the screen dark. -/
  | clear
  /-- Return from a call. -/
  | ret
  | jump (target : Address)
  | call (target : Address)
  | skipEqByte (x : Index) (k : Byte)
  | skipNeByte (x : Index) (k : Byte)
  | skipEq (x y : Index)
  | setByte (x : Index) (k : Byte)
  | addByte (x : Index) (k : Byte)
  | copy (x y : Index)
  | or (x y : Index)
  | and (x y : Index)
  | xor (x y : Index)
  | add (x y : Index)
  | sub (x y : Index)
  | shiftRight (x : Index)
  /-- Subtract the other way round: Vy less Vx. -/
  | subFrom (x y : Index)
  | shiftLeft (x : Index)
  | skipNe (x y : Index)
  | setIndex (a : Address)
  /-- Jump to an address offset by V0. -/
  | jumpOffset (a : Address)
  | random (x : Index) (mask : Byte)
  | draw (x y : Index) (rows : Fin 16)
  | skipPressed (x : Index)
  | skipReleased (x : Index)
  | getDelay (x : Index)
  | awaitKey (x : Index)
  | setDelay (x : Index)
  | setSound (x : Index)
  | addIndex (x : Index)
  /-- Point the index register at the glyph of a digit. -/
  | glyph (x : Index)
  /-- Store the decimal digits of a register. -/
  | digits (x : Index)
  /-- Store V0 to Vx. -/
  | store (x : Index)
  /-- Load V0 to Vx. -/
  | load (x : Index)
deriving DecidableEq, Repr

namespace Instruction

/-- The register operations of family 8, by the nibble. -/
def decodeArithmetic (w : Word) : Option Instruction :=
  match w.nibble.val with
  | 0x0 => some (.copy w.x w.y)
  | 0x1 => some (.or w.x w.y)
  | 0x2 => some (.and w.x w.y)
  | 0x3 => some (.xor w.x w.y)
  | 0x4 => some (.add w.x w.y)
  | 0x5 => some (.sub w.x w.y)
  | 0x6 => some (.shiftRight w.x)
  | 0x7 => some (.subFrom w.x w.y)
  | 0xE => some (.shiftLeft w.x)
  | _ => none

/-- The keypad tests of family E, by the low byte. -/
def decodeKeypad (w : Word) : Option Instruction :=
  match w.byte.toNat with
  | 0x9E => some (.skipPressed w.x)
  | 0xA1 => some (.skipReleased w.x)
  | _ => none

/-- The timer, index and memory operations of family F, by the low byte. -/
def decodeExtended (w : Word) : Option Instruction :=
  match w.byte.toNat with
  | 0x07 => some (.getDelay w.x)
  | 0x0A => some (.awaitKey w.x)
  | 0x15 => some (.setDelay w.x)
  | 0x18 => some (.setSound w.x)
  | 0x1E => some (.addIndex w.x)
  | 0x29 => some (.glyph w.x)
  | 0x33 => some (.digits w.x)
  | 0x55 => some (.store w.x)
  | 0x65 => some (.load w.x)
  | _ => none

def decode (w : Word) : Option Instruction :=
  match w.family.val with
  | 0x0 => if w = 0x00E0 then some .clear else if w = 0x00EE then some .ret else none
  | 0x1 => some (.jump w.address)
  | 0x2 => some (.call w.address)
  | 0x3 => some (.skipEqByte w.x w.byte)
  | 0x4 => some (.skipNeByte w.x w.byte)
  | 0x5 => if w.nibble.val = 0 then some (.skipEq w.x w.y) else none
  | 0x6 => some (.setByte w.x w.byte)
  | 0x7 => some (.addByte w.x w.byte)
  | 0x8 => decodeArithmetic w
  | 0x9 => if w.nibble.val = 0 then some (.skipNe w.x w.y) else none
  | 0xA => some (.setIndex w.address)
  | 0xB => some (.jumpOffset w.address)
  | 0xC => some (.random w.x w.byte)
  | 0xD => some (.draw w.x w.y w.nibble)
  | 0xE => decodeKeypad w
  | _ => decodeExtended w

end Instruction

end Chip8
