/-
Chip8.Instruction.Word — the operand fields of an instruction word.

From the highest four bits down, a word is made of the family, the
registers `x` and `y` and a nibble; its low byte and its low twelve bits
are operands too. `toNat_eq` puts a word together from its four nibbles.
-/
import Chip8.Machine.Registers

namespace Chip8

/-- A twelve-bit address operand. -/
abbrev Address := Fin 4096

namespace Word

/-- The highest four bits, which choose the family of the instruction. -/
def family (w : Word) : Fin 16 := ⟨w.toNat / 4096 % 16, by omega⟩

def x (w : Word) : Index := ⟨w.toNat / 256 % 16, by omega⟩

def y (w : Word) : Index := ⟨w.toNat / 16 % 16, by omega⟩

def nibble (w : Word) : Fin 16 := ⟨w.toNat % 16, by omega⟩

def byte (w : Word) : Byte := UInt8.ofNat (w.toNat % 256)

def address (w : Word) : Address := ⟨w.toNat % 4096, by omega⟩

/-- A word is its four nibbles. -/
theorem toNat_eq (w : Word) :
    w.toNat = 4096 * w.family.val + 256 * w.x.val + 16 * w.y.val + w.nibble.val := by
  have := w.toNat_lt
  simp only [family, x, y, nibble]
  omega

end Word

end Chip8
