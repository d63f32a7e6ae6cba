/-
Chip8.Machine.Registers — the register file.

Sixteen byte registers V0 to VF, of which VF doubles as the flag; the
index register, the program counter, the stack pointer and the two
countdown registers. The last five are whole numbers without a width:
the machine keeps them in range by what its instructions store, not by
their type.

The stack pointer names the topmost occupied slot, `-1` when the stack
is empty.
-/
import Chip8.Machine.Fault

namespace Chip8

abbrev Byte := UInt8
abbrev Word := UInt16

/-- The number of a byte register. -/
abbrev Index := Fin 16

/-- Register numbers are below sixteen. -/
theorem Index.lt (x : Index) : x.val < 16 := x.isLt

/-- The register number that a whole number is, if it is one. -/
def Index.ofInt? (n : Int) : Option Index :=
  if h : 0 ≤ n ∧ n < 16 then some ⟨n.toNat, by omega⟩ else none

/-- The register number in the low four bits of a whole number. -/
def Index.ofInt (n : Int) : Index := ⟨(n % 16).toNat, by omega⟩

/-- Where programs are loaded and where execution starts. -/
def programStart : Nat := 0x200

/-- The registers of a machine. -/
structure Registers where
  pc : Int := programStart
  v : Vector Byte 16 := Vector.replicate 16 0
  i : Int := 0
  sp : Int := -1
  delay : Int := 0
  sound : Int := 0
deriving DecidableEq

namespace Registers

def get (r : Registers) (x : Index) : Byte := r.v.get x

/-- The value of byte register `x` as a number. -/
def value (r : Registers) (x : Index) : Nat := (r.get x).toNat

def set (r : Registers) (x : Index) (b : Byte) : Registers :=
  { r with v := r.v.set x.val b x.lt }

def flagIndex : Index := 0xF

/-- The number of the register that offsets jumps. -/
def offsetIndex : Index := 0x0

def flag (r : Registers) : Byte := r.get flagIndex

/-- Store 1 in the flag register if `b` holds and 0 otherwise. -/
def setFlag (r : Registers) (b : Bool) : Registers :=
  r.set flagIndex (if b then 1 else 0)

/-- Move the program counter past one instruction. -/
def skip (r : Registers) : Registers :=
  { r with pc := r.pc + instructionSize }

/-- Move the program counter past one instruction if `b` holds. -/
def skipIf (r : Registers) (b : Bool) : Registers :=
  if b then r.skip else r

theorem get_eq (r : Registers) (x : Index) : r.get x = r.v[x.val] := rfl

@[simp] theorem get_set_self (r : Registers) (x : Index) (b : Byte) :
    (r.set x b).get x = b := by
  simp [get_eq, set]

theorem get_set_of_ne (r : Registers) {x y : Index} (b : Byte) (h : x ≠ y) :
    (r.set x b).get y = r.get y := by
  have : x.val ≠ y.val := fun e => h (Fin.ext e)
  simp [get_eq, set, this]

end Registers

/-- The byte a whole number stands for, if it is in the range of a byte. -/
def Byte.ofInt? (n : Int) : Except Fault Byte :=
  if 0 ≤ n ∧ n < 256 then .ok (UInt8.ofNat n.toNat) else .error (.notAByte n)

/-- The low byte of a whole number, in two's complement. -/
def Byte.ofInt (n : Int) : Byte := UInt8.ofNat (n % 256).toNat

/-- The word a whole number stands for, if it is in the range of a word. -/
def Word.ofInt? (n : Int) : Option Word :=
  if 0 ≤ n ∧ n ≤ 0xFFFF then some (UInt16.ofNat n.toNat) else none

/-- The low sixteen bits of a whole number, in two's complement. -/
def Word.ofInt (n : Int) : Word := UInt16.ofNat (n % 65536).toNat

end Chip8
