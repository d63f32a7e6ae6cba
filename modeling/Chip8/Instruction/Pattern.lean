/-
Chip8.Instruction.Pattern — the table of instruction patterns, and the
disassembler.

A `Pattern` is a mask, the value a word has under it, a mnemonic and the
operands to print. The table is searched from the top; a word that
matches no pattern is printed as data. The table is a second description
of the instruction set, beside `Instruction.decode`.

The two agree (`Proofs.Instruction.Table`, `Proofs.Instruction.Assembly`),
and the text of a word tells its effect (`Proofs.Instruction.Disassembly`).
-/
import Chip8.Instruction.Word
import Chip8.Text.Hex

namespace Chip8

/-- One printed operand. -/
inductive Operand where
  | vx | vy | byte | nibble | address
  | v0 | index | atIndex | delay | sound | key | glyph | decimal
deriving DecidableEq, Repr

namespace Operand

/-- The operand in the table's own notation, with the fields of the word
left open. -/
def template : Operand → String
  | .vx => "V\x7bx:X\x7d"
  | .vy => "V\x7by:X\x7d"
  | .byte => "\x7bbyte\x7d"
  | .nibble => "\x7bnibble\x7d"
  | .address => "\x7baddr\x7d"
  | .v0 => "V0"
  | .index => "I"
  | .atIndex => "[I]"
  | .delay => "DT"
  | .sound => "ST"
  | .key => "K"
  | .glyph => "F"
  | .decimal => "B"

/-- The operand as it is printed for a word. -/
def text (w : Word) : Operand → String
  | .vx => "V" ++ Text.Hex.padded 1 w.x.val
  | .vy => "V" ++ Text.Hex.padded 1 w.y.val
  | .byte => "#$" ++ Text.Hex.padded 2 w.byte.toNat
  | .nibble => toString w.nibble.val
  | .address => "$" ++ Text.Hex.padded 3 w.address.val
  | fixed => fixed.template

end Operand

/-- A set of words that stand for one operation. -/
structure Pattern where
  mask : Word
  value : Word
  mnemonic : String
  operands : List Operand
deriving DecidableEq, Repr

namespace Pattern

/-- All patterns, in the order in which they are tried. -/
def table : List Pattern :=
  [ ⟨0xFFFF, 0x00E0, "CLS", []⟩,
    ⟨0xFFFF, 0x00EE, "RET", []⟩,
    ⟨0xF000, 0x1000, "JP", [.address]⟩,
    ⟨0xF000, 0x2000, "CALL", [.address]⟩,
    ⟨0xF000, 0x3000, "SE", [.vx, .byte]⟩,
    ⟨0xF000, 0x4000, "SNE", [.vx, .byte]⟩,
    ⟨0xF00F, 0x5000, "SE", [.vx, .vy]⟩,
    ⟨0xF000, 0x6000, "LD", [.vx, .byte]⟩,
    ⟨0xF000, 0x7000, "ADD", [.vx, .byte]⟩,
    ⟨0xF00F, 0x8000, "LD", [.vx, .vy]⟩,
    ⟨0xF00F, 0x8001, "OR", [.vx, .vy]⟩,
    ⟨0xF00F, 0x8002, "AND", [.vx, .vy]⟩,
    ⟨0xF00F, 0x8003, "XOR", [.vx, .vy]⟩,
    ⟨0xF00F, 0x8004, "ADD", [.vx, .vy]⟩,
    ⟨0xF00F, 0x8005, "SUB", [.vx, .vy]⟩,
    ⟨0xF00F, 0x8006, "SHR", [.vx]⟩,
    ⟨0xF00F, 0x8007, "SUBN", [.vx, .vy]⟩,
    ⟨0xF00F, 0x800E, "SHL", [.vx]⟩,
    ⟨0xF00F, 0x9000, "SNE", [.vx, .vy]⟩,
    ⟨0xF000, 0xA000, "LD", [.index, .address]⟩,
    ⟨0xF000, 0xB000, "JP", [.v0, .address]⟩,
    ⟨0xF000, 0xC000, "RND", [.vx, .byte]⟩,
    ⟨0xF000, 0xD000, "DRW", [.vx, .vy, .nibble]⟩,
    ⟨0xF0FF, 0xE09E, "SKP", [.vx]⟩,
    ⟨0xF0FF, 0xE0A1, "SKNP", [.vx]⟩,
    ⟨0xF0FF, 0xF007, "LD", [.vx, .delay]⟩,
    ⟨0xF0FF, 0xF00A, "LD", [.vx, .key]⟩,
    ⟨0xF0FF, 0xF015, "LD", [.delay, .vx]⟩,
    ⟨0xF0FF, 0xF018, "LD", [.sound, .vx]⟩,
    ⟨0xF0FF, 0xF01E, "ADD", [.index, .vx]⟩,
    ⟨0xF0FF, 0xF029, "LD", [.glyph, .vx]⟩,
    ⟨0xF0FF, 0xF033, "LD", [.decimal, .vx]⟩,
    ⟨0xF0FF, 0xF055, "LD", [.atIndex, .vx]⟩,
    ⟨0xF0FF, 0xF065, "LD", [.vx, .atIndex]⟩ ]

def Matches (p : Pattern) (w : Word) : Bool := w &&& p.mask == p.value

def find? (w : Word) : Option Pattern := table.find? (·.Matches w)

/-- The operand list in the table's own notation. -/
def template (p : Pattern) : String := ", ".intercalate (p.operands.map Operand.template)

/-- The name printed for a word that fits no pattern. -/
def unknownName : String := "???"

def name (w : Word) : String := ((find? w).map mnemonic).getD unknownName

def isIllegal (w : Word) : Bool := (find? w).isNone

/-- The instruction text of a word: mnemonic and operands, or the word as
data. -/
def disassemble (w : Word) : String :=
  match find? w with
  | none => "DW $" ++ Text.Hex.padded 4 w.toNat
  | some p =>
      match p.operands with
      | [] => p.mnemonic
      | operands => p.mnemonic ++ " " ++ ", ".intercalate (operands.map (Operand.text w))

/-- Every mnemonic once, in alphabetical order. -/
def mnemonics : List String :=
  ((table.map mnemonic).eraseDups).mergeSort (· ≤ ·)

/-- What is said of a number that is no word. -/
def notAWordMessage (n : Int) : String :=
  s!"Invalid instruction: 0x{Text.Hex.padded 0 n} (must be 0x0000-0xFFFF)"

end Pattern

end Chip8
