/-
Chip8.Machine.Font — the built-in glyphs of the hexadecimal digits.

Each glyph is five rows of four pixels, one byte a row with the pixels in
the high half. The sixteen glyphs lie one after the other at the bottom
of the memory.
-/
import Chip8.Machine.Memory

namespace Chip8.Font

/-- The rows of a glyph. -/
def glyphSize : Nat := 5

def glyphs : List (List Byte) :=
  [ [0xF0, 0x90, 0x90, 0x90, 0xF0],
    [0x20, 0x60, 0x20, 0x20, 0x70],
    [0xF0, 0x10, 0xF0, 0x80, 0xF0],
    [0xF0, 0x10, 0xF0, 0x10, 0xF0],
    [0x90, 0x90, 0xF0, 0x10, 0x10],
    [0xF0, 0x80, 0xF0, 0x10, 0xF0],
    [0xF0, 0x80, 0xF0, 0x90, 0xF0],
    [0xF0, 0x10, 0x20, 0x40, 0x40],
    [0xF0, 0x90, 0xF0, 0x90, 0xF0],
    [0xF0, 0x90, 0xF0, 0x10, 0xF0],
    [0xF0, 0x90, 0xF0, 0x90, 0x90],
    [0xE0, 0x90, 0xE0, 0x90, 0xE0],
    [0xF0, 0x80, 0x80, 0x80, 0xF0],
    [0xE0, 0x90, 0x90, 0x90, 0xE0],
    [0xF0, 0x80, 0xF0, 0x80, 0xF0],
    [0xF0, 0x80, 0xF0, 0x80, 0x80] ]

/-- All glyph rows, as they lie in memory. -/
def bytes : List Byte := glyphs.flatten

/-- The address of the glyph of a digit; only the low four bits count. -/
def glyphAddress (digit : Int) : Int := digit % 16 * glyphSize

end Chip8.Font
