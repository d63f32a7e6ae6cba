/-
Chip8.Text.Quoted — text in quotation marks.

Text is put between single quotes; text that holds a single quote and no
double quote is put between double quotes. Inside, the mark in use and
the backslash are escaped, tab, line feed and carriage return have their
short escapes, and every other unprintable code point is written as its
number in two, four or eight hexadecimal digits.
-/
import Chip8.Text.CodePoint
import Chip8.Text.Printable

namespace Chip8.Text.Quoted

/-- A code point inside a pair of the given marks. -/
def escaped (mark : Char) (p : CodePoint) : List Char :=
  if Printable.isPrintable p.value then
    if p.toChar = mark ∨ p.toChar = '\\' then ['\\', p.toChar] else [p.toChar]
  else if p.value = 9 then ['\\', 't']
  else if p.value = 10 then ['\\', 'n']
  else if p.value = 13 then ['\\', 'r']
  else p.numbered

def ascii (c : Char) : List Char :=
  if c.toNat < 0x80 then [c] else (CodePoint.ofChar c).numbered

def markFor (line : Line) : Char :=
  if line.contains (.ofChar '\'') && !line.contains (.ofChar '"') then '"' else '\''

def quoteLine (line : Line) : String :=
  let mark := markFor line
  String.ofList (mark :: line.flatMap (escaped mark) ++ [mark])

def quote (text : String) : String := quoteLine (Line.ofText text)

end Chip8.Text.Quoted
