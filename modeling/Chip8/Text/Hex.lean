/-
Chip8.Text.Hex — hexadecimal text of whole numbers.

Addresses, words and bytes are written in upper-case hexadecimal, padded
with zeros to a width. The width counts the sign, so `-1` in width four
is `-001`. `digits` is the plain numeral; `padded` adds sign and padding.

The digits are read back in `Proofs.Text.Hex`.
-/

namespace Chip8.Text.Hex

def digit (d : Nat) : Char :=
  if d < 10 then Char.ofNat (48 + d) else Char.ofNat (55 + d)

def value? (c : Char) : Option Nat :=
  if c.isDigit then some (c.toNat - 48)
  else if 'a' ≤ c ∧ c ≤ 'f' then some (c.toNat - 87)
  else if 'A' ≤ c ∧ c ≤ 'F' then some (c.toNat - 55)
  else none

/-- The hexadecimal numeral of `n`, without leading zeros; zero is `0`. -/
def digits (n : Nat) : List Char :=
  if n < 16 then [digit n] else digits (n / 16) ++ [digit (n % 16)]
termination_by n
decreasing_by omega

/-- `n` in hexadecimal, filled up with zeros between the sign and the
digits until sign and digits together take `width` places. -/
def padded (width : Nat) (n : Int) : String :=
  let body := digits n.natAbs
  let sign := if n < 0 then ['-'] else []
  String.ofList (sign ++ List.replicate (width - sign.length - body.length) '0' ++ body)

/-- The lower-case two-digit form of a byte, as in a hex dump. -/
def dumpByte (b : UInt8) : List Char :=
  [(digit (b.toNat / 16)).toLower, (digit (b.toNat % 16)).toLower]

/-- A hex dump: two lower-case digits for each byte. -/
def dump (bytes : List UInt8) : String :=
  String.ofList (bytes.flatMap dumpByte)

end Chip8.Text.Hex
