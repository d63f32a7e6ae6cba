/-
Chip8.Number.Decimal — decimal digits of exact quotients and of doubles.

`Digits` is a decimal number as a string of digits and the place of the
point. `fixed` rounds a quotient to a number of places after the point,
`significant` to a number of digits, and `shortest` finds the fewest
digits that still read back as the same double, and among those the
nearest ones.
-/
import Chip8.Number.Binary64

namespace Chip8.Number

/-- The decimal numeral of a whole number. -/
def numeral (n : Nat) : List Char := (Nat.toDigits 10 n)

/-- A decimal number: its digits, the first of them not zero unless all
are, and the number of digits before the point, which may be negative. -/
structure Digits where
  digits : List Char
  point : Int
deriving DecidableEq, Repr

namespace Digits

def zero : Digits := ⟨['0'], 1⟩

/-- The digits without zeros at the end; one digit stays. -/
def trimmed (d : Digits) : Digits :=
  match (d.digits.reverse.dropWhile (· = '0')).reverse with
  | [] => zero
  | digits => { d with digits }

end Digits

/-- The least `p` with `num / den < 10^p`, for positive numbers. The
logarithm gives it up to one. -/
def decimalPoint (num den : Nat) : Int :=
  let guess := floorLog2 num den * 30103 / 100000
  let below (p : Int) : Bool :=
    let (a, b) := scaleTen num den (-p)
    a < b
  if below (guess - 1) then guess - 1
  else if below guess then guess
  else if below (guess + 1) then guess + 1
  else guess + 2

/-- A quotient rounded to `places` digits after the point, as the number of
units of the last place. -/
def fixed (num den places : Nat) : Nat := roundHalfEven (num * tenTo places) den

/-- A positive quotient rounded to `count` digits. -/
def significant (num den count : Nat) : Digits :=
  let point := decimalPoint num den
  let (a, b) := scaleTen num den (count - point)
  let n := roundHalfEven a b
  if n = tenTo count then ⟨numeral (tenTo (count - 1)), point + 1⟩ else ⟨numeral n, point⟩

/-- The quotients that round to the double `m · 2^q`: four times its own
numerator and those of the ends, over a common denominator, and whether
the ends belong to it. -/
structure Rounding where
  low : Nat
  value : Nat
  high : Nat
  den : Nat
  closed : Bool

/-- The interval of quotients around `m · 2^q` that round to it. Below a
power of two the numbers lie closer together. -/
def Rounding.of (m : Nat) (q : Int) : Rounding :=
  let below := if m = twoTo 52 ∧ q > -1074 then 1 else 2
  let scale (n : Nat) : Nat := (scaleTwo n 1 (q - 2)).1
  { low := scale (4 * m - below)
    value := scale (4 * m)
    high := scale (4 * m + 2)
    den := (scaleTwo 1 1 (q - 2)).2
    closed := m % 2 = 0 }

/-- Whether `c · 10^k` lies in the interval. -/
def Rounding.contains (r : Rounding) (c : Nat) (k : Int) : Bool :=
  let (a, b) := scaleTen c 1 k
  let (x, low, high) := (a * r.den, r.low * b, r.high * b)
  if r.closed then low ≤ x && x ≤ high else low < x && x < high

/-- The nearest of the two `count`-digit neighbours of the value that lie in
the interval, if there is one. -/
def Rounding.candidate? (r : Rounding) (point : Int) (count : Nat) : Option Digits :=
  let k := point - count
  let (a, b) := scaleTen r.value r.den (-k)
  let down := a / b
  let first := roundHalfEven a b
  let second := if first = down then down + 1 else down
  let made (c : Nat) : Digits :=
    if c = tenTo count then ⟨numeral (tenTo (count - 1)), point + 1⟩ else ⟨numeral c, point⟩
  if r.contains first k then some (made first)
  else if r.contains second k then some (made second)
  else none

/-- The first count of digits, from `count` on, for which the interval holds
a decimal; after `fuel` counts the last one is taken as it is. -/
def Rounding.search (r : Rounding) (point : Int) : Nat → Nat → Digits
  | 0, count => significant r.value r.den count
  | fuel + 1, count =>
      match r.candidate? point count with
      | some d => d
      | none => r.search point fuel (count + 1)

/-- The fewest digits that read back as the double `m · 2^q`. -/
def shortest (m : Nat) (q : Int) : Digits :=
  if m = 0 then Digits.zero
  else
    let r := Rounding.of m q
    (r.search (decimalPoint r.value r.den) 16 1).trimmed

end Chip8.Number
