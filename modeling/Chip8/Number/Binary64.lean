/-
Chip8.Number.Binary64 — double-precision numbers as bit patterns.

A `Binary64` is the sixty-four bits of a number in the IEEE 754 binary64
format. `ofRatio` rounds an exact quotient once, to the nearest number
and a tie to the even one; `magnitude?` takes a finite number apart again
into `m · 2^q`. Nothing here computes in floating point.

That a quotient is rounded once is proved in `Proofs.Number.Rounding`.
-/

namespace Chip8.Number

/-- The nearest whole number to `num / den`; a tie goes to the even one. -/
def roundHalfEven (num den : Nat) : Nat :=
  let q := num / den
  let r := num % den
  if 2 * r < den then q
  else if 2 * r > den then q + 1
  else q + q % 2

def twoTo (k : Nat) : Nat := Nat.pow 2 k

def tenTo (k : Nat) : Nat := Nat.pow 10 k

/-- A quotient scaled by a power of two, as numerator and denominator. -/
def scaleTwo (num den : Nat) (q : Int) : Nat × Nat :=
  if q ≥ 0 then (num * twoTo q.toNat, den) else (num, den * twoTo (-q).toNat)

/-- A quotient scaled by a power of ten, as numerator and denominator. -/
def scaleTen (num den : Nat) (k : Int) : Nat × Nat :=
  if k ≥ 0 then (num * tenTo k.toNat, den) else (num, den * tenTo (-k).toNat)

/-- The greatest `e` with `2^e ≤ num / den`, for positive numbers. -/
def floorLog2 (num den : Nat) : Int :=
  let e : Int := (num.log2 : Int) - den.log2
  let (a, b) := scaleTwo num den (-e)
  if a ≥ b then e else e - 1

/-- A number in the binary64 format. -/
structure Binary64 where
  bits : UInt64
deriving DecidableEq, Repr

namespace Binary64

/-- The bit of the sign. -/
def signBit : Nat := twoTo 63

/-- The pattern of infinity. -/
def infinityBits : Nat := 0x7FF0000000000000

/-- The number with a sign and the pattern of its absolute value. -/
def ofParts (negative : Bool) (pattern : Nat) : Binary64 :=
  ⟨UInt64.ofNat (if negative then signBit + pattern else pattern)⟩

def infinity (negative : Bool) : Binary64 := ofParts negative infinityBits

def notANumber (negative : Bool) : Binary64 := ofParts negative 0x7FF8000000000000

/-- The pattern of a positive quotient: round to a multiple of the spacing
of the format at that magnitude. -/
def pattern (num den : Nat) : Nat :=
  let q := max (floorLog2 num den - 52) (-1074)
  let (a, b) := scaleTwo num den (-q)
  let m := roundHalfEven a b
  let carried := m = twoTo 53
  let m := if carried then twoTo 52 else m
  let q := if carried then q + 1 else q
  if q > 971 then infinityBits
  else if m < twoTo 52 then m
  else (q + 1075).toNat * twoTo 52 + (m - twoTo 52)

/-- The nearest number to a quotient with a sign. -/
def ofRatio (negative : Bool) (num den : Nat) : Binary64 :=
  ofParts negative (if num = 0 then 0 else pattern num den)

def isFinite (x : Binary64) : Bool := x.bits.toNat % signBit < infinityBits

/-- The nearest number to a quotient of whole numbers, unless it is beyond
the range of the format. -/
def ofQuotient? (num den : Int) : Option Binary64 :=
  let x := ofRatio ((num < 0) != (den < 0)) num.natAbs den.natAbs
  if x.isFinite then some x else none

/-- The wording for a quotient beyond the range of the format. -/
def outOfRangeText : String := "integer division result too large for a float"

/-- The nearest number to `mantissa · 10^exponent` with a sign. Exponents
far beyond the range of the format give infinity or zero. -/
def ofDecimal (negative : Bool) (mantissa : Nat) (exponent : Int) : Binary64 :=
  let digits : Nat := mantissa.log2 / 3 + 1
  if mantissa = 0 ∨ exponent + digits < -400 then ofParts negative 0
  else if exponent > 400 then infinity negative
  else
    let (num, den) := scaleTen mantissa 1 exponent
    ofRatio negative num den

def negative (x : Binary64) : Bool := x.bits.toNat ≥ signBit

def unsigned (x : Binary64) : Nat := x.bits.toNat % signBit

/-- A finite number's absolute value as `(m, q)` with value `m · 2^q`. -/
def magnitude? (x : Binary64) : Option (Nat × Int) :=
  let exponent : Nat := x.unsigned / twoTo 52
  let fraction : Nat := x.unsigned % twoTo 52
  if exponent = 2047 then none
  else if exponent = 0 then some (fraction, -1074)
  else some (twoTo 52 + fraction, (exponent : Int) - 1075)

/-- A finite number's absolute value as an exact quotient. -/
def ratio? (x : Binary64) : Option (Nat × Nat) :=
  x.magnitude?.map fun (m, q) => scaleTwo m 1 q

def whole? (x : Binary64) : Option Int :=
  x.ratio?.map fun (num, den) =>
    let n : Int := (num / den : Nat)
    if x.negative then -n else n

/-- The whole number nearest to a finite number; a tie goes to the even
one. -/
def nearest (x : Binary64) : Int :=
  match x.ratio? with
  | some (num, den) =>
      let n : Int := roundHalfEven num den
      if x.negative then -n else n
  | none => 0

def isInfinite (x : Binary64) : Bool := x.unsigned = infinityBits

/-- The sixteen hexadecimal digits of the pattern, highest first. -/
def hex (x : Binary64) : String :=
  let digit (k : Nat) : Char :=
    let d := x.bits.toNat / twoTo (60 - 4 * k) % 16
    if d < 10 then Char.ofNat (48 + d) else Char.ofNat (87 + d)
  String.ofList ((List.range 16).map digit)

end Binary64

end Chip8.Number
