/-
Chip8.Number.Range — numbers that are out of range.

Cells of a fixed width, places of an array, counts of bytes and decimal
numerals all have limits. Here are the limits of machine words, and the
wording for a number that is beyond a limit. What memory there is for bytes
is not a limit of that kind: it is up to the host, and `Room` is all that is
known of it.
-/
import Chip8.Number.Binary64

namespace Chip8.Number

/-- Whether a whole number fits sixty-four bits with a sign. -/
def fitsLong (n : Int) : Bool := -(twoTo 63 : Int) ≤ n && n < twoTo 63

/-- The memory of a host: whether it grants so many bytes for an array or a
text. -/
structure Room where
  grants : Nat → Bool

/-- Memory for up to so many bytes. -/
def Room.upTo (bytes : Nat) : Room := ⟨fun wanted => wanted ≤ bytes⟩

/-- Memory for everything. -/
def Room.ample : Room := ⟨fun _ => true⟩

/-- The wording for an array whose bytes are more than a machine word can
count. -/
def uncountableText : String := "array is too big; `arr.size * arr.dtype.itemsize` " ++
  "is larger than the maximum possible size."

/-- The low thirty-two bits of a whole number, with a sign. -/
def wrapped (n : Int) : Int := Int.bmod n (twoTo 32)

/-- The wording for a number beyond sixty-four bits. -/
def tooLongText : String := "Python int too large to convert to C long"

/-- The wording for a number that does not fit a cell of a kind. -/
def misfitText (kind : String) (n : Int) : String :=
  if fitsLong n then s!"Python integer {n} out of bounds for {kind}" else tooLongText

/-- Whether a place is beyond sixty-four bits with a sign, but not beyond
sixty-four bits without. -/
def isUnsignedOnly (place : Int) : Bool := twoTo 63 ≤ place && place < twoTo 64

/-- The wording for a place outside an array. -/
def noPlaceText (place : Int) (size : Nat) : String :=
  if fitsLong place then s!"index {place} is out of bounds for axis 0 with size {size}"
  else if isUnsignedOnly place then tooLongText
  else "only integers, slices (`:`), ellipsis (`...`), numpy.newaxis (`None`) " ++
    "and integer or boolean arrays are valid indices"

/-- The longest decimal numeral that is read or written. -/
def maxDigits : Nat := 4300

/-- Whether the numeral of a whole number is not too long. -/
def isWritable (n : Int) : Bool := n.natAbs < tenTo maxDigits

theorem isWritable_of_small {n : Int} (h : n.natAbs < 1000) : isWritable n = true := by
  have hpow : ∀ k, 3 ≤ k → 10 ^ 3 ≤ tenTo k := fun k hk => Nat.pow_le_pow_right (by decide) hk
  have hmax := hpow maxDigits (by decide)
  unfold isWritable
  rw [decide_eq_true_iff]
  omega

/-- The wording for a number whose numeral is too long. -/
def unwritableText : String :=
  s!"Exceeds the limit ({maxDigits} digits) for integer string conversion; " ++
    "use sys.set_int_max_str_digits() to increase the limit"

/-- The wording for a numeral that is too long. -/
def unreadableText (digits : Nat) : String :=
  s!"Exceeds the limit ({maxDigits} digits) for integer string conversion: " ++
    s!"value has {digits} digits; use sys.set_int_max_str_digits() to increase the limit"

end Chip8.Number
