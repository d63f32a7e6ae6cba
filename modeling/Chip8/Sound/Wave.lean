/-
Chip8.Sound.Wave — one period of a square wave.

A wave is a run of samples at the high level and one at the low level, in
signed sixteen-bit samples, the same in every channel. Its length is the
sample rate over the frequency, rounded, and at least two. A wave for
which there is no memory is not built.

Its shape is proved in `Proofs.Sound.Shape`.
-/
import Chip8.Number.Allocation

namespace Chip8

/-- A period of a tone: `period` sample rows, the first half of them at
`level` and the others at `-level`, in each of `channels` channels. -/
structure Wave where
  period : Nat
  level : Int
  channels : Nat
deriving DecidableEq, Repr

/-- Why there is no wave. -/
inductive WaveError where
  | zeroFrequency
  /-- The sample rate over the frequency is beyond all doubles. -/
  | quotientOutOfRange
  /-- There is no room for that many samples. -/
  | noRoom (shortage : Number.Shortage)
  | notASample (value : Int)
  /-- The numeral of the frequency or the amplitude is too long to be logged. -/
  | unwritable
deriving DecidableEq, Repr

def WaveError.message : WaveError → String
  | .zeroFrequency => "division by zero"
  | .quotientOutOfRange => Number.Binary64.outOfRangeText
  | .noRoom shortage => shortage.message
  | .notASample value => Number.misfitText "int16" value
  | .unwritable => Number.unwritableText

/-- The name of the kind of an error, as it is reported. -/
def WaveError.kind : WaveError → String
  | .zeroFrequency => "ZeroDivisionError"
  | .quotientOutOfRange | .notASample _ => "OverflowError"
  | .noRoom shortage => shortage.kind
  | .unwritable => "ValueError"

namespace Wave

def isSample (n : Int) : Bool := -32768 ≤ n && n < 32768

/-- Reject a level that is no sample; the low half is looked at first. -/
def checkLevel (level : Int) : Except WaveError Unit :=
  if !isSample (-level) then .error (.notASample (-level))
  else if !isSample level then .error (.notASample level)
  else .ok ()

/-- The square wave of a tone. The amplitude is on a scale of 255. Of less
than two channels there is one. -/
def square (memory : Number.Room) (rate frequency amplitude channels : Int) :
    Except WaveError Wave :=
  if frequency = 0 then .error .zeroFrequency
  else match Number.Binary64.ofQuotient? rate frequency with
    | none => .error .quotientOutOfRange
    | some quotient => do
        let level := amplitude * 128
        let period ← (Number.allocate memory (max 2 quotient.nearest) 2 "int16").mapError .noRoom
        checkLevel level
        let channels ← (Number.allocateRows memory period channels 2 "int16").mapError .noRoom
        return { period, level, channels }

def sample (w : Wave) (k : Nat) : Int := if k < w.period / 2 then w.level else -w.level

def samples (w : Wave) : List Int := (List.range w.period).map w.sample

/-- The runs of equal samples, with their lengths. -/
def runs (w : Wave) : List (Int × Nat) :=
  let half := w.period / 2
  if w.level = 0 then [(0, w.period)] else [(w.level, half), (-w.level, w.period - half)]

end Wave

end Chip8
