/-
Chip8.Timer — countdown timers.

A timer is bound to a register and counts it down by one every period of
time that is fed to it, until the register is zero. It keeps no copy of
the value, so a program that loads the register is seen at the next
update. Time that does not fill a period is kept for the next update;
when several periods have passed at once, all of them are counted and
the lag is reported.

Only a timer that notifies reports events: that the register was loaded
with something, and that it came to rest at zero.

An update counts period after period (`Proofs.Timer.CatchUp`), and has a
closed form (`Proofs.Timer.ClosedForm`).
-/
import Chip8.Log.Journal
import Chip8.Text.Quoted

namespace Chip8

/-- The nanoseconds of a second. -/
def nanosPerSecond : Int := 1000000000

/-- A register that a timer can count down. -/
inductive Counter where
  | delay | sound | pc | index | sp | flag
deriving DecidableEq, Repr

namespace Counter

def name : Counter → String
  | .delay => "delay"
  | .sound => "sound"
  | .pc => "PC"
  | .index => "I"
  | .sp => "SP"
  | .flag => "flag"

def all : List Counter := [.delay, .sound, .pc, .index, .sp, .flag]

def ofName? (text : String) : Option Counter := all.find? (·.name == text)

def value (c : Counter) (r : Registers) : Int :=
  match c with
  | .delay => r.delay
  | .sound => r.sound
  | .pc => r.pc
  | .index => r.i
  | .sp => r.sp
  | .flag => r.flag.toNat

/-- Store the low byte of a value in a counter. The flag keeps only
whether the byte is zero. -/
def store (c : Counter) (n : Int) (r : Registers) : Registers :=
  let low := n % 256
  match c with
  | .delay => { r with delay := low }
  | .sound => { r with sound := low }
  | .pc => { r with pc := low }
  | .index => { r with i := low }
  | .sp => { r with sp := low }
  | .flag => r.setFlag (low ≠ 0)

end Counter

/-- What a notifying timer reports. -/
inductive TimerEvent where
  | started | stopped
deriving DecidableEq, Repr

/-- A countdown timer. It goes by the name of its counter unless it was
given another. -/
structure Timer where
  counter : Counter
  period : Int
  notify : Bool
  accumulated : Int := 0
  name : String := counter.name
  period_pos : 0 < period
deriving DecidableEq

namespace Timer

/-- Why a timer cannot be made or used. -/
inductive Refusal where
  | periodNotPositive
  | noSuchRegister (name : String)
deriving DecidableEq, Repr

def Refusal.message : Refusal → String
  | .periodNotPositive => "period_ns must be a positive integer"
  | .noSuchRegister name => s!"Registers have no timer register named {Text.Quoted.quote name}"

/-- The timer that counts down `counter` every `period` nanoseconds. -/
def make (counter : Counter) (period : Int) (notify : Bool) : Except Refusal Timer :=
  if h : 0 < period then .ok { counter, period, notify, period_pos := h }
  else .error .periodNotPositive

def rename (t : Timer) (name : String) : Timer := { t with name }

/-- The value of the register the timer is bound to. -/
def value (t : Timer) (r : Registers) : Int := t.counter.value r

/-- What to report after the register was loaded. -/
def reportChange (t : Timer) (r : Registers) : Option TimerEvent :=
  if t.notify then some (if t.value r > 0 then .started else .stopped) else none

def tick (t : Timer) (r : Registers) : Registers :=
  if t.value r = 0 then r else t.counter.store (t.value r - 1) r

/-- Count a number of periods. The flag tells whether the register came
to zero on the way; a register that is zero stays so and ends the count. -/
def ticks (t : Timer) : Nat → Registers → Registers × Bool
  | 0, r => (r, false)
  | n + 1, r =>
      if t.value r = 0 then (r, false)
      else
        let next := t.tick r
        if t.value next = 0 then (next, true) else t.ticks n next

/-- The whole periods that are over once `delta` more nanoseconds have
passed. -/
def rounds (t : Timer) (delta : Int) : Nat := ((t.accumulated + delta) / t.period).toNat

/-- The outcome of an update. -/
structure Updated where
  timer : Timer
  registers : Registers
  event : Option TimerEvent
  journal : Journal

/-- The warning about an update that had more than one period to count. -/
def lagWarning (t : Timer) (rounds : Nat) : Log.Record :=
  Log.warning s!"Timer '{t.name}' had to do {rounds} rounds to compensate for lag"

def update (t : Timer) (delta : Int) (r : Registers) : Updated :=
  let rounds := t.rounds delta
  let (registers, stopped) := t.ticks rounds r
  { timer := { t with accumulated := t.accumulated + delta - rounds * t.period }
    registers := registers
    event := if t.notify && stopped then some .stopped else none
    journal := if rounds > 1 then [.log (t.lagWarning rounds)] else [] }

/-- A timer as text, with the text of what it is bound to. -/
def describeAs (name value : String) (period : Int) (notify : Bool) : String :=
  let notify := if notify then "True" else "False"
  s!"CountdownTimer(name={Text.Quoted.quote name}, value={value}, " ++
    s!"period_ns={period}, notify={notify})"

/-- The timer as text, with the present value of its register. -/
def describe (t : Timer) (r : Registers) : String :=
  describeAs t.name (toString (t.value r)) t.period t.notify

end Timer

end Chip8
