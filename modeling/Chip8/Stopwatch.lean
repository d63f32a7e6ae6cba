/-
Chip8.Stopwatch — measuring elapsed time.

A stopwatch adds up the time between its starts and stops. Whether it runs is
kept beside its starting time: one that runs is to have one, and fails without
it where the time is asked for. Starting a running stopwatch and stopping a
stopped one do nothing and do not look at the clock.

What it measures is the time it runs (`Proofs.Stopwatch.Elapsed`).
-/
import Chip8.Clock
import Chip8.Number.Layout

namespace Chip8

/-- A stopwatch: whether it runs, the starting time while it does, and the time
measured in the intervals that are over. -/
structure Stopwatch where
  running : Bool := false
  startTime : Option Int := none
  elapsed : Int := 0
deriving DecidableEq, Repr

namespace Stopwatch

/-- Why a stopwatch does not tell what it measured. -/
inductive Failure where
  /-- It runs without a starting time. -/
  | neverStarted
  /-- The seconds are more than a double can hold. -/
  | outOfRange
  | layout (error : Number.LayoutError)
deriving DecidableEq, Repr

/-- The wording for a failure; there is none for a missing starting time. -/
def Failure.message : Failure → String
  | .neverStarted => ""
  | .outOfRange => Number.Binary64.outOfRangeText
  | .layout error => error.message

def start (s : Stopwatch) (clock : Clock) : Stopwatch × Clock :=
  if s.running then (s, clock)
  else
    let (now, clock) := clock.read
    ({ s with startTime := some now, running := true }, clock)

/-- The time since the start. Without a starting time the clock is not looked
at. -/
def sinceStart (s : Stopwatch) (clock : Clock) : Except Failure (Int × Clock) :=
  match s.startTime with
  | none => .error .neverStarted
  | some began =>
      let (now, clock) := clock.read
      .ok (now - began, clock)

/-- Stop, if it runs, and add the interval. -/
def stop (s : Stopwatch) (clock : Clock) : Except Failure (Stopwatch × Clock) :=
  if s.running then
    (s.sinceStart clock).map fun (time, clock) =>
      ({ running := false, startTime := none, elapsed := s.elapsed + time }, clock)
  else .ok (s, clock)

/-- The nanoseconds measured so far, those of a running interval included. -/
def nanos (s : Stopwatch) (clock : Clock) : Except Failure (Int × Clock) :=
  if s.running then (s.sinceStart clock).map fun (time, clock) => (s.elapsed + time, clock)
  else .ok (s.elapsed, clock)

/-- A stopwatch at rest with nothing measured. -/
def reset : Stopwatch := {}

/-- What a stopwatch is asked. It can be entered and left like a block, which
starts and stops it. -/
inductive Call where
  | start | stop | pause | resume | enter | leave | reset | read
deriving DecidableEq, Repr

/-- Do what is asked, and answer if it is what was measured. -/
def obey (s : Stopwatch) (clock : Clock) :
    Call → Except Failure (Stopwatch × Option Int × Clock)
  | .start | .resume | .enter =>
      let (s, clock) := s.start clock
      .ok (s, none, clock)
  | .stop | .pause | .leave => (s.stop clock).map fun (s, clock) => (s, none, clock)
  | .reset => .ok (reset, none, clock)
  | .read => (s.nanos clock).map fun (measured, clock) => (s, some measured, clock)

/-- Nanoseconds in seconds, rounded once, unless there are more than a
double can hold. -/
def seconds? (nanos : Int) : Option Number.Binary64 :=
  Number.Binary64.ofQuotient? nanos 1000000000

def secondsOf (s : Stopwatch) (clock : Clock) : Except Failure Number.Binary64 := do
  let (measured, _) ← s.nanos clock
  match seconds? measured with
  | some x => return x
  | none => throw .outOfRange

def shortLayout : Number.Layout := { precision := some 4, type := some 'f' }

/-- The state and the seconds measured as text. -/
def summary (s : Stopwatch) (clock : Clock) : Except Failure String :=
  let state := if s.running then "running" else "stopped"
  (s.secondsOf clock).map fun x => s!"Timer({state}, {shortLayout.render x}s)"

def describe (s : Stopwatch) : String :=
  let running := if s.running then "True" else "False"
  let began := match s.startTime with
    | some t => toString t
    | none => "None"
  s!"Timer(running={running}, elapsed_ns={s.elapsed}, start_time={began})"

/-- The seconds measured, by a format specification. -/
def format (s : Stopwatch) (memory : Number.Room) (clock : Clock) (spec : String) :
    Except Failure String := do
  let x ← s.secondsOf clock
  match (Number.Layout.parse spec).bind fun layout => layout.write memory x with
  | .ok text => return text
  | .error e => throw (.layout e)

end Stopwatch

end Chip8
