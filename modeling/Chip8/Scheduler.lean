/-
Chip8.Scheduler — running a processor in real time.

One iteration polls the host, lets the elapsed time pass for both timers
and runs one instruction whenever a full tick period has accumulated. The
accumulator is reduced by one period and not reset, so that in the long
run the step rate is the configured one; after a stall the backlog is
worked off at one step an iteration.

`run` iterates until the host wants to quit, the scheduler is stopped, or
the program faults. Faults of the program end a run with a failure; a
fault of the host escapes from it.

The ways an iteration can go are told apart in `Proofs.Scheduler.Iteration`,
those of a run in `Proofs.Scheduler.Course`.
-/
import Chip8.Clock
import Chip8.Processor.Basic

namespace Chip8

/-- What a poll of the host brought: whether to go on, whether the host
stopped the scheduler, and the keypad as it is after the poll. -/
structure Poll where
  goOn : Bool := true
  stop : Bool := false
  keys : Keypad := Keypad.released
deriving DecidableEq

/-- A processor with its clockwork. -/
structure Scheduler where
  processor : Processor
  tickPeriod : Int
  running : Bool := false
  tickAccumulated : Int := 0
  lastTime : Option Int := none
  tickPeriod_pos : 0 < tickPeriod

/-- The outcome of one iteration. -/
structure Iterated where
  scheduler : Scheduler
  fault : Option Fault
  journal : Journal

/-- How a run ends. -/
inductive Outcome where
  /-- The number of instructions executed. -/
  | success (steps : Nat)
  | failure (fault : Fault)
deriving DecidableEq, Repr

/-- A run that has ended; the result is an error if a fault of the host
escaped. -/
structure Finished where
  scheduler : Scheduler
  result : Except Fault Outcome
  journal : Journal

namespace Scheduler

/-- What is said of a tick period that is not positive. -/
def periodMessage : String := "tick_period_ns must be a positive integer"

/-- A scheduler at rest, if the tick period is positive. -/
def make (processor : Processor) (tickPeriod : Int) : Option Scheduler :=
  if h : 0 < tickPeriod then some { processor, tickPeriod, tickPeriod_pos := h } else none

def start (s : Scheduler) : Scheduler := { s with running := true }

def stop (s : Scheduler) : Scheduler := { s with running := false }

/-- The time since the last iteration; never negative, and zero at first. -/
def elapsed (s : Scheduler) (now : Int) : Int :=
  match s.lastTime with
  | none => 0
  | some last => max 0 (now - last)

/-- The effect of a timer event on the tone. -/
def toneFor : TimerEvent → Entry
  | .started => .toneOn
  | .stopped => .toneOff

/-- Run one instruction if a full tick period has accumulated. -/
def tick (s : Scheduler) (keys : Keypad) : Iterated :=
  if s.tickAccumulated ≥ s.tickPeriod then
    let paid := { s with tickAccumulated := s.tickAccumulated - s.tickPeriod }
    let stepped := paid.processor.step keys
    let after := { paid with processor := stepped.processor }
    match stepped.result with
    | .error fault => { scheduler := after, fault := some fault, journal := stepped.journal }
    | .ok event =>
        { scheduler := after
          fault := none
          journal := stepped.journal ++ (event.map toneFor).toList }
  else { scheduler := s, fault := none, journal := [] }

/-- Let `delta` nanoseconds pass for the timers and the accumulator. -/
def advance (s : Scheduler) (delta : Int) : Scheduler × Journal :=
  let updated := s.processor.updateTimers delta
  ({ s with
      processor := updated.processor
      tickAccumulated := s.tickAccumulated + delta },
    updated.journal ++ updated.events.map toneFor)

def iterate (s : Scheduler) (now : Int) (poll : Poll) : Iterated :=
  let delta := s.elapsed now
  let seen := { s with lastTime := some now }
  let polled := if poll.stop then seen.stop else seen
  if poll.goOn then
    let (advanced, timerJournal) := polled.advance delta
    let ticked := advanced.tick poll.keys
    { ticked with journal := .poll :: (timerJournal ++ ticked.journal) }
  else
    { scheduler := polled.stop
      fault := none
      journal := [.poll, .log (Log.info "Quit requested")] }

def conclude (s : Scheduler) (journal : Array Entry) : Finished :=
  let steps := s.processor.steps
  let ending := [.toneOff, .log (Log.info s!"Interpreter stopped after {steps} steps")]
  { scheduler := s
    result := .ok (.success steps)
    journal := journal.toList ++ ending }

def abort (s : Scheduler) (fault : Fault) (journal : Array Entry) : Finished :=
  if fault.isProgram then
    let ending := [.toneOff, .log (Log.error s!"Interpreter halted: {fault.message}")]
    { scheduler := s.stop
      result := .ok (.failure fault)
      journal := journal.toList ++ ending }
  else { scheduler := s, result := .error fault, journal := journal.toList }

/-- Iterate as long as the scheduler is running, with one poll and one
reading of the clock an iteration. When the script is used up the host
quits. -/
def loop : List Poll → Clock → Scheduler → Array Entry → Finished
  | [], clock, s, journal =>
      let last := s.iterate clock.read.1 { goOn := false }
      last.scheduler.conclude (journal ++ last.journal)
  | poll :: script, clock, s, journal =>
      let (now, clock) := clock.read
      let one := s.iterate now poll
      let journal := journal ++ one.journal
      match one.fault with
      | some fault => one.scheduler.abort fault journal
      | none =>
          if one.scheduler.running then loop script clock one.scheduler journal
          else one.scheduler.conclude journal

/-- The scheduler about to run, reckoning from `now`. -/
def begin (s : Scheduler) (now : Int) : Scheduler := { s.start with lastTime := some now }

/-- What is said at the beginning of a run. -/
def beginRecord (s : Scheduler) : Log.Record :=
  Log.info s!"Interpreter started, tick period {s.tickPeriod} ns"

/-- Run with a script of polls. The first reading of the clock is the time
the first iteration reckons from. -/
def run (s : Scheduler) (script : List Poll) (clock : Clock) : Finished :=
  let (now, clock) := clock.read
  loop script clock (s.begin now) #[.log s.beginRecord]

end Scheduler

end Chip8
