/-
Chip8.Processor.Basic — fetching, decoding and executing.

A processor owns a machine and the two timers bound to its registers.
`step` runs exactly one instruction. The program counter moves past it
unless the instruction went somewhere else, or waited for a key in vain;
then the same instruction is fetched again at the next step.

The keypad is an argument: the snapshot that an instruction gets if it
reads the keypad. Random bytes come from a `RandomSource`, which counts
how many were drawn. Clearing and drawing hand the picture to every
listener, in the order of registration; one that cannot be called ends
the step with the picture already changed.

The ways a step can go are told apart in `Proofs.Processor.Step`; what holds
at every moment of a run is in `Proofs.Processor.Run`.
-/
import Chip8.Instruction.Basic
import Chip8.Machine.Arithmetic
import Chip8.Machine.Flow
import Chip8.Machine.Transfer
import Chip8.Processor.Trace
import Chip8.Timer

namespace Chip8

/-- A stream of random bytes and the number of them already used. -/
structure RandomSource where
  stream : Nat → Byte
  drawn : Nat := 0

namespace RandomSource

def peek (s : RandomSource) : Byte := s.stream s.drawn

def advance (s : RandomSource) : RandomSource := { s with drawn := s.drawn + 1 }

/-- The source that repeats a list of numbers, each taken modulo 256;
without any, it yields zero for ever. -/
def cycle (values : List Int) : RandomSource :=
  let bytes := (values.map Byte.ofInt).toArray
  { stream := fun k => bytes.getD (k % bytes.size) 0 }

end RandomSource

/-- Somebody registered for finished pictures. -/
inductive Listener where
  | named (name : String)
  /-- A registration that cannot be called. -/
  | dead
deriving DecidableEq, Repr

/-- A machine with its timers and everything an instruction can reach. -/
structure Processor where
  machine : Machine
  delayTimer : Timer
  soundTimer : Timer
  random : RandomSource
  listeners : List Listener := []
  tracing : Bool := false
  trace : Trace := {}
  steps : Nat := 0

/-- Whether the program counter still has to move past the instruction. -/
inductive Flow where
  | advance | stay
deriving DecidableEq, Repr

/-- The outcome of executing one instruction. -/
structure Executed where
  processor : Processor
  flow : Except Fault Flow
  event : Option TimerEvent := none
  journal : Journal := []

/-- The outcome of one step. -/
structure Stepped where
  processor : Processor
  result : Except Fault (Option TimerEvent)
  journal : Journal

/-- The same outcome, with a reading of the keypad before everything else. -/
def Executed.afterKeypad (e : Executed) : Executed :=
  { e with journal := .keypad :: e.journal }

namespace Processor

/-- Why a processor cannot be made. -/
inductive Refusal where
  | program (fault : Fault)
  | timer (refusal : Timer.Refusal)
deriving DecidableEq

def Refusal.message : Refusal → String
  | .program fault => fault.message
  | .timer refusal => refusal.message

/-- The record of a program that was loaded. -/
def loadRecord (size : Nat) : Log.Record :=
  Log.debug s!"Loaded {size} program bytes at ${Text.Hex.padded 3 programStart}"

/-- A processor with a fresh machine that holds `program`, and what was
said on the way. -/
def make (program : List Byte) (random : RandomSource) (timerPeriod : Int) :
    Except Refusal Processor × Journal :=
  match ({} : Machine).load program with
  | .error halted => (.error (.program halted.fault), [])
  | .ok machine =>
      let made := do
        let delayTimer ← Timer.make .delay timerPeriod false
        let soundTimer ← Timer.make .sound timerPeriod true
        return ({ machine, delayTimer, soundTimer, random } : Processor)
      (made.mapError .timer, [.log (loadRecord program.length)])

def registers (p : Processor) : Registers := p.machine.registers

/-- The processor with another machine state. -/
def withMachine (p : Processor) (m : Machine) : Processor := { p with machine := m }

/-- The processor with its registers changed by `f`. -/
def mapRegisters (p : Processor) (f : Registers → Registers) : Processor :=
  p.withMachine (p.machine.mapRegisters f)

/-- Load another program into the machine as it is. -/
def load (p : Processor) (program : List Byte) : Except Fault Processor × Journal :=
  match p.machine.load program with
  | .error halted => (.error halted.fault, [])
  | .ok machine => (.ok (p.withMachine machine), [.log (loadRecord program.length)])

/-- Hand the picture to the listeners, as far as they can be called. -/
def announce (p : Processor) : Executed :=
  let reached := p.listeners.takeWhile (· ≠ .dead)
  { processor := p
    flow := if reached.length = p.listeners.length then .ok .advance else .error .deadListener
    journal := reached.filterMap fun
      | .named name => some (.frame name p.machine.frame)
      | .dead => none }

/-- The outcome of an instruction that changes registers only and cannot
fail. -/
def put (p : Processor) (r : Registers) (flow : Flow) : Executed :=
  { processor := p.mapRegisters fun _ => r, flow := .ok flow }

/-- The outcome of an instruction that was attempted on the machine. -/
def settle (p : Processor) (attempt : Attempt) (flow : Flow) : Executed :=
  match attempt with
  | .ok m => { processor := p.withMachine m, flow := .ok flow }
  | .error halted => { processor := p.withMachine halted.machine, flow := .error halted.fault }

def perform (p : Processor) (keys : Keypad) (instruction : Instruction) : Executed :=
  let m := p.machine
  let r := m.registers
  match instruction with
  | .clear => (p.withMachine m.clearScreen).announce
  | .ret => p.settle m.ret .advance
  | .jump target => p.put (r.jump target) .stay
  | .call target => p.settle (m.call target) .stay
  | .skipEqByte x k => p.put (r.skipEqByte x k) .advance
  | .skipNeByte x k => p.put (r.skipNeByte x k) .advance
  | .skipEq x y => p.put (r.skipEq x y) .advance
  | .setByte x k => p.put (r.setByte x k) .advance
  | .addByte x k => p.put (r.addByte x k) .advance
  | .copy x y => p.put (r.copy x y) .advance
  | .or x y => p.put (r.or x y) .advance
  | .and x y => p.put (r.and x y) .advance
  | .xor x y => p.put (r.xor x y) .advance
  | .add x y => p.put (r.add x y) .advance
  | .sub x y => p.put (r.sub x y) .advance
  | .shiftRight x => p.put (r.shiftRight x) .advance
  | .subFrom x y => p.put (r.subFrom x y) .advance
  | .shiftLeft x => p.put (r.shiftLeft x) .advance
  | .skipNe x y => p.put (r.skipNe x y) .advance
  | .setIndex a => p.put (r.setIndex a) .advance
  | .jumpOffset a => p.put (r.jumpOffset a) .stay
  | .random x mask =>
      { p with random := p.random.advance }.put (r.random x mask p.random.peek) .advance
  | .draw x y rows =>
      match m.draw x y rows with
      | .error halted => p.settle (.error halted) .advance
      | .ok drawn => (p.withMachine drawn).announce
  | .skipPressed x => (p.settle (m.skipPressed x keys) .advance).afterKeypad
  | .skipReleased x => (p.settle (m.skipReleased x keys) .advance).afterKeypad
  | .getDelay x => p.settle (m.getDelay x) .advance
  | .awaitKey x =>
      match m.awaitKey x keys with
      | .error halted => (p.settle (.error halted) .advance).afterKeypad
      | .ok (m, pressed) => (p.settle (.ok m) (if pressed then .advance else .stay)).afterKeypad
  | .setDelay x => p.put (r.setDelay x) .advance
  | .setSound x =>
      let done := p.put (r.setSound x) .advance
      { done with event := p.soundTimer.reportChange done.processor.registers }
  | .addIndex x => p.put (r.addIndex x) .advance
  | .glyph x => p.settle (.ok (m.glyph x)) .advance
  | .digits x => p.settle (m.digits x) .advance
  | .store x => p.settle (m.store x) .advance
  | .load x => p.settle (m.loadRegisters x) .advance

/-- Execute a word: the instruction it stands for, or a fault if it stands
for none. -/
def execute (p : Processor) (keys : Keypad) (w : Word) : Executed :=
  match Instruction.decode w with
  | some instruction => p.perform keys instruction
  | none =>
      let pc := p.registers.pc
      { processor := p
        flow := .error (.illegalInstruction w.toNat pc)
        journal := [.log (Log.error
          s!"Illegal instruction: ${Text.Hex.padded 4 w.toNat} at PC=${Text.Hex.padded 3 pc}")] }

/-- Add the line for a word to the trace, if tracing is on. -/
def record (p : Processor) (w : Word) : Processor × Journal :=
  if p.tracing then
    let line := Trace.line p.registers w
    ({ p with trace := p.trace.push line }, [.log (Log.debug line)])
  else (p, [])

/-- Move on after an instruction that was executed. -/
def finish (p : Processor) (flow : Flow) : Processor :=
  let moved := match flow with
    | .advance => p.mapRegisters Registers.skip
    | .stay => p
  { moved with steps := moved.steps + 1 }

def step (p : Processor) (keys : Keypad) : Stepped :=
  match p.machine.memory.fetch p.registers.pc with
  | .error fault => { processor := p, result := .error fault, journal := [] }
  | .ok w =>
      let (traced, traceJournal) := p.record w
      let done := traced.execute keys w
      let journal := traceJournal ++ done.journal
      match done.flow with
      | .error fault => { processor := done.processor, result := .error fault, journal }
      | .ok flow => { processor := done.processor.finish flow, result := .ok done.event, journal }

/-- The outcome of letting time pass. -/
structure TimersUpdated where
  processor : Processor
  events : List TimerEvent
  journal : Journal

/-- Let `delta` nanoseconds pass for the delay timer and then for the sound
timer. -/
def updateTimers (p : Processor) (delta : Int) : TimersUpdated :=
  let delay := p.delayTimer.update delta p.registers
  let sound := p.soundTimer.update delta delay.registers
  { processor := { p.mapRegisters fun _ => sound.registers with
      delayTimer := delay.timer
      soundTimer := sound.timer }
    events := delay.event.toList ++ sound.event.toList
    journal := delay.journal ++ sound.journal }

end Processor

end Chip8
