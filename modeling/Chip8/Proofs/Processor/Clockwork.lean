/-
Chip8.Proofs.Processor.Clockwork — the timers and the instructions keep out
of each other's way.

The `Clockwork` of a processor is what time reaches: the two timers and the
two registers that they count down. Letting time pass replaces the clockwork
and looks at nothing else (`updateTimers_eq`). An instruction that is not
`timed` neither looks at the clockwork nor changes it, so a step on a
processor with another clockwork is the same step (`step_withClockwork`).
Hence the two can be done in either order (`step_updateTimers_comm`), at
every moment of every run.
-/
import Chip8.Proofs.Instruction.Coding
import Chip8.Proofs.Processor.Run

namespace Chip8

/-- Whether an instruction reads or loads a register that a timer counts
down. -/
def Instruction.timed : Instruction → Bool
  | .getDelay _ | .setDelay _ | .setSound _ => true
  | _ => false

/-- A word that stands for reading the delay register, or for loading the
delay or the sound register. -/
def Word.Timed (w : Word) : Prop := w.family.val = 0xF ∧ w.byte.toNat ∈ [0x07, 0x15, 0x18]

/-- A timed instruction comes from a timed word. -/
theorem Word.timed_of_decode {w : Word} {i : Instruction} (decoded : Instruction.decode w = some i)
    (timed : i.timed = true) : w.Timed := by
  have hcoded := Instruction.coded_of_decode decoded
  unfold Word.Timed
  cases i with
  | getDelay | setDelay | setSound => exact ⟨hcoded.1, by simp [hcoded.2.1]⟩
  | _ => cases timed

/-! ## Registers and machines with other counters -/

def Registers.withCounters (r : Registers) (delay sound : Int) : Registers :=
  { r with delay, sound }

theorem Registers.setFrom_withCounters (r : Registers) (k : Nat) (bs : List Byte)
    (delay sound : Int) :
    (r.withCounters delay sound).setFrom k bs = (r.setFrom k bs).withCounters delay sound := by
  induction bs generalizing r k with
  | nil => rfl
  | cons b bs ih =>
    unfold setFrom
    rw [← ih]
    split <;> rfl

/-- The machine with other values in the registers that the timers count down. -/
def Machine.withCounters (m : Machine) (delay sound : Int) : Machine :=
  m.mapRegisters (·.withCounters delay sound)

/-- The same outcome, on the machine with other counters. -/
def Attempt.withCounters (delay sound : Int) : Attempt → Attempt
  | .ok m => .ok (m.withCounters delay sound)
  | .error halted => .error ⟨halted.fault, halted.machine.withCounters delay sound⟩

namespace Machine

variable (m : Machine) (x y : Index) (keys : Keypad) (delay sound : Int)

theorem ret_withCounters :
    (m.withCounters delay sound).ret = m.ret.withCounters delay sound := by
  have hsp : (m.withCounters delay sound).registers.sp = m.registers.sp := rfl
  unfold ret
  simp only [hsp]
  split
  · rfl
  · cases slotOf m.registers.sp <;> rfl

theorem call_withCounters (target : Nat) :
    (m.withCounters delay sound).call target = (m.call target).withCounters delay sound := by
  have hsp : (m.withCounters delay sound).registers.sp = m.registers.sp := rfl
  have hpc : (m.withCounters delay sound).registers.pc = m.registers.pc := rfl
  unfold call
  simp only [hsp, hpc]
  split
  · rfl
  · cases slotOf (m.registers.sp + 1) with
    | error f => rfl
    | ok k => cases Word.ofInt? m.registers.pc <;> rfl

theorem skipPressed_withCounters :
    (m.withCounters delay sound).skipPressed x keys =
      (m.skipPressed x keys).withCounters delay sound := by
  have hdown : (m.withCounters delay sound).keyDown x keys = m.keyDown x keys := rfl
  unfold skipPressed
  rw [hdown]
  cases m.keyDown x keys with
  | error f => rfl
  | ok down => cases down <;> rfl

theorem skipReleased_withCounters :
    (m.withCounters delay sound).skipReleased x keys =
      (m.skipReleased x keys).withCounters delay sound := by
  have hdown : (m.withCounters delay sound).keyDown x keys = m.keyDown x keys := rfl
  unfold skipReleased
  rw [hdown]
  cases m.keyDown x keys with
  | error f => rfl
  | ok down => cases down <;> rfl

theorem writeAtIndex_withCounters (bs : List Byte) :
    (m.withCounters delay sound).writeAtIndex bs =
      (m.writeAtIndex bs).withCounters delay sound := by
  have hcheck : (m.withCounters delay sound).memory.checked
      (m.withCounters delay sound).registers.i bs.length =
        m.memory.checked m.registers.i bs.length := rfl
  unfold writeAtIndex
  rw [hcheck]
  cases m.memory.checked m.registers.i bs.length <;> rfl

theorem digits_withCounters :
    (m.withCounters delay sound).digits x = (m.digits x).withCounters delay sound :=
  m.writeAtIndex_withCounters delay sound (decimalDigits (m.registers.get x))

theorem store_withCounters :
    (m.withCounters delay sound).store x = (m.store x).withCounters delay sound :=
  m.writeAtIndex_withCounters delay sound (m.registers.upTo x)

theorem loadRegisters_withCounters :
    (m.withCounters delay sound).loadRegisters x =
      (m.loadRegisters x).withCounters delay sound := by
  have hcheck : (m.withCounters delay sound).memory.checked
      (m.withCounters delay sound).registers.i (x.val + 1) =
        m.memory.checked m.registers.i (x.val + 1) := rfl
  unfold loadRegisters
  rw [hcheck]
  cases m.memory.checked m.registers.i (x.val + 1) with
  | error f => rfl
  | ok a =>
    have hload := m.registers.setFrom_withCounters 0 (m.memory.slice a (x.val + 1)) delay sound
    exact congrArg (fun r => Except.ok { m with registers := r }) hload

theorem draw_withCounters (rows : Nat) :
    (m.withCounters delay sound).draw x y rows = (m.draw x y rows).withCounters delay sound := by
  have hcheck : (m.withCounters delay sound).memory.checked
      (m.withCounters delay sound).registers.i rows =
        m.memory.checked m.registers.i rows := rfl
  have hframe : (m.withCounters delay sound).frame = m.frame := rfl
  unfold draw
  rw [hcheck, hframe]
  cases m.memory.checked m.registers.i rows with
  | error f => rfl
  | ok a =>
    simp only
    split <;> rfl

/-- Waiting for a key, on the machine with other counters. -/
theorem awaitKey_withCounters :
    (m.withCounters delay sound).awaitKey x keys =
      match m.awaitKey x keys with
      | .ok (n, pressed) => .ok (n.withCounters delay sound, pressed)
      | .error halted => .error ⟨halted.fault, halted.machine.withCounters delay sound⟩ := by
  unfold awaitKey
  cases keys.lowest? with
  | none => rfl
  | some key =>
    simp only
    cases Byte.ofInt? key <;> rfl

end Machine

/-! ## The clockwork -/

/-- What time reaches in a processor. -/
structure Clockwork where
  delayTimer : Timer
  soundTimer : Timer
  delay : Int
  sound : Int

namespace Clockwork

/-- The clockwork once `delta` more nanoseconds have passed. -/
def advance (c : Clockwork) (delta : Int) : Clockwork where
  delayTimer := { c.delayTimer with
    accumulated := c.delayTimer.accumulated + delta -
      c.delayTimer.rounds delta * c.delayTimer.period }
  soundTimer := { c.soundTimer with
    accumulated := c.soundTimer.accumulated + delta -
      c.soundTimer.rounds delta * c.soundTimer.period }
  delay := max 0 (c.delay - c.delayTimer.rounds delta)
  sound := max 0 (c.sound - c.soundTimer.rounds delta)

/-- What is reported meanwhile: that the tone comes to its end. -/
def events (c : Clockwork) (delta : Int) : List TimerEvent :=
  if 0 < c.sound ∧ c.sound ≤ c.soundTimer.rounds delta then [.stopped] else []

/-- What is said meanwhile: that a timer had more than one period to count. -/
def warnings (c : Clockwork) (delta : Int) : Journal :=
  let warning (t : Timer) : Journal :=
    if t.rounds delta > 1 then [.log (t.lagWarning (t.rounds delta))] else []
  warning c.delayTimer ++ warning c.soundTimer

end Clockwork

def Processor.clockwork (p : Processor) : Clockwork :=
  ⟨p.delayTimer, p.soundTimer, p.registers.delay, p.registers.sound⟩

/-- The processor with another clockwork. -/
def Processor.withClockwork (p : Processor) (c : Clockwork) : Processor :=
  { p with
    machine := p.machine.withCounters c.delay c.sound
    delayTimer := c.delayTimer
    soundTimer := c.soundTimer }

/-- The same outcome, on the processor with another clockwork. -/
def Executed.withClockwork (e : Executed) (c : Clockwork) : Executed :=
  { e with processor := e.processor.withClockwork c }

namespace Processor

variable {p : Processor}

@[simp] theorem withClockwork_self (p : Processor) : p.withClockwork p.clockwork = p := rfl

@[simp] theorem clockwork_withClockwork (p : Processor) (c : Clockwork) :
    (p.withClockwork c).clockwork = c := rfl

/-- **Time passes for the clockwork and for nothing else.** -/
theorem updateTimers_eq (h : p.Regular) (delta : Int) :
    p.updateTimers delta =
      ⟨p.withClockwork (p.clockwork.advance delta), p.clockwork.events delta,
        p.clockwork.warnings delta⟩ := by
  have hmachine := updateTimers_machine h delta
  have hevents := updateTimers_events h delta
  have hupdate : p.updateTimers delta =
      ⟨{ p.withClockwork (p.clockwork.advance delta) with
          machine := (p.updateTimers delta).processor.machine },
        (p.updateTimers delta).events, p.clockwork.warnings delta⟩ := rfl
  rw [hupdate, hmachine, hevents]
  rfl

/-! ## Instructions and the clockwork -/

theorem settle_withClockwork (p : Processor) (attempt : Attempt) (flow : Flow) (c : Clockwork) :
    (p.withClockwork c).settle (attempt.withCounters c.delay c.sound) flow =
      (p.settle attempt flow).withClockwork c := by
  cases attempt <;> rfl

theorem put_skipIf_withClockwork (p : Processor) (b : Bool) (flow : Flow) (c : Clockwork) :
    (p.withClockwork c).put ((p.withClockwork c).registers.skipIf b) flow =
      (p.put (p.registers.skipIf b) flow).withClockwork c := by
  cases b <;> rfl

/-- **An instruction that is not timed does the same with any clockwork, and
leaves it as it is.** -/
theorem perform_withClockwork {i : Instruction} (untimed : i.timed = false) (p : Processor)
    (keys : Keypad) (c : Clockwork) :
    (p.withClockwork c).perform keys i = (p.perform keys i).withClockwork c := by
  have hmachine : (p.withClockwork c).machine = p.machine.withCounters c.delay c.sound := rfl
  cases i with
  | getDelay | setDelay | setSound => cases untimed
  | ret =>
    simp only [perform, hmachine]
    rw [Machine.ret_withCounters, settle_withClockwork]
  | call target =>
    simp only [perform, hmachine]
    rw [Machine.call_withCounters, settle_withClockwork]
  | skipEqByte x k => exact p.put_skipIf_withClockwork (p.registers.get x == k) .advance c
  | skipNeByte x k => exact p.put_skipIf_withClockwork (p.registers.get x != k) .advance c
  | skipEq x y =>
    exact p.put_skipIf_withClockwork (p.registers.get x == p.registers.get y) .advance c
  | skipNe x y =>
    exact p.put_skipIf_withClockwork (p.registers.get x != p.registers.get y) .advance c
  | skipPressed x =>
    simp only [perform, hmachine]
    rw [Machine.skipPressed_withCounters, settle_withClockwork]
    rfl
  | skipReleased x =>
    simp only [perform, hmachine]
    rw [Machine.skipReleased_withCounters, settle_withClockwork]
    rfl
  | draw x y rows =>
    simp only [perform, hmachine]
    rw [Machine.draw_withCounters]
    cases p.machine.draw x y rows <;> rfl
  | awaitKey x =>
    simp only [perform, hmachine]
    rw [Machine.awaitKey_withCounters]
    cases p.machine.awaitKey x keys <;> rfl
  | digits x =>
    simp only [perform, hmachine]
    rw [Machine.digits_withCounters, settle_withClockwork]
  | store x =>
    simp only [perform, hmachine]
    rw [Machine.store_withCounters, settle_withClockwork]
  | load x =>
    simp only [perform, hmachine]
    rw [Machine.loadRegisters_withCounters, settle_withClockwork]
  | _ => rfl

/-- The line of a trace does not show the clockwork. -/
theorem record_withClockwork (p : Processor) (w : Word) (c : Clockwork) :
    (p.withClockwork c).record w = ((p.record w).1.withClockwork c, (p.record w).2) := by
  have htracing : (p.withClockwork c).tracing = p.tracing := rfl
  unfold record
  rw [htracing]
  split <;> rfl

theorem finish_withClockwork (p : Processor) (flow : Flow) (c : Clockwork) :
    (p.withClockwork c).finish flow = (p.finish flow).withClockwork c := by
  cases flow <;> rfl

theorem execute_withClockwork {w : Word} (untimed : ¬w.Timed) (p : Processor) (keys : Keypad)
    (c : Clockwork) :
    (p.withClockwork c).execute keys w = (p.execute keys w).withClockwork c := by
  unfold execute
  cases hdecode : Instruction.decode w with
  | none => rfl
  | some i =>
    have hi : i.timed = false := Bool.eq_false_iff.mpr fun h =>
      untimed (Word.timed_of_decode hdecode h)
    exact perform_withClockwork hi p keys c

/-- **A step that is not timed is the same with any clockwork**, whether it
succeeds or fails. -/
theorem step_withClockwork
    (untimed : ∀ w, p.machine.memory.fetch p.registers.pc = .ok w → ¬w.Timed) (keys : Keypad)
    (c : Clockwork) :
    (p.withClockwork c).step keys =
      { p.step keys with processor := (p.step keys).processor.withClockwork c } := by
  have hfetch : (p.withClockwork c).machine.memory.fetch (p.withClockwork c).registers.pc =
      p.machine.memory.fetch p.registers.pc := rfl
  unfold step
  rw [hfetch]
  cases hw : p.machine.memory.fetch p.registers.pc with
  | error f => rfl
  | ok w =>
    have hexecute := execute_withClockwork (untimed w hw) (p.record w).1 keys c
    simp only [record_withClockwork, hexecute, Executed.withClockwork]
    cases ((p.record w).1.execute keys w).flow with
    | error f => rfl
    | ok flow =>
      simp only
      rw [finish_withClockwork]

/-- A step that is not timed leaves the clockwork as it is. -/
theorem step_clockwork
    (untimed : ∀ w, p.machine.memory.fetch p.registers.pc = .ok w → ¬w.Timed) (keys : Keypad) :
    (p.step keys).processor.clockwork = p.clockwork := by
  have hstep := step_withClockwork untimed keys p.clockwork
  rw [withClockwork_self] at hstep
  rw [hstep, clockwork_withClockwork]

/-! ## The statement -/

/-- **Letting time pass and executing an instruction can be done in either
order.** At every moment of every run, unless the word at the program counter
reads or loads a register that a timer counts down: the two orders end in the
same state, the step has the same outcome in both, and the timers report the
same. -/
theorem step_updateTimers_comm (fresh : p.Fresh) (cs : List Command) (keys : Keypad) (delta : Int)
    (untimed : ∀ w, (p.run cs).machine.memory.fetch (p.run cs).registers.pc = .ok w → ¬w.Timed) :
    let stepped := (p.run cs).step keys
    let waited := (p.run cs).updateTimers delta
    let steppedThenWaited := stepped.processor.updateTimers delta
    let waitedThenStepped := waited.processor.step keys
    steppedThenWaited.processor = waitedThenStepped.processor ∧
      stepped.result = waitedThenStepped.result ∧
      stepped.journal = waitedThenStepped.journal ∧
      steppedThenWaited.events = waited.events ∧
      steppedThenWaited.journal = waited.journal := by
  intro stepped waited steppedThenWaited waitedThenStepped
  have hregular := fresh.regular.run cs
  have hclockwork : stepped.processor.clockwork = (p.run cs).clockwork :=
    step_clockwork untimed keys
  have hwaited : waited = ⟨(p.run cs).withClockwork ((p.run cs).clockwork.advance delta),
      (p.run cs).clockwork.events delta, (p.run cs).clockwork.warnings delta⟩ :=
    updateTimers_eq hregular delta
  have hfirst : steppedThenWaited =
      ⟨stepped.processor.withClockwork ((p.run cs).clockwork.advance delta),
        (p.run cs).clockwork.events delta, (p.run cs).clockwork.warnings delta⟩ := by
    rw [← hclockwork]
    exact updateTimers_eq (hregular.obey (.step keys)) delta
  have hsecond : waitedThenStepped = { stepped with
      processor := stepped.processor.withClockwork ((p.run cs).clockwork.advance delta) } := by
    show waited.processor.step keys = _
    rw [hwaited]
    exact step_withClockwork untimed keys _
  rw [hfirst, hsecond, hwaited]
  exact ⟨rfl, rfl, rfl, rfl, rfl⟩

/-- The tone ends while the screen is cleared. -/
theorem step_updateTimers_comm_clear_while_tone_ends :
    ∃ p : Processor, p.Fresh ∧
      let q := p.run [.step Keypad.released, .step Keypad.released]
      (((q.step Keypad.released).processor.updateTimers 5).events = [.stopped]) ∧
      ((q.step Keypad.released).processor.updateTimers 5).processor =
        ((q.updateTimers 5).processor.step Keypad.released).processor := by
  have fresh : ({ boot [0x60, 0x05, 0xF0, 0x18, 0x00, 0xE0] (RandomSource.cycle []) 1 (by decide)
      with listeners := [.named "screen"], tracing := true } : Processor).Fresh :=
    .intro (make_eq_ok_iff.mpr ⟨by decide, by decide, rfl⟩) [.named "screen"] true
  have hcomm := step_updateTimers_comm fresh [.step Keypad.released, .step Keypad.released]
    Keypad.released 5 (by
      intro w hw
      obtain rfl : 0x00E0 = w := Except.ok.inj (Eq.trans (by decide +kernel) hw)
      unfold Word.Timed
      decide)
  exact ⟨_, fresh, hcomm.2.2.2.1.trans (by decide +kernel), hcomm.1⟩

end Processor

end Chip8
