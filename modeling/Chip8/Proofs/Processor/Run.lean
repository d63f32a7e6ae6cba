/-
Chip8.Proofs.Processor.Run — what can be done with a processor from
outside, and runs of it.

A `Command` is a step with a keypad, a stretch of time, another program or
a turn of the tracing switch. `obey` carries one out; what is refused or
fails leaves what it left and the next command follows. `run` carries out
a list of commands, so a statement about `p.run cs` for every `cs` is a
statement about every moment of every run.

`Fresh` processors come from `make`, with any listeners registered.
`Regular` is what holds of them at every moment (`Fresh.regular`,
`Regular.run`): the machine is in range, and the two timers count down the
delay and the sound register.
-/
import Chip8.Proofs.Processor.Step
import Chip8.Proofs.Timer.Locality

namespace Chip8

namespace Processor

/-! ## Fresh processors -/

/-- The processor that `make` makes. -/
def boot (program : List Byte) (random : RandomSource) (period : Int) (h : 0 < period) :
    Processor where
  machine := { memory := ({} : Machine).memory.writeAll programStart program }
  delayTimer := { counter := .delay, period, notify := false, period_pos := h }
  soundTimer := { counter := .sound, period, notify := true, period_pos := h }
  random := random

theorem programLimit_fresh : ({} : Machine).programLimit = maxProgramSize := by
  unfold Machine.programLimit
  rw [Memory.size_writeAll, Memory.size_zeros]
  rfl

/-- A processor is made if the program fits and the period is positive. -/
theorem make_eq_ok_iff {program : List Byte} {random : RandomSource} {period : Int}
    {p : Processor} :
    (make program random period).1 = .ok p ↔
      program.length ≤ maxProgramSize ∧ ∃ h : 0 < period, p = boot program random period h := by
  unfold make Machine.load
  rw [programLimit_fresh]
  by_cases hfit : program.length ≤ maxProgramSize
  · rw [if_neg (by omega)]
    by_cases hperiod : 0 < period
    · simp only [Timer.make, dif_pos hperiod]
      constructor
      · intro h
        injection h with h
        exact ⟨hfit, hperiod, h.symm⟩
      · rintro ⟨-, -, rfl⟩
        rfl
    · simp only [Timer.make, dif_neg hperiod]
      constructor
      · intro h
        cases h
      · rintro ⟨-, h, -⟩
        exact absurd h hperiod
  · rw [if_pos (by omega)]
    constructor
    · intro h
      cases h
    · rintro ⟨h, -⟩
      exact absurd h hfit

/-- Without a positive period there are no timers, and no processor. -/
theorem make_of_no_period {program : List Byte} {period : Int}
    (fits : program.length ≤ maxProgramSize) (h : ¬0 < period) (random : RandomSource) :
    (make program random period).1 = .error (.timer .periodNotPositive) := by
  unfold make Machine.load
  rw [programLimit_fresh, if_neg (by omega)]
  simp only [Timer.make, dif_neg h]
  rfl

/-- A processor as it comes from `make`, with listeners registered and
tracing on or off. -/
inductive Fresh : Processor → Prop
  | intro {program : List Byte} {random : RandomSource} {period : Int} {p : Processor}
      (made : (make program random period).1 = .ok p) (listeners : List Listener)
      (tracing : Bool) : Fresh { p with listeners, tracing }

/-- A fresh processor has done nothing. -/
theorem Fresh.steps {p : Processor} (h : p.Fresh) : p.steps = 0 := by
  obtain ⟨made, listeners, tracing⟩ := h
  obtain ⟨-, hperiod, rfl⟩ := make_eq_ok_iff.mp made
  rfl

/-! ## Commands -/

/-- One thing that can be done with a processor. -/
inductive Command where
  /-- Run one instruction; the keypad is as given if it is read. -/
  | step (keys : Keypad)
  /-- Let nanoseconds pass for the timers. -/
  | wait (delta : Int)
  /-- Load another program. -/
  | load (program : List Byte)
  /-- Switch tracing on or off. -/
  | trace (on : Bool)
deriving DecidableEq

/-- Whether a command runs an instruction. -/
def Command.isStep : Command → Bool
  | .step _ => true
  | _ => false

/-- Carry out one command; what fails leaves what it left. -/
def obey (p : Processor) : Command → Processor
  | .step keys => (p.step keys).processor
  | .wait delta => (p.updateTimers delta).processor
  | .load program =>
      match (p.load program).1 with
      | .ok loaded => loaded
      | .error _ => p
  | .trace on => { p with tracing := on }

/-- Carry out commands one after the other. -/
def run (p : Processor) (cs : List Command) : Processor := cs.foldl obey p

theorem run_append (p : Processor) (cs ds : List Command) :
    p.run (cs ++ ds) = (p.run cs).run ds := List.foldl_append

theorem run_concat (p : Processor) (cs : List Command) (c : Command) :
    p.run (cs ++ [c]) = (p.run cs).obey c := by
  rw [run_append]
  rfl

/-- What every command keeps holds at every moment of a run. -/
theorem run_induction (holds : Processor → Prop) {p : Processor} (h : holds p)
    (keep : ∀ q c, holds q → holds (q.obey c)) (cs : List Command) : holds (p.run cs) := by
  induction cs generalizing p with
  | nil => exact h
  | cons c cs ih => exact ih (keep p c h)

/-- A program that is loaded reaches the memory only; one that is refused
reaches nothing. -/
theorem obey_load (p : Processor) (program : List Byte) :
    p.obey (.load program) = p.withMachine (p.machine.load program).machine := by
  simp only [obey, load]
  cases h : p.machine.load program with
  | ok m => rfl
  | error halted =>
    have hsame : halted.machine = p.machine := by
      unfold Machine.load at h
      split at h
      · injection h with h
        rw [← h]
      · cases h
    rw [Attempt.machine, hsame]
    rfl

theorem obey_listeners (p : Processor) (c : Command) : (p.obey c).listeners = p.listeners := by
  cases c with
  | step keys => rw [obey, step_processor]
  | load program => rw [obey_load]; rfl
  | wait delta => rfl
  | trace on => rfl

theorem run_listeners (p : Processor) (cs : List Command) :
    (p.run cs).listeners = p.listeners :=
  run_induction (fun q => q.listeners = p.listeners) rfl
    (fun q c h => (obey_listeners q c).trans h) cs

/-! ## Regular processors -/

/-- The delay timer counts down the delay register in silence, the sound
timer counts down the sound register and notifies. -/
structure Wired (p : Processor) : Prop where
  delay_counter : p.delayTimer.counter = .delay
  delay_notify : p.delayTimer.notify = false
  sound_counter : p.soundTimer.counter = .sound
  sound_notify : p.soundTimer.notify = true

theorem Wired.delay_value {p : Processor} (h : p.Wired) (r : Registers) :
    p.delayTimer.value r = r.delay := Timer.value_of_delay h.delay_counter r

theorem Wired.sound_value {p : Processor} (h : p.Wired) (r : Registers) :
    p.soundTimer.value r = r.sound := Timer.value_of_sound h.sound_counter r

/-- An instruction that sets the sound register reports what the register asks
for. -/
theorem perform_setSound_event {p : Processor} (h : p.Wired) (keys : Keypad) (x : Index) :
    (p.perform keys (.setSound x)).event =
      some (if p.registers.value x > (0 : Int) then .started else .stopped) := by
  have hvalue : p.soundTimer.value (p.registers.setSound x) = p.registers.value x :=
    h.sound_value _
  show p.soundTimer.reportChange (p.registers.setSound x) = _
  unfold Timer.reportChange
  rw [if_pos h.sound_notify, hvalue]

/-- What holds of a processor at every moment. -/
structure Regular (p : Processor) : Prop where
  machine : p.machine.InRange (lastFetch + 4)
  timers : p.Wired

theorem Fresh.regular {p : Processor} (h : p.Fresh) : p.Regular := by
  obtain ⟨made, listeners, tracing⟩ := h
  obtain ⟨-, hperiod, rfl⟩ := make_eq_ok_iff.mp made
  have hmachine : ({} : Machine).InRange (lastFetch + 4) := Machine.inRange_fresh.mono (by omega)
  exact ⟨hmachine.withMemory (by simp), ⟨rfl, rfl, rfl, rfl⟩⟩

/-- **Time does to a processor what it does to each of its timers alone.** The
delay timer reaches the delay register and is silent; the sound timer reaches the
sound register, and does not see what became of the other. -/
theorem updateTimers_eq_alone {p : Processor} (h : p.Wired) (delta : Int) :
    let delay := p.delayTimer.update delta p.registers
    let sound := p.soundTimer.update delta p.registers
    p.updateTimers delta =
      { processor := { p with
          machine := { p.machine with registers :=
            { p.registers with
              delay := delay.registers.delay
              sound := sound.registers.sound } }
          delayTimer := delay.timer
          soundTimer := sound.timer }
        events := sound.event.toList
        journal := delay.journal ++ sound.journal } := by
  intro delay sound
  have hdelay := Timer.registers_of_delay h.delay_counter delta p.registers
  have hsilent : delay.event = none := Timer.event_of_silent h.delay_notify delta p.registers
  have hsound := Timer.registers_of_sound h.sound_counter delta delay.registers
  have hunseen : p.soundTimer.value delay.registers = p.soundTimer.value p.registers := by
    rw [h.sound_value, h.sound_value, hdelay]
  obtain ⟨htimer, hvalue, hevent, hjournal⟩ := Timer.update_congr hunseen delta
  rw [h.sound_value, h.sound_value] at hvalue
  unfold updateTimers
  simp only
  rw [hsound, htimer, hvalue, hevent, hjournal, hsilent, hdelay]
  rfl

/-- Time counts down the delay and the sound register, and touches nothing
else of the machine. -/
theorem updateTimers_machine {p : Processor} (h : p.Regular) (delta : Int) :
    (p.updateTimers delta).processor.machine =
      { p.machine with registers :=
        { p.registers with
          delay := max 0 (p.registers.delay - p.delayTimer.rounds delta)
          sound := max 0 (p.registers.sound - p.soundTimer.rounds delta) } } := by
  have hr : p.registers.InRange (lastFetch + 4) := h.machine.registers
  have hdelay := Timer.update_of_delay h.timers.delay_counter delta hr.delay_nonneg hr.delay_le
  have hsound := Timer.update_of_sound h.timers.sound_counter delta hr.sound_nonneg hr.sound_le
  rw [updateTimers_eq_alone h.timers, hdelay, hsound]

/-- Time brings the event of the sound timer and no other. -/
theorem updateTimers_events {p : Processor} (h : p.Regular) (delta : Int) :
    (p.updateTimers delta).events =
      if 0 < p.registers.sound ∧ p.registers.sound ≤ p.soundTimer.rounds delta then [.stopped]
      else [] := by
  have hc : p.soundTimer.counter ≠ .flag := by
    rw [h.timers.sound_counter]
    decide
  have hvalue := h.timers.sound_value p.registers
  have h₀ : 0 ≤ p.registers.sound := h.machine.registers.sound_nonneg
  have h₁ : p.registers.sound ≤ 255 := h.machine.registers.sound_le
  have hevent := Timer.update_event hc delta (by rwa [hvalue]) (by rwa [hvalue])
  rw [h.timers.sound_notify, hvalue] at hevent
  rw [updateTimers_eq_alone h.timers]
  simp only [hevent, true_and]
  split <;> rfl

/-- Time writes to the log at most. -/
theorem log_of_mem_updateTimers {p : Processor} {delta : Int} {e : Entry}
    (h : e ∈ (p.updateTimers delta).journal) : ∃ record, e = .log record := by
  have hupdate : ∀ {t : Timer} {r : Registers}, e ∈ (t.update delta r).journal →
      ∃ record, e = .log record := by
    intro t r he
    simp only [Timer.update] at he
    split at he
    · exact ⟨_, List.mem_singleton.mp he⟩
    · cases he
  exact (List.mem_append.mp h).elim hupdate hupdate

theorem Regular.updateTimers {p : Processor} (h : p.Regular) (delta : Int) :
    (p.updateTimers delta).processor.Regular := by
  refine ⟨?_, ⟨h.timers.1, h.timers.2, h.timers.3, h.timers.4⟩⟩
  have hr : p.registers.InRange (lastFetch + 4) := h.machine.registers
  have hdelay : ∀ n : Nat, 0 ≤ max 0 (p.registers.delay - n) ∧
      max 0 (p.registers.delay - n) ≤ 255 := by
    have := hr.delay_le
    intro n
    omega
  have hsound : ∀ n : Nat, 0 ≤ max 0 (p.registers.sound - n) ∧
      max 0 (p.registers.sound - n) ≤ 255 := by
    have := hr.sound_le
    intro n
    omega
  rw [updateTimers_machine h]
  exact h.machine.withRegisters
    ((hr.withDelay (hdelay _).1 (hdelay _).2).withSound (hsound _).1 (hsound _).2)

theorem Regular.obey {p : Processor} (h : p.Regular) (c : Command) : (p.obey c).Regular := by
  cases c with
  | step keys =>
    refine ⟨step_inRange h.machine keys, ?_⟩
    rw [Processor.obey, step_processor]
    exact ⟨h.timers.1, h.timers.2, h.timers.3, h.timers.4⟩
  | wait delta => exact h.updateTimers delta
  | load program =>
    rw [obey_load]
    exact ⟨h.machine.load program, ⟨h.timers.1, h.timers.2, h.timers.3, h.timers.4⟩⟩
  | trace on => exact ⟨h.machine, ⟨h.timers.1, h.timers.2, h.timers.3, h.timers.4⟩⟩

/-- A regular processor stays regular whatever is done with it. -/
theorem Regular.run {p : Processor} (h : p.Regular) (cs : List Command) : (p.run cs).Regular :=
  run_induction Regular h (fun _ c hq => hq.obey c) cs

end Processor

end Chip8
