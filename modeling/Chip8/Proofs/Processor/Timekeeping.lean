/-
Chip8.Proofs.Processor.Timekeeping — what a processor's timers do with the
time they get.

A `Dial` names one of the two timers. When time passes, a timer catches up
with it: it is fed the time and ticks once for each whole period
(`catchUp`). `duration` is the time that a command lets pass, `ticks` and
`periods` count what a timer ticks during one command and over a run: the
rounds of its updates, and nothing else (`counted`).

Time is kept whatever a run does in between (`run_balance`): the ticks of a
timer and what it has left over are the time it was given. As long as no
command turns time back, less than one period is left over
(`run_remainder`).
-/
import Chip8.Proofs.Processor.Run
import Chip8.Proofs.Timer.CatchUp

namespace Chip8

namespace Processor

/-- The two timers of a processor. -/
inductive Dial where
  | delay | sound
deriving DecidableEq

def timer (p : Processor) : Dial → Timer
  | .delay => p.delayTimer
  | .sound => p.soundTimer

/-- The timers of a fresh processor have kept no time. -/
theorem Fresh.timer_accumulated {p : Processor} (h : p.Fresh) (dial : Dial) :
    (p.timer dial).accumulated = 0 := by
  obtain ⟨made, listeners, tracing⟩ := h
  obtain ⟨-, hperiod, rfl⟩ := make_eq_ok_iff.mp made
  cases dial <;> rfl

/-- How a timer catches up with a stretch of time; the sound timer finds
the registers as the delay timer left them. -/
def catchUp (p : Processor) (delta : Int) (dial : Dial) : Timer.CaughtUp :=
  let first := (p.delayTimer.feed delta).catchUp p.registers
  match dial with
  | .delay => first
  | .sound => (p.soundTimer.feed delta).catchUp first.registers

/-- The ticks that a timer counts during a command. -/
def ticks (p : Processor) (dial : Dial) : Command → Nat
  | .wait delta => (p.catchUp delta dial).periods
  | _ => 0

/-- The ticks that a timer counts while commands are carried out. -/
def periods (p : Processor) (dial : Dial) : List Command → Nat
  | [] => 0
  | c :: cs => p.ticks dial c + (p.obey c).periods dial cs

/-- The time that a command lets pass. -/
def Command.duration : Command → Int
  | .wait delta => delta
  | _ => 0

/-- Letting time pass is letting both timers catch up. -/
theorem updateTimers_eq_catchUp (p : Processor) (delta : Int) :
    (p.updateTimers delta).processor =
      { p.mapRegisters fun _ => (p.catchUp delta .sound).registers with
        delayTimer := (p.catchUp delta .delay).timer
        soundTimer := (p.catchUp delta .sound).timer } := by
  simp only [updateTimers, Timer.update_eq_catchUp, catchUp]

/-! ## One command -/

theorem obey_timer {c : Command} (h : ∀ delta, c ≠ .wait delta) (p : Processor) (dial : Dial) :
    (p.obey c).timer dial = p.timer dial := by
  cases c with
  | step keys => rw [obey, step_processor]; cases dial <;> rfl
  | wait delta => exact absurd rfl (h delta)
  | load program => rw [obey_load]; cases dial <;> rfl
  | trace on => cases dial <;> rfl

theorem obey_period (p : Processor) (c : Command) (dial : Dial) :
    ((p.obey c).timer dial).period = (p.timer dial).period := by
  cases c with
  | wait delta => cases dial <;> rfl
  | step | load | trace => rw [obey_timer (by simp)]

theorem wait_timer (p : Processor) (delta : Int) (dial : Dial) :
    (p.obey (.wait delta)).timer dial = (p.catchUp delta dial).timer := by
  rw [obey, updateTimers_eq_catchUp]
  cases dial <;> rfl

/-- The registers that a timer finds when time passes. -/
def found (p : Processor) (delta : Int) : Dial → Registers
  | .delay => p.registers
  | .sound => (p.delayTimer.update delta p.registers).registers

/-- To catch up is to be fed the time and to tick. -/
theorem catchUp_eq_found (p : Processor) (delta : Int) (dial : Dial) :
    p.catchUp delta dial = ((p.timer dial).feed delta).catchUp (p.found delta dial) := by
  cases dial with
  | delay => rfl
  | sound =>
    unfold found
    rw [Timer.update_eq_catchUp]
    rfl

/-- What time does to a timer is its update. -/
theorem wait_timer_eq_update (p : Processor) (delta : Int) (dial : Dial) :
    (p.obey (.wait delta)).timer dial =
      ((p.timer dial).update delta (p.found delta dial)).timer := by
  rw [wait_timer, catchUp_eq_found, Timer.update_eq_catchUp]

/-- The time of a command goes into ticks and into what is left over. -/
theorem obey_balance (p : Processor) (c : Command) (dial : Dial) :
    ((p.obey c).timer dial).accumulated + (p.timer dial).period * p.ticks dial c =
      (p.timer dial).accumulated + c.duration := by
  cases c with
  | wait delta =>
    rw [wait_timer, ticks, catchUp_eq_found]
    exact Timer.catchUp_accumulated _ _
  | step | load | trace =>
    rw [obey_timer (by simp)]
    simp [ticks, Command.duration]

theorem obey_remainder {p : Processor} {c : Command} (h : 0 ≤ c.duration) {dial : Dial}
    (hkept : 0 ≤ (p.timer dial).accumulated ∧
      (p.timer dial).accumulated < (p.timer dial).period) :
    0 ≤ ((p.obey c).timer dial).accumulated ∧
      ((p.obey c).timer dial).accumulated < ((p.obey c).timer dial).period := by
  cases c with
  | wait delta =>
    rw [obey_period, wait_timer, catchUp_eq_found]
    exact Timer.catchUp_remainder (add_nonneg hkept.1 h) _
  | step | load | trace => rwa [obey_timer (by simp)]

/-! ## Runs -/

theorem periods_concat (p : Processor) (dial : Dial) (cs : List Command) (c : Command) :
    p.periods dial (cs ++ [c]) = p.periods dial cs + (p.run cs).ticks dial c := by
  induction cs generalizing p with
  | nil => exact Nat.add_comm ..
  | cons first cs ih =>
    rw [List.cons_append, periods, periods, ih, Nat.add_assoc]
    rfl

/-- What one more command is to the ticks that a timer has counted. -/
structure Counted (p : Processor) (dial : Dial) (before : List Command) (c : Command) : Prop where
  /-- Time goes through the update of the timer, and the rounds of the update are
  what is counted. In each round the timer ticks, on the registers it finds. -/
  wait : ∀ delta, c = .wait delta →
    let q := p.run before
    (p.run (before ++ [c])).timer dial =
        ((q.timer dial).update delta (q.found delta dial)).timer ∧
      p.periods dial (before ++ [c]) = p.periods dial before + (q.timer dial).rounds delta ∧
      ((q.timer dial).update delta (q.found delta dial)).registers =
        ((q.timer dial).ticks ((q.timer dial).rounds delta) (q.found delta dial)).1
  /-- Nothing else reaches the timer. -/
  other : (∀ delta, c ≠ .wait delta) →
    (p.run (before ++ [c])).timer dial = (p.run before).timer dial ∧
      p.periods dial (before ++ [c]) = p.periods dial before

theorem counted (p : Processor) (dial : Dial) (before : List Command) (c : Command) :
    p.Counted dial before c where
  wait := by
    rintro delta rfl
    refine ⟨?_, ?_, rfl⟩
    · rw [run_concat]
      exact wait_timer_eq_update _ delta dial
    · rw [periods_concat, ticks, catchUp_eq_found, Timer.catchUp_periods]
  other := by
    intro hother
    refine ⟨?_, ?_⟩
    · rw [run_concat]
      exact obey_timer hother _ dial
    · rw [periods_concat]
      cases c with
      | wait delta => exact absurd rfl (hother delta)
      | step | load | trace => rfl

/-- Over a run, the ticks of a timer and what it has left over are the time
it was given. -/
theorem run_balance (p : Processor) (dial : Dial) (cs : List Command) :
    ((p.run cs).timer dial).accumulated + (p.timer dial).period * p.periods dial cs =
      (p.timer dial).accumulated + (cs.map Command.duration).sum := by
  induction cs generalizing p with
  | nil => simp [periods, run]
  | cons c cs ih =>
    have hone := p.obey_balance c dial
    have hrest := ih (p.obey c)
    rw [obey_period] at hrest
    rw [List.map_cons, List.sum_cons, periods]
    push_cast
    show (((p.obey c).run cs).timer dial).accumulated + _ = _
    linarith

/-- If time does not run backwards, a timer keeps less than a period. -/
theorem run_remainder {p : Processor} {dial : Dial} {cs : List Command}
    (hkept : 0 ≤ (p.timer dial).accumulated ∧
      (p.timer dial).accumulated < (p.timer dial).period)
    (h : ∀ c ∈ cs, 0 ≤ c.duration) :
    0 ≤ ((p.run cs).timer dial).accumulated ∧
      ((p.run cs).timer dial).accumulated < (p.timer dial).period := by
  induction cs generalizing p with
  | nil => exact hkept
  | cons c cs ih =>
    have hone := obey_remainder (h c List.mem_cons_self) hkept
    have hrest := ih hone fun d hd => h d (List.mem_cons_of_mem c hd)
    rwa [obey_period] at hrest

end Processor

end Chip8
