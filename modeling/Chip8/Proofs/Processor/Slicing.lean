/-
Chip8.Proofs.Processor.Slicing — how a processor's time is sliced does not
show.

What time does to a processor is what it does to each of its timers alone
(`updateTimers_eq_alone`), so the law of a single timer carries over: to let
time pass in slices is to let their sum pass at once, with the same reports
(`waitAll_eq`). Each timer does what it would do alone on any registers that
have its own register in common (`waitAll_delay`, `waitAll_sound`). That the
timers keep less than a period, as the law asks, is so at every moment of
every run (`Fresh.kept`).
-/
import Chip8.Proofs.Processor.Clockwork
import Chip8.Proofs.Processor.Timekeeping
import Chip8.Proofs.Timer.Slicing

namespace Chip8

namespace Processor

/-- The outcome of letting time pass more than once. -/
structure Waited where
  processor : Processor
  /-- What the timers reported, in order. -/
  events : List TimerEvent

/-- Let slices of time pass one after the other. -/
def waitAll (p : Processor) : List Int → Waited
  | [] => ⟨p, []⟩
  | delta :: rest =>
      let now := p.updateTimers delta
      let later := now.processor.waitAll rest
      { later with events := now.events ++ later.events }

/-- Each timer has kept less than a period. -/
def Kept (p : Processor) : Prop :=
  ∀ dial, (p.timer dial).accumulated < (p.timer dial).period

variable {p : Processor}

theorem kept_updateTimers (p : Processor) (delta : Int) : (p.updateTimers delta).processor.Kept := by
  intro dial
  cases dial with
  | delay => exact p.delayTimer.update_lt delta p.registers
  | sound => exact p.soundTimer.update_lt delta p.registers

theorem Wired.updateTimers (wired : p.Wired) (delta : Int) :
    (p.updateTimers delta).processor.Wired :=
  ⟨wired.1, wired.2, wired.3, wired.4⟩

/-- At every moment of every run the timers keep less than a period. -/
theorem Fresh.kept (fresh : p.Fresh) (cs : List Command) : (p.run cs).Kept := by
  have hstart : p.Kept := by
    intro dial
    rw [fresh.timer_accumulated]
    exact (p.timer dial).period_pos
  refine run_induction Kept hstart (fun q c hq => ?_) cs
  cases c with
  | wait delta => exact kept_updateTimers q delta
  | step | load | trace =>
    intro dial
    rw [obey_timer (by simp)]
    exact hq dial

/-! ## Updates -/

/-- The clockwork to which a stretch of time leads, each timer taken alone. -/
def clockworkAfter (p : Processor) (delta : Int) : Clockwork where
  delayTimer := (p.delayTimer.update delta p.registers).timer
  soundTimer := (p.soundTimer.update delta p.registers).timer
  delay := (p.delayTimer.update delta p.registers).registers.delay
  sound := (p.soundTimer.update delta p.registers).registers.sound

theorem updateTimers_processor (wired : p.Wired) (delta : Int) :
    (p.updateTimers delta).processor = p.withClockwork (p.clockworkAfter delta) := by
  rw [updateTimers_eq_alone wired]
  rfl

theorem updateTimers_reports (wired : p.Wired) (delta : Int) :
    (p.updateTimers delta).events = (p.soundTimer.update delta p.registers).event.toList := by
  rw [updateTimers_eq_alone wired]

/-- Two stretches of time are one. -/
theorem updateTimers_add {later : Int} (forward : 0 ≤ later) (wired : p.Wired) (delta : Int) :
    let first := p.updateTimers delta
    let second := first.processor.updateTimers later
    let both := p.updateTimers (delta + later)
    second.processor = both.processor ∧ first.events ++ second.events = both.events := by
  intro first second both
  have hfirst : first.processor = _ := updateTimers_processor wired delta
  have wired' : first.processor.Wired := wired.updateTimers delta
  -- what the second update finds in its two registers is what the first left there
  have hdelay : p.delayTimer.value first.processor.registers =
      p.delayTimer.value (p.delayTimer.update delta p.registers).registers := by
    rw [wired.delay_value, wired.delay_value, hfirst]
    rfl
  have hsound : p.soundTimer.value first.processor.registers =
      p.soundTimer.value (p.soundTimer.update delta p.registers).registers := by
    rw [wired.sound_value, wired.sound_value, hfirst]
    rfl
  obtain ⟨hdelayTimer, hdelayValue, -⟩ := Timer.update_add_of_value forward hdelay
  obtain ⟨hsoundTimer, hsoundValue, hreport⟩ := Timer.update_add_of_value forward hsound
  rw [wired.delay_value, wired.delay_value] at hdelayValue
  rw [wired.sound_value, wired.sound_value] at hsoundValue
  have hclockwork : first.processor.clockworkAfter later = p.clockworkAfter (delta + later) := by
    unfold clockworkAfter
    rw [Clockwork.mk.injEq]
    exact ⟨hdelayTimer, hsoundTimer, hdelayValue, hsoundValue⟩
  constructor
  · calc second.processor
        = first.processor.withClockwork (first.processor.clockworkAfter later) :=
          updateTimers_processor wired' later
      _ = first.processor.withClockwork (p.clockworkAfter (delta + later)) := by rw [hclockwork]
      _ = p.withClockwork (p.clockworkAfter (delta + later)) := by
        rw [hfirst]
        rfl
      _ = both.processor := (updateTimers_processor wired _).symm
  · calc first.events ++ second.events
        = (p.soundTimer.update delta p.registers).event.toList ++
            (first.processor.soundTimer.update later first.processor.registers).event.toList :=
          congrArg₂ (· ++ ·) (updateTimers_reports wired delta) (updateTimers_reports wired' later)
      _ = (p.soundTimer.update (delta + later) p.registers).event.toList := hreport
      _ = both.events := (updateTimers_reports wired _).symm

theorem updateTimers_zero (wired : p.Wired) (kept : p.Kept) :
    (p.updateTimers 0).processor = p ∧ (p.updateTimers 0).events = [] := by
  obtain ⟨hdelay, hdelay', -⟩ := Timer.update_zero (kept .delay) p.registers
  obtain ⟨hsound, hsound', hsilent⟩ := Timer.update_zero (kept .sound) p.registers
  simp only [timer] at hdelay hdelay' hsound hsound' hsilent
  constructor
  · rw [updateTimers_processor wired, clockworkAfter, hdelay, hdelay', hsound, hsound']
    rfl
  · rw [updateTimers_reports wired, hsilent]
    rfl

/-! ## Slices -/

/-- **To let time pass in slices is to let their sum pass at once.** -/
theorem waitAll_eq (wired : p.Wired) (kept : p.Kept) {deltas : List Int}
    (forward : ∀ delta ∈ deltas, 0 ≤ delta) :
    p.waitAll deltas =
      ⟨(p.updateTimers deltas.sum).processor, (p.updateTimers deltas.sum).events⟩ := by
  induction deltas generalizing p with
  | nil =>
    obtain ⟨hprocessor, hevents⟩ := updateTimers_zero wired kept
    rw [List.sum_nil, hprocessor, hevents]
    rfl
  | cons delta rest ih =>
    obtain ⟨-, hrest⟩ := List.forall_mem_cons.mp forward
    obtain ⟨hprocessor, hevents⟩ := updateTimers_add (List.sum_nonneg hrest) wired delta
    have hlater := ih (wired.updateTimers delta) (p.kept_updateTimers delta) hrest
    rw [List.sum_cons, ← hprocessor, ← hevents]
    unfold waitAll
    simp only [hlater]

/-- The delay timer of a processor does what it would do alone, on any
registers with the same delay register, and reports nothing. -/
theorem waitAll_delay (wired : p.Wired) (kept : p.Kept) {deltas : List Int}
    (forward : ∀ delta ∈ deltas, 0 ≤ delta) {r : Registers} (h : r.delay = p.registers.delay) :
    let alone := p.delayTimer.slices r deltas
    (p.waitAll deltas).processor.delayTimer = alone.timer ∧
      (p.waitAll deltas).processor.registers.delay = alone.registers.delay ∧
      alone.events = [] := by
  intro alone
  have halone : alone = _ := Timer.slices_eq_update (kept .delay) forward r
  have hvalue : p.delayTimer.value r = p.delayTimer.value p.registers := by
    rw [wired.delay_value, wired.delay_value, h]
  obtain ⟨htimer, hregister, -, -⟩ := Timer.update_congr hvalue deltas.sum
  rw [wired.delay_value, wired.delay_value] at hregister
  rw [halone, waitAll_eq wired kept forward, updateTimers_processor wired]
  refine ⟨htimer.symm, hregister.symm, ?_⟩
  simp only [timer, Timer.event_of_silent wired.delay_notify, Option.toList_none]

/-- The sound timer of a processor does what it would do alone, on any
registers with the same sound register, and all reports are its reports. -/
theorem waitAll_sound (wired : p.Wired) (kept : p.Kept) {deltas : List Int}
    (forward : ∀ delta ∈ deltas, 0 ≤ delta) {r : Registers} (h : r.sound = p.registers.sound) :
    let alone := p.soundTimer.slices r deltas
    (p.waitAll deltas).processor.soundTimer = alone.timer ∧
      (p.waitAll deltas).processor.registers.sound = alone.registers.sound ∧
      (p.waitAll deltas).events = alone.events := by
  intro alone
  have halone : alone = _ := Timer.slices_eq_update (kept .sound) forward r
  have hvalue : p.soundTimer.value r = p.soundTimer.value p.registers := by
    rw [wired.sound_value, wired.sound_value, h]
  obtain ⟨htimer, hregister, hevent, -⟩ := Timer.update_congr hvalue deltas.sum
  rw [wired.sound_value, wired.sound_value] at hregister
  rw [halone, waitAll_eq wired kept forward, updateTimers_processor wired,
    updateTimers_reports wired]
  exact ⟨htimer.symm, hregister.symm, congrArg Option.toList hevent.symm⟩

/-! ## The statement -/

/-- **The slicing of time does not show.** Given in slices, time leaves a timer
and its register as it does in one piece, and the slices report that the
register came to zero once if the whole does, and else not at all. The same
holds of the two timers of a processor together, which report at most once;
each of them does what it would do alone, whatever is in the register of the
other, and the delay timer reports nothing. That less than a period is kept,
every update sees to, and it is so at every moment of every run. -/
theorem slicing_does_not_show {deltas : List Int} (forward : ∀ delta ∈ deltas, 0 ≤ delta) :
    (∀ (t : Timer) (r : Registers), t.accumulated < t.period →
      let many := t.slices r deltas
      let once := t.update deltas.sum r
      many.timer = once.timer ∧ many.registers = once.registers ∧
        many.events = if once.event = some .stopped then [.stopped] else []) ∧
    (∀ p : Processor, p.Wired → p.Kept →
      let many := p.waitAll deltas
      let once := p.updateTimers deltas.sum
      many.processor = once.processor ∧ many.events = once.events ∧ many.events.length ≤ 1 ∧
        (∀ r : Registers, r.delay = p.registers.delay →
          let alone := p.delayTimer.slices r deltas
          many.processor.delayTimer = alone.timer ∧
            many.processor.registers.delay = alone.registers.delay ∧ alone.events = []) ∧
        ∀ r : Registers, r.sound = p.registers.sound →
          let alone := p.soundTimer.slices r deltas
          many.processor.soundTimer = alone.timer ∧
            many.processor.registers.sound = alone.registers.sound ∧
            many.events = alone.events) ∧
    (∀ (t : Timer) (delta : Int) (r : Registers),
      (t.update delta r).timer.accumulated < t.period) ∧
    ∀ p : Processor, p.Fresh → ∀ cs, (p.run cs).Wired ∧ (p.run cs).Kept := by
  refine ⟨?_, ?_, Timer.update_lt, ?_⟩
  · intro t r kept many once
    have hmany : many = _ := Timer.slices_eq_update kept forward r
    have hevents : many.events = once.event.toList := by rw [hmany]
    refine ⟨by rw [hmany], by rw [hmany], ?_⟩
    rw [hevents]
    exact Timer.toList_event t deltas.sum r
  · intro p wired kept many once
    have hmany : many = _ := waitAll_eq wired kept forward
    have hevents : many.events = once.events := by rw [hmany]
    refine ⟨by rw [hmany], hevents, ?_, fun r => waitAll_delay wired kept forward,
      fun r => waitAll_sound wired kept forward⟩
    rw [hevents, updateTimers_reports wired]
    exact Option.length_toList_le
  · intro p fresh cs
    exact ⟨(fresh.regular.run cs).timers, fresh.kept cs⟩

/-- A tone of two periods that ends where the third slice does, and a delay of
five: the tone is reported once, and the fourth slice goes on with the delay. -/
theorem slicing_does_not_show_tone_ends_at_slice :
    ∃ (t : Timer) (p : Processor), t.accumulated < t.period ∧ p.Wired ∧ p.Kept ∧
      (t.slices p.registers [13, 0, 7, 15]).events = [.stopped] ∧
      (p.waitAll [13, 0, 7, 15]).events = [.stopped] ∧
      (p.waitAll [13, 0, 7, 15]).processor.registers.delay = 2 ∧
      (p.delayTimer.slices { delay := 5 } [13, 0, 7, 15]).registers.delay = 2 := by
  let p : Processor :=
    { boot [] (RandomSource.cycle []) 10 (by decide) with
      machine := { registers := { delay := 5, sound := 2 } } }
  have wired : p.Wired := ⟨rfl, rfl, rfl, rfl⟩
  have kept : p.Kept := fun dial => by cases dial <;> decide
  obtain ⟨htimer, hprocessor, -, -⟩ :=
    slicing_does_not_show (show ∀ delta ∈ [(13 : Int), 0, 7, 15], 0 ≤ delta by decide)
  obtain ⟨-, -, hreports⟩ := htimer p.soundTimer p.registers (kept .sound)
  obtain ⟨hsame, hevents, -, halone, -⟩ := hprocessor p wired kept
  have hdelay : (p.waitAll [13, 0, 7, 15]).processor.registers.delay = 2 := by
    rw [hsame]
    decide
  refine ⟨p.soundTimer, p, kept .sound, wired, kept, ?_, ?_, hdelay, ?_⟩
  · rw [hreports]
    decide
  · rw [hevents]
    decide
  · rw [← (halone { delay := 5 } rfl).2.1]
    exact hdelay

end Processor

end Chip8
