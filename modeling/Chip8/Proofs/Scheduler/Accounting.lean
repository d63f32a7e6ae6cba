/-
Chip8.Proofs.Scheduler.Accounting — no time is lost or counted twice.

`elapsedOver` is the time that the iterations of a script let pass, read
off the script alone: an iteration counts what the clock has moved forward
since the one before it, unless the host quits; then only the reference
moves.

The orders of a script let exactly this time pass (`duration_ordersAll`).
From there it goes three ways: to the steps, which the tick accumulator
pays for (`iterateAll_tickAccumulated`), and to each of the two timers
(`Processor.run_balance`). So the three accounts agree after every
iteration of every script, with faults, requests to quit and a clock that
jumps back (`elapsedOver_accounted`).
-/
import Chip8.Proofs.Processor.Timekeeping
import Chip8.Proofs.Scheduler.Iteration

namespace Chip8

namespace Scheduler

open Processor (Command)

/-! ## The time that passes -/

/-- The time that the iterations of a script let pass, reckoned from the
last reading of the clock, if there was one. -/
def elapsedOver (last : Option Int) : List (Int × Poll) → Int
  | [] => 0
  | (now, poll) :: script =>
      (if poll.goOn then last.elim 0 fun last => max 0 (now - last) else 0) +
        elapsedOver (some now) script

theorem elapsed_eq (s : Scheduler) (now : Int) :
    s.elapsed now = s.lastTime.elim 0 fun last => max 0 (now - last) := by
  unfold elapsed
  cases s.lastTime <;> rfl

theorem elapsed_nonneg (s : Scheduler) (now : Int) : 0 ≤ s.elapsed now := by
  rw [elapsed_eq]
  cases s.lastTime with
  | none => exact le_rfl
  | some last => exact le_max_left ..

theorem duration_orders (s : Scheduler) (now : Int) (poll : Poll) :
    ((s.orders now poll).map Command.duration).sum =
      if poll.goOn then s.elapsed now else 0 := by
  cases s.iterateCase now poll with
  | quit goOn orders => rw [orders, goOn]; rfl
  | idle goOn _ orders | done goOn _ orders | failed goOn _ orders =>
    rw [orders, goOn]
    simp [Command.duration]

/-- The orders of a script let pass what the script says. -/
theorem duration_ordersAll (s : Scheduler) (script : List (Int × Poll)) :
    ((s.ordersAll script).map Command.duration).sum = elapsedOver s.lastTime script := by
  induction script generalizing s with
  | nil => rfl
  | cons one script ih =>
    obtain ⟨now, poll⟩ := one
    rw [ordersAll, List.map_append, List.sum_append, duration_orders, ih, iterate_lastTime,
      elapsedOver, elapsed_eq]

/-- No iteration turns time back, whatever the clock does. -/
theorem duration_nonneg (s : Scheduler) (script : List (Int × Poll)) :
    ∀ c ∈ s.ordersAll script, 0 ≤ c.duration := by
  induction script generalizing s with
  | nil => simp [ordersAll]
  | cons one script ih =>
    obtain ⟨now, poll⟩ := one
    have hone : ∀ c ∈ s.orders now poll, 0 ≤ c.duration := by
      cases s.iterateCase now poll with
      | quit _ orders | idle _ _ orders | done _ _ orders | failed _ _ orders =>
        rw [orders]
        simp [Command.duration, elapsed_nonneg]
    intro c hc
    exact (List.mem_append.mp hc).elim (hone c) (ih _ c)

/-- While the clock only moves forward and nobody quits, all the time from
the reference to the last reading passes. -/
theorem elapsedOver_forward {first last : Int} {script : List (Int × Poll)}
    (forward : (first :: script.map Prod.fst).IsChain (· ≤ ·))
    (goOn : ∀ one ∈ script, one.2.goOn = true)
    (hlast : last ∈ (first :: script.map Prod.fst).getLast?) :
    elapsedOver (some first) script = last - first := by
  induction script generalizing first with
  | nil =>
    obtain rfl := Option.some_inj.mp hlast
    simp [elapsedOver]
  | cons one script ih =>
    obtain ⟨now, poll⟩ := one
    obtain ⟨hle, hforward⟩ := List.isChain_cons_cons.mp forward
    rw [List.map_cons, List.getLast?_cons_cons] at hlast
    have hrest := ih hforward (fun other h => goOn other (List.mem_cons_of_mem _ h)) hlast
    rw [elapsedOver, if_pos (goOn _ List.mem_cons_self), hrest, Option.elim_some]
    omega

/-! ## The tick accumulator -/

/-- A step that is ordered is paid for with one tick period. -/
theorem iterate_tickAccumulated (s : Scheduler) (now : Int) (poll : Poll) :
    (s.iterate now poll).scheduler.tickAccumulated +
        s.tickPeriod * (s.orders now poll).countP Command.isStep =
      s.tickAccumulated + ((s.orders now poll).map Command.duration).sum := by
  cases s.iterateCase now poll with
  | quit goOn orders iterate =>
    rw [iterate, orders]
    simp
  | idle goOn due orders iterate =>
    rw [iterate, orders]
    simp [Command.isStep, Command.duration, advanced]
  | done goOn due orders event result iterate =>
    rw [iterate, orders]
    simp [Command.isStep, Command.duration, advanced, stepped]
  | failed goOn due orders f result iterate =>
    rw [iterate, orders]
    simp [Command.isStep, Command.duration, advanced, stepped]

theorem iterate_tickAccumulated_nonneg {s : Scheduler} (h : 0 ≤ s.tickAccumulated) (now : Int)
    (poll : Poll) : 0 ≤ (s.iterate now poll).scheduler.tickAccumulated := by
  have helapsed := s.elapsed_nonneg now
  cases s.iterateCase now poll with
  | quit goOn orders iterate => rw [iterate]; exact h
  | idle goOn due orders iterate => rw [iterate]; exact add_nonneg h helapsed
  | done goOn due orders event result iterate => rw [iterate]; exact sub_nonneg.mpr due
  | failed goOn due orders f result iterate => rw [iterate]; exact sub_nonneg.mpr due

theorem iterateAll_tickAccumulated (s : Scheduler) (script : List (Int × Poll)) :
    (s.iterateAll script).1.tickAccumulated +
        s.tickPeriod * (s.ordersAll script).countP Command.isStep =
      s.tickAccumulated + elapsedOver s.lastTime script := by
  rw [← duration_ordersAll]
  induction script generalizing s with
  | nil => simp [iterateAll, ordersAll]
  | cons one script ih =>
    obtain ⟨now, poll⟩ := one
    have hone := s.iterate_tickAccumulated now poll
    have hrest := ih (s.iterate now poll).scheduler
    rw [iterate_tickPeriod] at hrest
    rw [ordersAll, List.countP_append, List.map_append, List.sum_append]
    push_cast
    show ((s.iterate now poll).scheduler.iterateAll script).1.tickAccumulated + _ = _
    linarith

theorem iterateAll_tickAccumulated_nonneg {s : Scheduler} (h : 0 ≤ s.tickAccumulated)
    (script : List (Int × Poll)) : 0 ≤ (s.iterateAll script).1.tickAccumulated := by
  induction script generalizing s with
  | nil => exact h
  | cons one script ih => exact ih (iterate_tickAccumulated_nonneg h one.1 one.2)

/-! ## The statement -/

/-- **Time is accounted for.** A fresh processor and a new scheduler, after
every script of iterations. The processor has carried out the orders of the
script. The steps among them, each counted or failed, and the accumulator
make up the time that passed; so do the ticks of each of the two timers and
what it has left over, which is less than a period. The ticks are the rounds of
the timer's updates, each of which ticks once a round. With a clock that only
moves forward and a host that never quits, the time that passed is the last
reading less the first. -/
theorem elapsedOver_accounted {p : Processor} {period : Int} {s : Scheduler} (fresh : p.Fresh)
    (made : make p period = some s) (script : List (Int × Poll)) :
    (s.iterateAll script).1.processor = p.run (s.ordersAll script) ∧
    (s.ordersAll script).countP Command.isStep =
      (s.iterateAll script).1.processor.steps + (s.faults script).length ∧
    ((s.iterateAll script).1.tickAccumulated +
        period * (s.ordersAll script).countP Command.isStep = elapsedOver none script ∧
      0 ≤ (s.iterateAll script).1.tickAccumulated) ∧
    (∀ dial : Processor.Dial,
      ((s.iterateAll script).1.processor.timer dial).accumulated +
          (p.timer dial).period * p.periods dial (s.ordersAll script) = elapsedOver none script ∧
        0 ≤ ((s.iterateAll script).1.processor.timer dial).accumulated ∧
        ((s.iterateAll script).1.processor.timer dial).accumulated < (p.timer dial).period ∧
        ∀ before c, before ++ [c] <+: s.ordersAll script → p.Counted dial before c) ∧
    ((script.map Prod.fst).IsChain (· ≤ ·) → (∀ one ∈ script, one.2.goOn = true) →
      ∀ first ∈ (script.map Prod.fst).head?, ∀ last ∈ (script.map Prod.fst).getLast?,
        elapsedOver none script = last - first) := by
  obtain ⟨hperiod, rfl⟩ := make_eq_some_iff.mp made
  have hprocessor := iterateAll_processor ⟨p, period, false, 0, none, hperiod⟩ script
  have hpassed := duration_ordersAll ⟨p, period, false, 0, none, hperiod⟩ script
  refine ⟨hprocessor, ?_, ⟨?_, ?_⟩, fun dial => ⟨?_, ?_⟩, ?_⟩
  · have hcount := countP_ordersAll ⟨p, period, false, 0, none, hperiod⟩ script
    rwa [fresh.steps, zero_add] at hcount
  · have hticks := iterateAll_tickAccumulated ⟨p, period, false, 0, none, hperiod⟩ script
    rwa [zero_add] at hticks
  · exact iterateAll_tickAccumulated_nonneg le_rfl script
  · have hbalance := p.run_balance dial (ordersAll ⟨p, period, false, 0, none, hperiod⟩ script)
    rwa [hpassed, fresh.timer_accumulated, zero_add, ← hprocessor] at hbalance
  · rw [hprocessor]
    have hkept : 0 ≤ (p.timer dial).accumulated ∧
        (p.timer dial).accumulated < (p.timer dial).period := by
      rw [fresh.timer_accumulated]
      exact ⟨le_rfl, (p.timer dial).period_pos⟩
    obtain ⟨hleft, hless⟩ := Processor.run_remainder hkept (duration_nonneg _ script)
    exact ⟨hleft, hless, fun before c _ => p.counted dial before c⟩
  · intro forward goOn first hfirst last hlast
    cases script with
    | nil => cases hfirst
    | cons one script =>
      obtain rfl := Option.some_inj.mp hfirst
      have hrest := elapsedOver_forward forward
        (fun other h => goOn other (List.mem_cons_of_mem _ h)) hlast
      rw [elapsedOver, hrest, Option.elim_none, ite_self, zero_add]

/-- A step that is done and two that fail, with a stall, a clock that jumps
back and a request to quit in between; and a clock that moves forward. -/
theorem elapsedOver_accounted_stall :
    ∃ (p : Processor) (s : Scheduler) (script : List (Int × Poll)), p.Fresh ∧
      make p 3 = some s ∧
      script = [(0, {}), (10, {}), (7, {}), (20, { goOn := false }), (25, {})] ∧
      elapsedOver none script = 15 ∧
      (s.iterateAll script).1.processor.steps = 1 ∧ (s.faults script).length = 2 ∧
      (s.iterateAll script).1.tickAccumulated = 15 - 3 * 3 ∧
      ((s.iterateAll script).1.processor.timer .sound).accumulated = 1 ∧
      p.periods .sound (s.ordersAll script) = 7 ∧
      elapsedOver none [(4, {}), (4, {}), (9, {})] = 9 - 4 := by
  have fresh : (Processor.boot [0x60, 0x05, 0x00, 0xEE] (RandomSource.cycle []) 2
      (by decide)).Fresh :=
    .intro (Processor.make_eq_ok_iff.mpr ⟨by decide, by decide, rfl⟩) [] false
  have made : Scheduler.make (Processor.boot [0x60, 0x05, 0x00, 0xEE] (RandomSource.cycle []) 2
      (by decide)) 3 = some ⟨_, 3, false, 0, none, by decide⟩ := rfl
  obtain ⟨-, hattempts, ⟨hticks, -⟩, hdials, -⟩ := elapsedOver_accounted fresh made
    [(0, {}), (10, {}), (7, {}), (20, { goOn := false }), (25, {})]
  obtain ⟨-, -, -, -, hforward⟩ := elapsedOver_accounted fresh made [(4, {}), (4, {}), (9, {})]
  have hsteps : (iterateAll ⟨Processor.boot [0x60, 0x05, 0x00, 0xEE] (RandomSource.cycle []) 2
      (by decide), 3, false, 0, none, by decide⟩
      [(0, {}), (10, {}), (7, {}), (20, { goOn := false }), (25, {})]).1.processor.steps = 1 := by
    decide +kernel
  have hfaults : (faults ⟨Processor.boot [0x60, 0x05, 0x00, 0xEE] (RandomSource.cycle []) 2
      (by decide), 3, false, 0, none, by decide⟩
      [(0, {}), (10, {}), (7, {}), (20, { goOn := false }), (25, {})]).length = 2 := by
    decide +kernel
  have hpassed : elapsedOver none
      [(0, {}), (10, {}), (7, {}), (20, { goOn := false }), (25, {})] = 15 := by decide
  have hperiod : ((Processor.boot [0x60, 0x05, 0x00, 0xEE] (RandomSource.cycle []) 2
      (by decide)).timer .sound).period = 2 := rfl
  obtain ⟨hsound, hleft, hless, -⟩ := hdials .sound
  rw [hsteps, hfaults] at hattempts
  rw [hpassed, hattempts] at hticks
  rw [hpassed, hperiod] at hsound
  rw [hperiod] at hless
  refine ⟨_, _, _, fresh, made, rfl, hpassed, hsteps, hfaults, by omega, by omega, by omega, ?_⟩
  exact hforward (by decide) (by decide) 4 rfl 9 rfl

end Scheduler

end Chip8
