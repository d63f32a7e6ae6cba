/-
Chip8.Proofs.Timer.CatchUp — an update counts period after period.

`catchUp` is the loop that an update stands for: as long as a whole period
has accumulated, it is taken off and the timer ticks once. The loop counts
its rounds. `update_eq_catchUp` says that an update, which counts its
periods by a division, does exactly what the loop does, whatever register
the timer is bound to and whatever it holds.

Time is neither lost nor made on the way: what the loop leaves over and the
periods it took off are what it found (`catchUp_accumulated`), and less than
a period is left over (`catchUp_remainder`).
-/
import Mathlib.Tactic
import Chip8.Timer

namespace Chip8.Timer

/-- The outcome of catching up. -/
structure CaughtUp where
  timer : Timer
  registers : Registers
  /-- The periods that were taken off. -/
  periods : Nat
  /-- Whether the register came to zero on the way. -/
  stopped : Bool

/-- Feed nanoseconds to a timer, without a tick. -/
def feed (t : Timer) (delta : Int) : Timer := { t with accumulated := t.accumulated + delta }

/-- Take one period off the time that has accumulated. -/
def spend (t : Timer) : Timer := { t with accumulated := t.accumulated - t.period }

/-- Tick once for each whole period that has accumulated. -/
def catchUp (t : Timer) (r : Registers) : CaughtUp :=
  if t.period ≤ t.accumulated then
    let next := t.tick r
    let rest := t.spend.catchUp next
    { rest with
      periods := rest.periods + 1
      stopped := (t.value r ≠ 0 && t.value next = 0) || rest.stopped }
  else { timer := t, registers := r, periods := 0, stopped := false }
termination_by t.accumulated.toNat
decreasing_by
  have := t.period_pos
  simp only [spend]
  omega

/-- One round of the loop. -/
theorem catchUp_of_le {t : Timer} (h : t.period ≤ t.accumulated) (r : Registers) :
    t.catchUp r =
      { t.spend.catchUp (t.tick r) with
        periods := (t.spend.catchUp (t.tick r)).periods + 1
        stopped := (t.value r ≠ 0 && t.value (t.tick r) = 0) ||
          (t.spend.catchUp (t.tick r)).stopped } := by
  rw [catchUp.eq_def, if_pos h]

theorem catchUp_of_lt {t : Timer} (h : t.accumulated < t.period) (r : Registers) :
    t.catchUp r = { timer := t, registers := r, periods := 0, stopped := false } := by
  rw [catchUp.eq_def, if_neg (by omega)]

variable {t : Timer} {r : Registers}

/-! ## Ticks -/

/-- How far a timer counts depends on its register and not on the time it
has kept. -/
theorem ticks_accumulated (t : Timer) (a : Int) (n : Nat) (r : Registers) :
    { t with accumulated := a }.ticks n r = t.ticks n r := by
  induction n generalizing r with
  | zero => rfl
  | succ n ih =>
    unfold ticks
    simp only [ih]
    rfl

theorem ticks_of_zero (h : t.value r = 0) (n : Nat) : t.ticks n r = (r, false) := by
  cases n with
  | zero => rfl
  | succ n =>
    unfold ticks
    rw [if_pos h]

/-- A first tick and the ticks after it. -/
theorem ticks_succ (n : Nat) (r : Registers) :
    t.ticks (n + 1) r =
      ((t.ticks n (t.tick r)).1,
        (t.value r ≠ 0 && t.value (t.tick r) = 0) || (t.ticks n (t.tick r)).2) := by
  by_cases hzero : t.value r = 0
  · have htick : t.tick r = r := if_pos hzero
    rw [htick, ticks_of_zero hzero, ticks_of_zero hzero]
    simp [hzero]
  · by_cases hnext : t.value (t.tick r) = 0
    · rw [ticks_of_zero hnext, ticks]
      simp [hzero, hnext]
    · rw [ticks]
      simp [hzero, hnext]

/-! ## The loop and the division -/

/-- The loop takes off as many periods as go into the time that has
accumulated, and ticks as often. -/
theorem catchUp_eq {n : Nat} (h : (t.accumulated / t.period).toNat = n) (r : Registers) :
    t.catchUp r =
      { timer := { t with accumulated := t.accumulated - n * t.period }
        registers := (t.ticks n r).1
        periods := n
        stopped := (t.ticks n r).2 } := by
  induction n generalizing t r with
  | zero =>
    have hsmall : t.accumulated < t.period := by
      have := (Int.ediv_lt_iff_lt_mul t.period_pos (a := t.accumulated) (b := 1)).mp (by omega)
      omega
    rw [catchUp_of_lt hsmall]
    simp [ticks]
  | succ n ih =>
    have hlarge : t.period ≤ t.accumulated := by
      have := (Int.le_ediv_iff_mul_le t.period_pos (a := 1) (b := t.accumulated)).mp (by omega)
      omega
    have hrest : (t.spend.accumulated / t.spend.period).toNat = n := by
      show ((t.accumulated - t.period) / t.period).toNat = n
      rw [Int.sub_ediv_of_dvd _ dvd_rfl, Int.ediv_self t.period_pos.ne']
      omega
    have haccumulated : t.accumulated - t.period - n * t.period =
        t.accumulated - (n + 1 : Nat) * t.period := by
      push_cast
      ring
    rw [catchUp_of_le hlarge, ih hrest, ticks_succ, ← haccumulated]
    simp only [spend, ticks_accumulated]

/-- The rounds of an update are the periods that the loop takes off. -/
theorem catchUp_periods (t : Timer) (delta : Int) (r : Registers) :
    ((t.feed delta).catchUp r).periods = t.rounds delta := by
  rw [catchUp_eq (n := t.rounds delta) rfl]

/-- **An update is the loop.** The division counts the rounds of the loop,
and timer, registers, event and warning are those the loop leads to. -/
theorem update_eq_catchUp (t : Timer) (delta : Int) (r : Registers) :
    t.update delta r =
      let done := (t.feed delta).catchUp r
      { timer := done.timer
        registers := done.registers
        event := if t.notify && done.stopped then some .stopped else none
        journal := if done.periods > 1 then [.log (t.lagWarning done.periods)] else [] } := by
  have hloop := catchUp_eq (t := t.feed delta) (n := t.rounds delta) rfl r
  rw [hloop]
  simp only [feed, ticks_accumulated]
  rfl

/-! ## The balance of time -/

/-- What is left over and the periods taken off are what there was. -/
theorem catchUp_accumulated (t : Timer) (r : Registers) :
    (t.catchUp r).timer.accumulated + t.period * (t.catchUp r).periods = t.accumulated := by
  fun_induction catchUp t r with
  | case1 t r hle next rest ih =>
    have hrest : rest.timer.accumulated + t.period * rest.periods = t.accumulated - t.period := ih
    push_cast
    linarith
  | case2 t r hlt => simp

/-- Less than a period is left over. -/
theorem catchUp_remainder {t : Timer} (h : 0 ≤ t.accumulated) (r : Registers) :
    0 ≤ (t.catchUp r).timer.accumulated ∧ (t.catchUp r).timer.accumulated < t.period := by
  fun_induction catchUp t r with
  | case1 t r hle next rest ih => exact ih (sub_nonneg.mpr hle)
  | case2 t r hlt => exact ⟨h, not_le.mp hlt⟩

end Chip8.Timer
