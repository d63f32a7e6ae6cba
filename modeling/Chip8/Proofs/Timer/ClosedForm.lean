/-
Chip8.Proofs.Timer.ClosedForm — what an update of the delay or the sound
timer comes to, in one formula for each thing it changes.

An update is the outcome of a loop that goes round while a whole period has
accumulated (`update_eq_reported`). `goesRound_iff` says how often that is:
as often as the period goes into the time there is, and not at all if the
time is negative. With that number the time left over, the register, the
event and the warning are given at once, whatever happened from round to
round (`update_closed_form`).
-/
import Chip8.Proofs.Timer.CatchUp
import Chip8.Proofs.Timer.Countdown

namespace Chip8.Timer

/-- What an update makes of the outcome of the loop: that the register came to
zero is reported if the timer notifies, and more than one round is warned of. -/
def CaughtUp.reported (done : CaughtUp) : Updated where
  timer := done.timer
  registers := done.registers
  event := if done.timer.notify && done.stopped then some .stopped else none
  journal := if done.periods > 1 then [.log (done.timer.lagWarning done.periods)] else []

theorem update_eq_reported (t : Timer) (delta : Int) (r : Registers) :
    t.update delta r = ((t.feed delta).catchUp r).reported := by
  rw [update_eq_catchUp, catchUp_eq (n := t.rounds delta) rfl]
  rfl

/-! ## The number of rounds -/

/-- The rounds of an update are the whole periods in the time there is. -/
theorem rounds_eq_floor (t : Timer) (delta : Int) :
    (t.rounds delta : Int) = max 0 ⌊((t.accumulated + delta : Int) : ℚ) / t.period⌋ := by
  obtain ⟨period, hperiod⟩ := Int.eq_ofNat_of_zero_le t.period_pos.le
  unfold rounds
  rw [hperiod, Int.toNat_eq_max, max_comm, Int.cast_natCast, Rat.floor_intCast_div_natCast]

/-- What is left when `k` periods are taken off. -/
theorem spend_iterate (t : Timer) (k : Nat) :
    spend^[k] t = { t with accumulated := t.accumulated - k * t.period } := by
  induction k with
  | zero => simp
  | succ k ih =>
    have hleft : t.accumulated - k * t.period - t.period =
        t.accumulated - (k + 1 : Nat) * t.period := by
      push_cast
      ring
    rw [Function.iterate_succ_apply', ih, spend, hleft]

/-- After `k` rounds the loop goes round once more exactly if `k` is below the
number of rounds: it comes to an end, and after that many. -/
theorem goesRound_iff (t : Timer) (delta : Int) (k : Nat) :
    t.period ≤ (spend^[k] (t.feed delta)).accumulated ↔ k < t.rounds delta := by
  rw [spend_iterate]
  show t.period ≤ t.accumulated + delta - k * t.period ↔
    k < ((t.accumulated + delta) / t.period).toNat
  rw [Int.lt_toNat, ← Int.add_one_le_iff, Int.le_ediv_iff_mul_le t.period_pos, add_mul, one_mul]
  constructor <;>
  · intro h
    linarith

/-- If neither the time that was kept nor the time that passes is negative, less
than a period is kept. -/
theorem update_remainder {t : Timer} {delta : Int} (kept : 0 ≤ t.accumulated) (h : 0 ≤ delta)
    (r : Registers) :
    0 ≤ (t.update delta r).timer.accumulated ∧
      (t.update delta r).timer.accumulated < t.period := by
  rw [update_eq_catchUp]
  exact catchUp_remainder (add_nonneg kept h) r

/-! ## The statement -/

/-- **An update in closed form.** The loop ends, after as many rounds as the
period goes into the time there is. The time left over is short of them, the
register has counted them down and stopped at zero, no other register has
changed; a timer that notifies reports that the register came to zero, and more
than one round is warned of. -/
theorem update_closed_form {t : Timer} {r : Registers}
    (bound : t.counter = .delay ∨ t.counter = .sound) (h₀ : 0 ≤ t.value r) (h : t.value r ≤ 255)
    (delta : Int) :
    let done := t.update delta r
    ∃ rounds : Nat,
      (rounds : Int) = max 0 ⌊((t.accumulated + delta : Int) : ℚ) / t.period⌋ ∧
      (∀ k, t.period ≤ (spend^[k] (t.feed delta)).accumulated ↔ k < rounds) ∧
      ((t.feed delta).catchUp r).periods = rounds ∧
      done = ((t.feed delta).catchUp r).reported ∧
      done.timer = { t with accumulated := t.accumulated + delta - rounds * t.period } ∧
      t.value done.registers = max 0 (t.value r - rounds) ∧
      (t.counter = .delay →
        done.registers = { r with delay := max 0 (r.delay - rounds) }) ∧
      (t.counter = .sound →
        done.registers = { r with sound := max 0 (r.sound - rounds) }) ∧
      done.event =
        (if t.notify = true ∧ 0 < t.value r ∧ t.value r ≤ rounds then some .stopped else none) ∧
      done.journal = (if 1 < rounds then [.log (t.lagWarning rounds)] else []) ∧
      (0 ≤ t.accumulated → 0 ≤ delta →
        0 ≤ done.timer.accumulated ∧ done.timer.accumulated < t.period) := by
  have hc : t.counter ≠ .flag := by
    rcases bound with hc | hc <;>
    · rw [hc]
      decide
  have hdelay : t.counter = .delay → (t.update delta r).registers =
      { r with delay := max 0 (r.delay - t.rounds delta) } := by
    intro hc
    rw [value_of_delay hc] at h₀ h
    exact update_of_delay hc delta h₀ h
  have hsound : t.counter = .sound → (t.update delta r).registers =
      { r with sound := max 0 (r.sound - t.rounds delta) } := by
    intro hc
    rw [value_of_sound hc] at h₀ h
    exact update_of_sound hc delta h₀ h
  have hvalue : t.value (t.update delta r).registers = max 0 (t.value r - t.rounds delta) := by
    rcases bound with hc | hc
    · rw [hdelay hc, value_of_delay hc, value_of_delay hc]
    · rw [hsound hc, value_of_sound hc, value_of_sound hc]
  exact ⟨t.rounds delta, t.rounds_eq_floor delta, t.goesRound_iff delta,
    t.catchUp_periods delta r, t.update_eq_reported delta r, rfl, hvalue, hdelay, hsound,
    update_event hc delta h₀ h, rfl, fun kept forward => update_remainder kept forward r⟩

/-- A tone of two ticks after a stall of three periods and a half, of which
half a period is left over from before: it ends, and four rounds are warned of. -/
theorem update_closed_form_stall :
    ∃ (t : Timer) (r : Registers), t.counter = .sound ∧ t.value r = 2 ∧
      (t.update 35 r).registers = { r with sound := 0 } ∧
      (t.update 35 r).timer = { t with accumulated := 0 } ∧
      (t.update 35 r).event = some .stopped ∧
      (t.update 35 r).journal = [.log (t.lagWarning 4)] := by
  let t : Timer :=
    { counter := .sound
      period := 10
      notify := true
      accumulated := 5
      period_pos := by decide }
  let r : Registers := { sound := 2 }
  obtain ⟨rounds, -, -, hperiods, -, htimer, -, -, hsound, hevent, hjournal, -⟩ :=
    update_closed_form (t := t) (r := r) (Or.inr rfl) (by decide) (by decide) 35
  have hfour : rounds = 4 := by
    rw [← hperiods, catchUp_periods]
    decide
  subst hfour
  exact ⟨t, r, rfl, rfl, hsound rfl, htimer, hevent, hjournal⟩

end Chip8.Timer
