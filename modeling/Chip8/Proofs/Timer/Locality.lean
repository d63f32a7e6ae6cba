/-
Chip8.Proofs.Timer.Locality — a timer and the registers that are not its own.

What an update does depends on the register the timer is bound to, and on no
other (`update_congr`); what it stores, it stores there (`ticks_stores`). So
timers of different registers do not meet. None of this depends on what the
registers hold.
-/
import Chip8.Proofs.Timer.CatchUp
import Chip8.Proofs.Timer.Countdown

namespace Chip8.Timer

variable {t : Timer} {r s : Registers}

/-! ## What a timer sees -/

/-- What is found in a counter after a store does not depend on what was
around it. -/
theorem value_store_congr (c : Counter) (n : Int) (r s : Registers) :
    c.value (c.store n r) = c.value (c.store n s) := by
  cases c with
  | flag =>
    simp only [Counter.value, Counter.store, Registers.flag, Registers.setFlag,
      Registers.get_set_self]
  | _ => rfl

theorem value_tick_congr (h : t.value r = t.value s) : t.value (t.tick r) = t.value (t.tick s) := by
  unfold tick
  rw [h]
  split
  · exact h
  · exact value_store_congr _ _ _ _

theorem ticks_congr (h : t.value r = t.value s) (n : Nat) :
    t.value (t.ticks n r).1 = t.value (t.ticks n s).1 ∧ (t.ticks n r).2 = (t.ticks n s).2 := by
  induction n generalizing r s with
  | zero => exact ⟨h, rfl⟩
  | succ n ih =>
    obtain ⟨hvalue, hstopped⟩ := ih (value_tick_congr h)
    rw [ticks_succ, ticks_succ]
    refine ⟨hvalue, ?_⟩
    rw [h, value_tick_congr h, hstopped]

/-- **An update depends on the register of the timer, and on no other.** -/
theorem update_congr (h : t.value r = t.value s) (delta : Int) :
    (t.update delta r).timer = (t.update delta s).timer ∧
      t.value (t.update delta r).registers = t.value (t.update delta s).registers ∧
      (t.update delta r).event = (t.update delta s).event ∧
      (t.update delta r).journal = (t.update delta s).journal := by
  obtain ⟨hvalue, hstopped⟩ := ticks_congr h (t.rounds delta)
  refine ⟨rfl, hvalue, ?_, rfl⟩
  unfold update
  simp only
  rw [hstopped]

/-! ## What a timer changes -/

/-- A timer stores in its register and in no other. -/
theorem ticks_stores (hc : t.counter ≠ .flag) (n : Nat) (r : Registers) :
    (t.ticks n r).1 = r ∨ ∃ k, (t.ticks n r).1 = t.counter.store k r := by
  induction n generalizing r with
  | zero => exact Or.inl rfl
  | succ n ih =>
    have htick : t.tick r = r ∨ ∃ k, t.tick r = t.counter.store k r := by
      unfold tick
      split
      · exact Or.inl rfl
      · exact Or.inr ⟨_, rfl⟩
    rw [ticks_succ]
    rcases ih (t.tick r) with hrest | ⟨k, hrest⟩
    · simpa only [hrest] using htick
    · refine Or.inr ⟨k, ?_⟩
      rcases htick with htick | ⟨j, htick⟩
      · rw [hrest, htick]
      · rw [hrest, htick, Counter.store_store hc]

theorem registers_of_delay (hc : t.counter = .delay) (delta : Int) (r : Registers) :
    (t.update delta r).registers = { r with delay := (t.update delta r).registers.delay } := by
  show (t.ticks _ r).1 = { r with delay := (t.ticks _ r).1.delay }
  rcases ticks_stores (by rw [hc]; decide) (t.rounds delta) r with h | ⟨k, h⟩
  · rw [h]
  · rw [h, hc]
    rfl

theorem registers_of_sound (hc : t.counter = .sound) (delta : Int) (r : Registers) :
    (t.update delta r).registers = { r with sound := (t.update delta r).registers.sound } := by
  show (t.ticks _ r).1 = { r with sound := (t.ticks _ r).1.sound }
  rcases ticks_stores (by rw [hc]; decide) (t.rounds delta) r with h | ⟨k, h⟩
  · rw [h]
  · rw [h, hc]
    rfl

/-- A timer that does not notify reports nothing. -/
theorem event_of_silent (silent : t.notify = false) (delta : Int) (r : Registers) :
    (t.update delta r).event = none := by
  show (if t.notify && _ then some TimerEvent.stopped else none) = none
  rw [silent]
  rfl

end Chip8.Timer
