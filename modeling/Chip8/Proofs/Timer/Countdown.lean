/-
Chip8.Proofs.Timer.Countdown — what counting periods does to a register.

`ticks_eq`: counting `n` periods takes `n` from the register, but nothing
below zero, and the register comes to zero on the way exactly if it was
above zero and at most `n`. `update_registers` and `update_event` say the
same of an update, with the periods that are over as `n`; `update_of_delay`
and `update_of_sound` spell it out for the two registers that the timers of a
processor count down.

The flag is left out: it keeps only whether what is stored there is zero,
so it does not count.
-/
import Mathlib.Tactic
import Chip8.Timer

namespace Chip8

namespace Counter

variable {c : Counter}

theorem value_store (hc : c ≠ .flag) (n : Int) (r : Registers) :
    c.value (c.store n r) = n % 256 := by
  cases c with
  | flag => exact absurd rfl hc
  | _ => rfl

theorem store_store (hc : c ≠ .flag) (n k : Int) (r : Registers) :
    c.store n (c.store k r) = c.store n r := by
  cases c with
  | flag => exact absurd rfl hc
  | _ => rfl

/-- Storing what is there changes nothing. -/
theorem store_value (hc : c ≠ .flag) {r : Registers} (h₀ : 0 ≤ c.value r)
    (h : c.value r ≤ 255) : c.store (c.value r) r = r := by
  have hlow : c.value r % 256 = c.value r := by omega
  cases c with
  | flag => exact absurd rfl hc
  | _ =>
    simp only [store]
    rw [hlow]
    rfl

end Counter

namespace Timer

variable {t : Timer} {r : Registers}

/-- Counting `n` periods: the register loses `n` but stays at zero, and the
flag tells whether it came to zero on the way. -/
theorem ticks_eq (hc : t.counter ≠ .flag) (n : Nat) (h₀ : 0 ≤ t.value r) (h : t.value r ≤ 255) :
    t.ticks n r =
      (t.counter.store (max 0 (t.value r - n)) r, decide (0 < t.value r ∧ t.value r ≤ n)) := by
  induction n generalizing r with
  | zero =>
    have hmax : max 0 (t.value r - (0 : Nat)) = t.counter.value r := by
      unfold value at h₀ ⊢
      omega
    have hflag : ¬(0 < t.value r ∧ t.value r ≤ (0 : Nat)) := by omega
    rw [hmax, Counter.store_value hc h₀ h, decide_eq_false hflag]
    rfl
  | succ n ih =>
    unfold ticks
    by_cases hzero : t.value r = 0
    · have hmax : max 0 (t.value r - (n + 1 : Nat)) = t.counter.value r := by
        unfold value at hzero ⊢
        omega
      have hflag : ¬(0 < t.value r ∧ t.value r ≤ (n + 1 : Nat)) := by omega
      rw [if_pos hzero, hmax, Counter.store_value hc h₀ h, decide_eq_false hflag]
    · have htick : t.tick r = t.counter.store (t.value r - 1) r := if_neg hzero
      have hnext : t.value (t.tick r) = t.value r - 1 := by
        rw [htick]
        unfold value at h₀ h hzero ⊢
        rw [Counter.value_store hc]
        omega
      simp only [if_neg hzero]
      by_cases hlast : t.value r = 1
      · have hmax : max 0 (t.value r - (n + 1 : Nat)) = t.value r - 1 := by omega
        have hflag : 0 < t.value r ∧ t.value r ≤ (n + 1 : Nat) := by omega
        rw [if_pos (by omega), htick, hmax, decide_eq_true hflag]
      · rw [if_neg (by omega), ih (by omega) (by omega), hnext, htick, Counter.store_store hc]
        have hmax : max 0 (t.value r - 1 - n) = max 0 (t.value r - (n + 1 : Nat)) := by
          rw [show t.value r - 1 - (n : Int) = t.value r - (n + 1 : Nat) by omega]
        have hflag : (0 < t.value r - 1 ∧ t.value r - 1 ≤ (n : Int)) ↔
            (0 < t.value r ∧ t.value r ≤ (n + 1 : Nat)) := by omega
        rw [hmax, decide_eq_decide.mpr hflag]

/-- An update takes the periods that are over from the register. -/
theorem update_registers (hc : t.counter ≠ .flag) (delta : Int) (h₀ : 0 ≤ t.value r)
    (h : t.value r ≤ 255) :
    (t.update delta r).registers = t.counter.store (max 0 (t.value r - t.rounds delta)) r := by
  unfold update
  simp only
  rw [ticks_eq hc _ h₀ h]

/-- An update reports that the register came to zero, if the timer notifies
and the register was above zero and at most the periods that are over. -/
theorem update_event (hc : t.counter ≠ .flag) (delta : Int) (h₀ : 0 ≤ t.value r)
    (h : t.value r ≤ 255) :
    (t.update delta r).event =
      if t.notify = true ∧ 0 < t.value r ∧ t.value r ≤ t.rounds delta then some .stopped
      else none := by
  unfold update
  simp only
  rw [ticks_eq hc _ h₀ h]
  simp only [Bool.and_eq_true, decide_eq_true_eq]

/-! ## The delay and the sound register -/

theorem value_of_delay (h : t.counter = .delay) (r : Registers) : t.value r = r.delay := by
  unfold value
  rw [h]
  rfl

theorem value_of_sound (h : t.counter = .sound) (r : Registers) : t.value r = r.sound := by
  unfold value
  rw [h]
  rfl

/-- A timer of the delay register changes no other register. -/
theorem update_of_delay (hc : t.counter = .delay) (delta : Int) (h₀ : 0 ≤ r.delay)
    (h : r.delay ≤ 255) :
    (t.update delta r).registers = { r with delay := max 0 (r.delay - t.rounds delta) } := by
  have hvalue := value_of_delay hc r
  have hlow : max 0 (r.delay - t.rounds delta) % 256 = max 0 (r.delay - t.rounds delta) := by omega
  rw [update_registers (by rw [hc]; decide) delta (by rwa [hvalue]) (by rwa [hvalue]), hvalue, hc]
  unfold Counter.store
  rw [hlow]

/-- A timer of the sound register changes no other register. -/
theorem update_of_sound (hc : t.counter = .sound) (delta : Int) (h₀ : 0 ≤ r.sound)
    (h : r.sound ≤ 255) :
    (t.update delta r).registers = { r with sound := max 0 (r.sound - t.rounds delta) } := by
  have hvalue := value_of_sound hc r
  have hlow : max 0 (r.sound - t.rounds delta) % 256 = max 0 (r.sound - t.rounds delta) := by omega
  rw [update_registers (by rw [hc]; decide) delta (by rwa [hvalue]) (by rwa [hvalue]), hvalue, hc]
  unfold Counter.store
  rw [hlow]

end Timer

end Chip8
