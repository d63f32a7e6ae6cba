/-
Chip8.Proofs.Timer.Slicing — a timer that is given its time in slices.

Two updates do what one does with the time of both (`update_add`): the
periods that are over add up, because what does not fill a period is kept,
and the ticks of the first and the ticks of the second are the ticks of
both. A register that has come to zero stays there, so at most one of the
two updates reports it.

From this, by induction on the slices, an update for each slice leaves what
one update with their sum leaves, and reports what it reports
(`slices_eq_update`). This holds of a timer of any register, whatever the
register holds.
-/
import Chip8.Proofs.Timer.Locality

namespace Chip8.Timer

/-- The outcome of updates one after the other. -/
structure Sliced where
  timer : Timer
  registers : Registers
  /-- What was reported, in order. -/
  events : List TimerEvent

/-- Update a timer once for each slice of time. -/
def slices (t : Timer) (r : Registers) : List Int → Sliced
  | [] => ⟨t, r, []⟩
  | delta :: rest =>
      let now := t.update delta r
      let later := now.timer.slices now.registers rest
      { later with events := now.event.toList ++ later.events }

variable {t : Timer} {r s : Registers}

/-! ## Ticks -/

/-- Counting periods in two parts. -/
theorem ticks_add (t : Timer) (n k : Nat) (r : Registers) :
    t.ticks (n + k) r =
      ((t.ticks k (t.ticks n r).1).1, (t.ticks n r).2 || (t.ticks k (t.ticks n r).1).2) := by
  induction n generalizing r with
  | zero =>
    rw [Nat.zero_add]
    rfl
  | succ n ih =>
    rw [Nat.succ_add, ticks_succ, ticks_succ, ih, Bool.or_assoc]

/-- A register that came to zero is zero. -/
theorem value_of_ticks {n : Nat} (h : (t.ticks n r).2 = true) : t.value (t.ticks n r).1 = 0 := by
  induction n generalizing r with
  | zero => cases h
  | succ n ih =>
    rw [ticks_succ] at h ⊢
    rcases Bool.or_eq_true_iff.mp h with hnow | hlater
    · have hzero : t.value (t.tick r) = 0 := by simpa using (Bool.and_eq_true_iff.mp hnow).2
      rw [ticks_of_zero hzero]
      exact hzero
    · exact ih hlater

/-- A register comes to zero once. -/
theorem not_stopped_again {n : Nat} (h : (t.ticks n r).2 = true) (k : Nat) :
    (t.ticks k (t.ticks n r).1).2 = false := by
  rw [ticks_of_zero (value_of_ticks h)]

/-! ## Time -/

/-- Every update leaves less than a period. -/
theorem update_lt (t : Timer) (delta : Int) (r : Registers) :
    (t.update delta r).timer.accumulated < t.period := by
  show t.accumulated + delta - ((t.accumulated + delta) / t.period).toNat * t.period < t.period
  rw [Int.toNat_eq_max]
  rcases le_total 0 ((t.accumulated + delta) / t.period) with hquotient | hquotient
  · have hrest := Int.emod_lt_of_pos (t.accumulated + delta) t.period_pos
    rw [max_eq_left hquotient]
    rw [Int.emod_def] at hrest
    linarith
  · have hnegative : t.accumulated + delta < 1 * t.period :=
      (Int.ediv_lt_iff_lt_mul t.period_pos).mp (by omega)
    rw [max_eq_right hquotient]
    linarith

/-- The periods of two stretches of time: what the first leaves over is there
for the second. -/
theorem rounds_add {later : Int} (forward : 0 ≤ later) (t : Timer) (delta : Int)
    (r : Registers) :
    t.rounds (delta + later) = t.rounds delta + (t.update delta r).timer.rounds later := by
  have hpos := t.period_pos
  have htime : t.accumulated + (delta + later) =
      t.accumulated + delta - t.rounds delta * t.period + later + t.rounds delta * t.period := by
    ring
  show ((t.accumulated + (delta + later)) / t.period).toNat =
    t.rounds delta +
      ((t.accumulated + delta - t.rounds delta * t.period + later) / t.period).toNat
  rw [htime, Int.add_mul_ediv_right _ _ hpos.ne']
  rcases le_total 0 (t.accumulated + delta) with hkept | hkept
  · have hleft : 0 ≤ t.accumulated + delta - t.rounds delta * t.period := by
      have hrounds : (t.rounds delta : Int) = (t.accumulated + delta) / t.period :=
        Int.toNat_of_nonneg (Int.ediv_nonneg hkept hpos.le)
      have hrest := Int.emod_nonneg (t.accumulated + delta) hpos.ne'
      rw [Int.emod_def] at hrest
      rw [hrounds]
      linarith
    have hlater : 0 ≤
        (t.accumulated + delta - t.rounds delta * t.period + later) / t.period :=
      Int.ediv_nonneg (add_nonneg hleft forward) hpos.le
    omega
  · have hnone : t.rounds delta = 0 := by
      have hquotient : (t.accumulated + delta) / t.period < 1 :=
        (Int.ediv_lt_iff_lt_mul hpos).mpr (by linarith)
      show ((t.accumulated + delta) / t.period).toNat = 0
      omega
    rw [hnone]
    simp

/-! ## Updates -/

/-- **Two updates are one with the time of both**, and report what it reports. -/
theorem update_add {later : Int} (forward : 0 ≤ later) (t : Timer) (delta : Int) (r : Registers) :
    let first := t.update delta r
    let second := first.timer.update later first.registers
    let both := t.update (delta + later) r
    second.timer = both.timer ∧ second.registers = both.registers ∧
      first.event.toList ++ second.event.toList = both.event.toList := by
  have hrounds := rounds_add forward t delta r
  have hsecond : ∀ n, (t.update delta r).timer.ticks n (t.update delta r).registers =
      t.ticks n (t.ticks (t.rounds delta) r).1 := fun n => ticks_accumulated t _ n _
  have hboth := ticks_add t (t.rounds delta) ((t.update delta r).timer.rounds later) r
  rw [← hrounds] at hboth
  refine ⟨?_, ?_, ?_⟩
  · show { t with accumulated := t.accumulated + delta - t.rounds delta * t.period + later -
        (t.update delta r).timer.rounds later * t.period } =
      { t with accumulated := t.accumulated + (delta + later) -
        t.rounds (delta + later) * t.period }
    rw [hrounds]
    push_cast
    congr 1
    ring
  · show ((t.update delta r).timer.ticks _ (t.update delta r).registers).1 = (t.ticks _ r).1
    rw [hsecond, hboth]
  · show (if t.notify && (t.ticks (t.rounds delta) r).2 then some TimerEvent.stopped
          else none).toList ++
        (if t.notify && ((t.update delta r).timer.ticks _ (t.update delta r).registers).2 then
          some TimerEvent.stopped else none).toList =
      (if t.notify && (t.ticks (t.rounds (delta + later)) r).2 then some TimerEvent.stopped
        else none).toList
    rw [hsecond, hboth]
    cases hfirst : (t.ticks (t.rounds delta) r).2 with
    | false => cases t.notify <;> simp
    | true =>
      rw [not_stopped_again hfirst]
      cases t.notify <;> simp

/-- A second update, on registers of which the timer sees what the first left. -/
theorem update_add_of_value {delta later : Int} (forward : 0 ≤ later)
    (h : t.value s = t.value (t.update delta r).registers) :
    let first := t.update delta r
    let second := first.timer.update later s
    let both := t.update (delta + later) r
    second.timer = both.timer ∧ t.value second.registers = t.value both.registers ∧
      first.event.toList ++ second.event.toList = both.event.toList := by
  intro first second both
  obtain ⟨htimer, hregisters, hevents⟩ := update_add forward t delta r
  obtain ⟨-, hvalue, hevent, -⟩ := update_congr (t := first.timer) h later
  refine ⟨htimer, ?_, ?_⟩
  · rw [← hregisters]
    exact hvalue
  · rw [← hevents]
    exact congrArg (first.event.toList ++ ·.toList) hevent

/-- An update reports that the register came to zero, or nothing. -/
theorem toList_event (t : Timer) (delta : Int) (r : Registers) :
    (t.update delta r).event.toList =
      if (t.update delta r).event = some .stopped then [.stopped] else [] := by
  have hcases : (t.update delta r).event = some .stopped ∨ (t.update delta r).event = none := by
    show (if t.notify && _ then some TimerEvent.stopped else none) = _ ∨
      (if t.notify && _ then some TimerEvent.stopped else none) = _
    split
    · exact Or.inl rfl
    · exact Or.inr rfl
  rcases hcases with hevent | hevent <;>
  · rw [hevent]
    rfl

/-- Nothing happens in no time, if less than a period was kept. -/
theorem update_zero (kept : t.accumulated < t.period) (r : Registers) :
    (t.update 0 r).timer = t ∧ (t.update 0 r).registers = r ∧ (t.update 0 r).event = none := by
  have hnone : t.rounds 0 = 0 := by
    have hquotient : (t.accumulated + 0) / t.period < 1 :=
      (Int.ediv_lt_iff_lt_mul t.period_pos).mpr (by linarith)
    show ((t.accumulated + 0) / t.period).toNat = 0
    omega
  unfold update
  rw [hnone]
  simp [ticks]

/-- **The slicing of time does not show.** -/
theorem slices_eq_update (kept : t.accumulated < t.period) {deltas : List Int}
    (forward : ∀ delta ∈ deltas, 0 ≤ delta) (r : Registers) :
    t.slices r deltas =
      ⟨(t.update deltas.sum r).timer, (t.update deltas.sum r).registers,
        (t.update deltas.sum r).event.toList⟩ := by
  induction deltas generalizing t r with
  | nil =>
    obtain ⟨htimer, hregisters, hevent⟩ := update_zero kept r
    rw [List.sum_nil, htimer, hregisters, hevent]
    rfl
  | cons delta rest ih =>
    obtain ⟨-, hrest⟩ := List.forall_mem_cons.mp forward
    obtain ⟨htimer, hregisters, hevents⟩ := update_add (List.sum_nonneg hrest) t delta r
    have hlater := ih (t := (t.update delta r).timer) (t.update_lt delta r) hrest
      (t.update delta r).registers
    rw [List.sum_cons, ← htimer, ← hregisters, ← hevents]
    unfold slices
    simp only [hlater]

end Chip8.Timer
