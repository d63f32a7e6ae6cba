/-
Chip8.Proofs.Scheduler.Rate — how many steps a stretch of time is worth.

The tick accumulator is reduced by one period a step and not reset, and an
iteration takes one step at most. So steps are a queue that is served one
at a time: after a stall the backlog is worked off iteration by iteration.
`steps_isLeast` gives the number of steps in closed form, for any readings
that only move forward: the least, over all readings so far, of the whole
periods up to that reading and the iterations after it.

The closed form is proved for any queue first (`isLeast_served`). That an
iteration serves the queue (`iterate_paced`) and that the periods that were
paid and the accumulator are the time since the reference
(`Smooth.accumulated`) make the steps such a queue (`Smooth.taken_succ`).
-/
import Chip8.Proofs.Scheduler.Course
import Mathlib.Order.Bounds.Basic

namespace Chip8.Scheduler

/-! ## A queue that is served one at a time -/

/-- Let `q j` have come in by round `j`, and let one be served a round as
long as there is one left. What is served by round `n` is what had come in
by some round, and one for each round since; and it is the least of these. -/
theorem isLeast_served {q : Nat → Int} {n : Nat} {k : Int} (mono : q n ≤ q (n + 1))
    (h : IsLeast {k : Int | ∃ j ≤ n, k = q j + (n - j)} k) :
    IsLeast {k : Int | ∃ j ≤ n + 1, k = q j + ((n + 1 : Nat) - j)}
      (if k + 1 ≤ q (n + 1) then k + 1 else k) := by
  obtain ⟨⟨i, hi, hk⟩, hleast⟩ := h
  have hbound : ∀ j ≤ n, k ≤ q j + (n - j) := fun j hj => hleast ⟨j, hj, rfl⟩
  have hserved : k ≤ q n := by
    have := hbound n le_rfl
    omega
  constructor
  · split
    · exact ⟨i, by omega, by omega⟩
    · -- nothing is left, so all that came in by now is served
      exact ⟨n + 1, le_rfl, by omega⟩
  · rintro _ ⟨j, hj, rfl⟩
    rcases Nat.le_add_one_iff.mp hj with hbefore | rfl
    · have := hbound j hbefore
      split <;> omega
    · split <;> omega

/-! ## Iterations at given readings -/

/-- The script of `n` iterations at the readings after the first. -/
def timeline (c : Nat → Int) (polls : Nat → Poll) (n : Nat) : List (Int × Poll) :=
  (List.range n).map fun j => (c (j + 1), polls j)

/-- The scheduler after these iterations. -/
def reached (start : Scheduler) (c : Nat → Int) (polls : Nat → Poll) (n : Nat) : Scheduler :=
  (start.iterateAll (timeline c polls n)).1

variable {start : Scheduler} {c : Nat → Int} {polls : Nat → Poll} {n : Nat}

theorem timeline_succ (c : Nat → Int) (polls : Nat → Poll) (n : Nat) :
    timeline c polls (n + 1) = timeline c polls n ++ [(c (n + 1), polls n)] := by
  unfold timeline
  rw [List.range_succ, List.map_append]
  rfl

theorem reached_succ (start : Scheduler) (c : Nat → Int) (polls : Nat → Poll) (n : Nat) :
    start.reached c polls (n + 1) =
      ((start.reached c polls n).iterate (c (n + 1)) (polls n)).scheduler := by
  unfold reached
  rw [timeline_succ, iterateAll_append, iterateAll_singleton]

theorem reached_tickPeriod (start : Scheduler) (c : Nat → Int) (polls : Nat → Poll) (n : Nat) :
    (start.reached c polls n).tickPeriod = start.tickPeriod := by
  induction n with
  | zero => rfl
  | succ n ih => rw [reached_succ, iterate_tickPeriod, ih]

theorem reached_lastTime (h : start.lastTime = some (c 0)) (polls : Nat → Poll) (n : Nat) :
    (start.reached c polls n).lastTime = some (c n) := by
  cases n with
  | zero => exact h
  | succ n => rw [reached_succ, iterate_lastTime]

/-- Iterations at readings that only move forward from a reference, none of
which quits or fails, with nothing accumulated at the beginning. -/
structure Smooth (start : Scheduler) (c : Nat → Int) (polls : Nat → Poll) (n : Nat) : Prop where
  reference : start.lastTime = some (c 0)
  empty : start.tickAccumulated = 0
  forward : ∀ j < n, c j ≤ c (j + 1)
  goOn : ∀ j < n, (polls j).goOn = true
  calm : start.faults (timeline c polls n) = []

theorem Smooth.before (h : start.Smooth c polls (n + 1)) :
    start.Smooth c polls n ∧
      ((start.reached c polls n).iterate (c (n + 1)) (polls n)).fault = none := by
  have hcalm := h.calm
  rw [timeline_succ, faults_append, faults_singleton, List.append_eq_nil_iff,
    Option.toList_eq_nil_iff] at hcalm
  refine ⟨⟨h.reference, h.empty, ?_, ?_, hcalm.1⟩, hcalm.2⟩
  · exact fun j hj => h.forward j (by omega)
  · exact fun j hj => h.goOn j (by omega)

/-! ## Steps and time -/

/-- An iteration takes a step if a whole period is in, and pays for it. -/
theorem iterate_paced {s : Scheduler} {last now : Int} {poll : Poll}
    (hlast : s.lastTime = some last) (forward : last ≤ now) (goOn : poll.goOn = true)
    (calm : (s.iterate now poll).fault = none) :
    (s.iterate now poll).scheduler.processor.steps =
        s.processor.steps + (if s.tickPeriod ≤ s.tickAccumulated + (now - last) then 1 else 0) ∧
      (s.iterate now poll).scheduler.tickAccumulated =
        s.tickAccumulated + (now - last) -
          s.tickPeriod * (if s.tickPeriod ≤ s.tickAccumulated + (now - last) then 1 else 0) := by
  have helapsed : s.elapsed now = now - last := by
    unfold elapsed
    rw [hlast]
    exact max_eq_right (by omega)
  have hstep := (s.waited now).step_steps poll.keys
  cases s.iterateCase now poll with
  | quit quits _ iterate => rw [goOn] at quits; cases quits
  | idle _ due _ iterate =>
    rw [Due, helapsed] at due
    rw [iterate, if_neg due, if_neg due, mul_zero, sub_zero, ← helapsed]
    exact ⟨rfl, rfl⟩
  | done _ due _ event result iterate =>
    rw [Due, helapsed] at due
    rw [result] at hstep
    rw [iterate, if_pos due, if_pos due, mul_one, ← helapsed]
    exact ⟨hstep, rfl⟩
  | failed _ due _ f result iterate => rw [iterate] at calm; cases calm

/-- The steps since the reference. -/
def taken (start : Scheduler) (c : Nat → Int) (polls : Nat → Poll) (n : Nat) : Int :=
  (start.reached c polls n).processor.steps - start.processor.steps

theorem taken_zero (start : Scheduler) (c : Nat → Int) (polls : Nat → Poll) :
    start.taken c polls 0 = 0 := sub_self _

/-- One iteration of a smooth course. -/
theorem Smooth.paced (h : start.Smooth c polls (n + 1)) :
    start.taken c polls (n + 1) = start.taken c polls n +
        (if start.tickPeriod ≤ (start.reached c polls n).tickAccumulated + (c (n + 1) - c n)
          then 1 else 0) ∧
      (start.reached c polls (n + 1)).tickAccumulated =
        (start.reached c polls n).tickAccumulated + (c (n + 1) - c n) - start.tickPeriod *
          (if start.tickPeriod ≤ (start.reached c polls n).tickAccumulated + (c (n + 1) - c n)
            then 1 else 0) := by
  have hone := iterate_paced (reached_lastTime h.reference polls n) (h.forward n (by omega))
    (h.goOn n (by omega)) h.before.2
  rw [← reached_succ, reached_tickPeriod] at hone
  refine ⟨?_, hone.2⟩
  rw [taken, taken, hone.1]
  push_cast
  ring

/-- The periods that were paid and the accumulator are the time since the
reference. -/
theorem Smooth.accumulated (h : start.Smooth c polls n) :
    (start.reached c polls n).tickAccumulated =
      c n - c 0 - start.tickPeriod * start.taken c polls n := by
  induction n with
  | zero =>
    rw [taken_zero, mul_zero, sub_self, sub_zero]
    exact h.empty
  | succ n ih =>
    obtain ⟨htaken, haccumulated⟩ := h.paced
    rw [haccumulated, htaken, ih h.before.1]
    ring

/-- The steps are a queue into which the whole periods come. -/
theorem Smooth.taken_succ (h : start.Smooth c polls (n + 1)) :
    start.taken c polls (n + 1) =
      if start.taken c polls n + 1 ≤ (c (n + 1) - c 0) / start.tickPeriod
      then start.taken c polls n + 1 else start.taken c polls n := by
  have hdue : start.tickPeriod ≤ (start.reached c polls n).tickAccumulated + (c (n + 1) - c n) ↔
      start.taken c polls n + 1 ≤ (c (n + 1) - c 0) / start.tickPeriod := by
    rw [Int.le_ediv_iff_mul_le start.tickPeriod_pos, h.before.1.accumulated]
    constructor <;> intro hle <;> linarith
  rw [h.paced.1]
  simp only [hdue]
  split
  · rfl
  · exact add_zero _

theorem Smooth.taken_isLeast (h : start.Smooth c polls n) :
    IsLeast {k : Int | ∃ j ≤ n, k = (c j - c 0) / start.tickPeriod + (n - j)}
      (start.taken c polls n) := by
  induction n with
  | zero =>
    rw [taken_zero]
    refine ⟨⟨0, le_rfl, by simp⟩, ?_⟩
    rintro _ ⟨j, hj, rfl⟩
    obtain rfl := Nat.le_zero.mp hj
    simp
  | succ n ih =>
    have hforward := h.forward n (by omega)
    rw [h.taken_succ]
    exact isLeast_served (Int.ediv_le_ediv start.tickPeriod_pos (by omega)) (ih h.before.1)

/-- If no iteration comes later than one period after the one before it, no
whole period is left over. -/
theorem Smooth.taken_eq (h : start.Smooth c polls n)
    (prompt : ∀ j < n, c (j + 1) - c j ≤ start.tickPeriod) :
    start.taken c polls n = (c n - c 0) / start.tickPeriod := by
  induction n with
  | zero => rw [taken_zero, sub_self, Int.zero_ediv]
  | succ n ih =>
    have hone := ih h.before.1 fun j hj => prompt j (by omega)
    have hforward := h.forward n (by omega)
    have hgap := prompt n (by omega)
    have hmono : (c n - c 0) / start.tickPeriod ≤ (c (n + 1) - c 0) / start.tickPeriod :=
      Int.ediv_le_ediv start.tickPeriod_pos (by omega)
    have hnext : (c (n + 1) - c 0) / start.tickPeriod ≤ (c n - c 0) / start.tickPeriod + 1 := by
      rw [← Int.ediv_self start.tickPeriod_pos.ne', ← Int.add_ediv_of_dvd_right dvd_rfl]
      exact Int.ediv_le_ediv start.tickPeriod_pos (by omega)
    rw [h.taken_succ, hone]
    split <;> omega

/-! ## Where the time is reckoned from -/

/-- A new scheduler reckons from the first reading of a run, or from its
first iteration. -/
theorem reckoned_from {p : Processor} {period now : Int} {s : Scheduler}
    (made : make p period = some s)
    (reference : start = s.begin now ∨
      ∃ poll : Poll, poll.goOn = true ∧ start = (s.iterate now poll).scheduler) :
    start.lastTime = some now ∧ start.tickAccumulated = 0 ∧ start.tickPeriod = period ∧
      start.processor.steps = p.steps := by
  obtain ⟨hperiod, rfl⟩ := make_eq_some_iff.mp made
  rcases reference with rfl | ⟨poll, goOn, rfl⟩
  · exact ⟨rfl, rfl, rfl, rfl⟩
  · -- no time has passed, so no tick is due
    have hearly : ¬Due ⟨p, period, false, 0, none, hperiod⟩ now := by
      unfold Due
      simp [elapsed, hperiod]
    cases iterateCase ⟨p, period, false, 0, none, hperiod⟩ now poll with
    | quit quits _ iterate => rw [goOn] at quits; cases quits
    | idle _ _ _ iterate =>
      rw [iterate]
      exact ⟨rfl, rfl, rfl, rfl⟩
    | done _ due => exact absurd due hearly
    | failed _ due => exact absurd due hearly

/-- A run with a script of `n` polls iterates at `n` readings, and once more
to quit. -/
theorem agenda_range (c : Nat → Int) (polls : Nat → Poll) (n k : Nat) :
    agenda ((List.range n).map polls) { reading := c, taken := k } =
      (List.range n).map (fun j => (c (k + j), polls j)) ++ [(c (k + n), { goOn := false })] := by
  induction n generalizing polls k with
  | zero => rfl
  | succ n ih =>
    have hrest := ih (polls ∘ Nat.succ) (k + 1)
    have hshift : ∀ j, k + 1 + j = k + (j + 1) := by omega
    simp only [hshift] at hrest
    rw [List.range_succ_eq_map, List.map_cons, List.map_map, agenda, List.map_cons, List.map_map,
      List.cons_append]
    exact congrArg (List.cons _) hrest

theorem agenda_timeline (c : Nat → Int) (polls : Nat → Poll) (n : Nat) :
    agenda ((List.range n).map polls) { reading := c, taken := 1 } =
      timeline c polls n ++ [(c (n + 1), { goOn := false })] := by
  rw [agenda_range, timeline]
  simp only [Nat.add_comm 1]

/-- A run in which nobody quits or stops and nothing fails ends where the
iterations lead to. -/
theorem run_reached {s : Scheduler}
    (undisturbed : ∀ j < n, (polls j).goOn = true ∧ (polls j).stop = false)
    (calm : (s.begin (c 0)).faults (timeline c polls n) = []) :
    ∃ journal, s.run ((List.range n).map polls) { reading := c } =
      ⟨{ (s.begin (c 0)).reached c polls n with running := false, lastTime := some (c (n + 1)) },
        .ok (.success ((s.begin (c 0)).reached c polls n).processor.steps), journal⟩ := by
  have hpolls : ∀ poll ∈ (List.range n).map polls, poll.goOn = true ∧ poll.stop = false := by
    intro poll hpoll
    obtain ⟨j, hj, rfl⟩ := List.mem_map.mp hpoll
    exact undisturbed j (List.mem_range.mp hj)
  have hquit := iterate_of_quit (show Poll.goOn { goOn := false } = false from rfl)
    ((s.begin (c 0)).iterateAll (timeline c polls n)).1 (c (n + 1))
  have hfaults : (s.begin (c 0)).faults
      (agenda ((List.range n).map polls) { reading := c, taken := 1 }) = [] := by
    rw [agenda_timeline, faults_append, calm, faults_singleton, hquit]
    rfl
  have hloop := loop_of_undisturbed (s := s.begin (c 0)) rfl hpolls hfaults #[.log s.beginRecord]
  rw [agenda_timeline, iterateAll_append, iterateAll_singleton, hquit] at hloop
  exact ⟨_, hloop⟩

/-! ## The statement -/

/-- **The number of steps.** A new scheduler that reckons from `c 0`, the
first reading of a run or of its first iteration, and `n` iterations at
readings that only move forward, with no request to quit and no fault. The
steps taken are the least, over the readings so far, of the whole periods
up to the reading and the iterations after it; the accumulator holds the
rest of the time. No iteration takes more than one step. If no gap is
longer than a period, the accumulator stays below a period and the steps
are the whole periods. A run with these polls, if none of them stops it,
reports this number of steps. -/
theorem steps_isLeast {p : Processor} {period : Int} {s start : Scheduler} {c : Nat → Int}
    {polls : Nat → Poll} {n : Nat} (made : make p period = some s)
    (reference : start = s.begin (c 0) ∨
      ∃ poll : Poll, poll.goOn = true ∧ start = (s.iterate (c 0) poll).scheduler)
    (forward : ∀ j < n, c j ≤ c (j + 1)) (goOn : ∀ j < n, (polls j).goOn = true)
    (calm : start.faults (timeline c polls n) = []) :
    IsLeast {k : Int | ∃ j ≤ n, k = (c j - c 0) / period + (n - j)}
        ((start.reached c polls n).processor.steps - p.steps) ∧
      (start.reached c polls n).tickAccumulated =
        c n - c 0 - period * ((start.reached c polls n).processor.steps - p.steps) ∧
      0 ≤ (start.reached c polls n).tickAccumulated ∧
      (∀ m, (start.reached c polls m).processor.steps ≤
          (start.reached c polls (m + 1)).processor.steps ∧
        (start.reached c polls (m + 1)).processor.steps ≤
          (start.reached c polls m).processor.steps + 1) ∧
      ((∀ j < n, c (j + 1) - c j ≤ period) →
        (start.reached c polls n).tickAccumulated < period ∧
        (start.reached c polls n).processor.steps - p.steps = (c n - c 0) / period) ∧
      (start = s.begin (c 0) → (∀ j < n, (polls j).stop = false) →
        (s.run ((List.range n).map polls) { reading := c }).result =
          .ok (.success (start.reached c polls n).processor.steps)) := by
  obtain ⟨hlast, hempty, rfl, hsteps⟩ := reckoned_from made reference
  have hsmooth : start.Smooth c polls n := ⟨hlast, hempty, forward, goOn, calm⟩
  have htaken : start.taken c polls n = (start.reached c polls n).processor.steps - p.steps := by
    rw [taken, hsteps]
  have hleast := hsmooth.taken_isLeast
  have haccumulated := hsmooth.accumulated
  rw [htaken] at hleast haccumulated
  refine ⟨hleast, haccumulated, ?_, fun m => ?_, fun prompt => ?_, ?_⟩
  · have hwhole := hleast.2 ⟨n, le_rfl, rfl⟩
    rw [sub_self, add_zero, Int.le_ediv_iff_mul_le start.tickPeriod_pos, mul_comm] at hwhole
    rw [haccumulated]
    exact sub_nonneg.mpr hwhole
  · rw [reached_succ]
    exact iterate_steps ..
  · have heq := hsmooth.taken_eq prompt
    rw [htaken] at heq
    refine ⟨?_, heq⟩
    rw [haccumulated, heq, ← Int.emod_def]
    exact Int.emod_lt_of_pos _ start.tickPeriod_pos
  · rintro rfl running
    obtain ⟨journal, hrun⟩ := run_reached (fun j hj => ⟨goOn j hj, running j hj⟩) calm
    rw [hrun]

/-- A program that jumps to itself, iterated every five nanoseconds: three
iterations take three steps, though five periods of three are over. -/
theorem steps_isLeast_backlog :
    ∃ (p : Processor) (s : Scheduler), make p 3 = some s ∧
      IsLeast {k : Int | ∃ j ≤ (3 : Nat), k = (5 * j - 5 * (0 : Nat)) / 3 + ((3 : Nat) - j)} 3 ∧
      ((s.begin 0).reached (fun j => 5 * j) (fun _ => {}) 3).tickAccumulated = 15 - 3 * 3 ∧
      (s.run ((List.range 3).map fun _ => {}) { reading := fun j => 5 * j }).result =
        .ok (.success 3) := by
  have made : make (Processor.boot [0x12, 0x00] (RandomSource.cycle []) 2 (by decide)) 3 =
      some ⟨_, 3, false, 0, none, by decide⟩ := rfl
  have calm : (begin ⟨Processor.boot [0x12, 0x00] (RandomSource.cycle []) 2 (by decide), 3, false,
      0, none, by decide⟩ (5 * (0 : Nat))).faults (timeline (fun j => 5 * j) (fun _ => {}) 3) =
        [] := by decide +kernel
  have hsteps : ((begin ⟨Processor.boot [0x12, 0x00] (RandomSource.cycle []) 2 (by decide), 3,
      false, 0, none, by decide⟩ (5 * (0 : Nat))).reached (fun j => 5 * j) (fun _ => {})
        3).processor.steps = 3 := by decide +kernel
  have hzero : (Processor.boot [0x12, 0x00] (RandomSource.cycle []) 2 (by decide)).steps = 0 := rfl
  obtain ⟨hleast, haccumulated, -, -, -, hrun⟩ := steps_isLeast (c := fun j => 5 * j) (n := 3) made
    (.inl rfl) (by decide) (by decide) calm
  have hresult := hrun rfl (by decide)
  rw [hsteps] at hleast haccumulated hresult
  rw [hzero] at hleast haccumulated
  exact ⟨_, _, made, hleast, haccumulated, hresult⟩

end Chip8.Scheduler
