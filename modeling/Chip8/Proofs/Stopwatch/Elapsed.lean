/-
Chip8.Proofs.Stopwatch.Elapsed — what a stopwatch measures.

A history tells the calls of a stopwatch, each with what the clock shows when
it is made; no call looks at the clock twice, so any clock comes to a history,
whose times are the readings that are next when the calls are made
(`exists_history`). The running intervals of a history are read off it without
the stopwatch (`stretches`): one begins at a start and ends at the next stop,
whatever is called between them, or is still open.

A new stopwatch is at rest, and every call leaves one that is at rest or going
(`Coherent`), so the starting time is never missed. From there on

* `value_of_state` — what is measured is the length of the stretches since the
  last reset, by induction along the stretches;
* `value_of_obey` — no call but a reset changes what is measured at the time it
  is made, so with a clock that does not go back it grows (`value_le_value`);
* `run_kept` — reading is no event, and can be left out of a history.
-/
import Mathlib.Tactic
import Mathlib.Data.List.DropRight
import Chip8.Stopwatch

namespace Chip8.Stopwatch

/-! ## Histories -/

namespace Call

def starts : Call → Bool
  | .start | .resume | .enter => true
  | _ => false

def stops : Call → Bool
  | .stop | .pause | .leave => true
  | _ => false

end Call

/-- Calls, each with what the clock shows when it is made. -/
abbrev History := List (Int × Call)

/-- Make the calls of a history, one after the other, up to the first that
fails; each has its answer. -/
def run (s : Stopwatch) : History → Except Failure (Stopwatch × List (Option Int))
  | [] => .ok (s, [])
  | (now, c) :: rest => do
      let (s, answer, _) ← s.obey (.fixed now) c
      let (s, answers) ← run s rest
      return (s, answer :: answers)

/-- Make calls one after the other by one clock. -/
def runOn (s : Stopwatch) (clock : Clock) :
    List Call → Except Failure (Stopwatch × List (Option Int))
  | [] => .ok (s, [])
  | c :: rest => do
      let (s, answer, clock) ← s.obey clock c
      let (s, answers) ← runOn s clock rest
      return (s, answer :: answers)

/-- The calls after the last reset. -/
def sinceReset (h : History) : History := h.rtakeWhile fun call => call.2 ≠ .reset

/-- The running intervals of a history, with the time at the start and the time
at the stop, if there was one yet. -/
def stretches : History → List (Int × Option Int)
  | [] => []
  | (now, c) :: rest =>
      if c.starts then
        (now, (rest.find? (·.2.stops)).map Prod.fst) :: stretches (rest.dropWhile (!·.2.stops))
      else stretches rest
termination_by h => h.length
decreasing_by
  · exact Nat.lt_succ_of_le (List.dropWhile_suffix _).length_le
  · exact Nat.lt_succ_self _

/-- How long an interval is; one that is open lasts until now. -/
def duration (now : Int) (stretch : Int × Option Int) : Int := stretch.2.getD now - stretch.1

/-- The time that was to be measured. -/
def measured (h : History) (now : Int) : Int :=
  ((stretches (sinceReset h)).map (duration now)).sum

/-! ## One call -/

def atRest (elapsed : Int) : Stopwatch := { elapsed }

def going (began elapsed : Int) : Stopwatch := { running := true, startTime := some began, elapsed }

/-- A stopwatch has a starting time exactly while it runs. -/
def Coherent (s : Stopwatch) : Prop := s.startTime.isSome = s.running

/-- What a stopwatch shows when the clock shows `now`. -/
def value (s : Stopwatch) (now : Int) : Int :=
  s.elapsed + ((s.startTime.map (now - ·)).getD 0)

theorem coherent_cases {s : Stopwatch} (coherent : s.Coherent) :
    (∃ e, s = atRest e) ∨ ∃ b e, s = going b e := by
  obtain ⟨running, startTime, elapsed⟩ := s
  cases startTime with
  | none =>
    have hstopped : running = false := coherent.symm
    exact .inl ⟨elapsed, by rw [hstopped]; rfl⟩
  | some began =>
    have hrunning : running = true := coherent.symm
    exact .inr ⟨began, elapsed, by rw [hrunning]; rfl⟩

variable {s s' s₁ : Stopwatch} {clock clock' : Clock} {c : Call} {answer : Option Int}
  {now later b e : Int} {h more : History}

/-- Every call leaves a coherent stopwatch. -/
theorem exists_obey (coherent : s.Coherent) (clock : Clock) (c : Call) :
    ∃ s₁ answer clock', s.obey clock c = .ok (s₁, answer, clock') ∧ s₁.Coherent := by
  rcases coherent_cases coherent with ⟨e, rfl⟩ | ⟨b, e, rfl⟩ <;> cases c <;>
    exact ⟨_, _, _, rfl, rfl⟩

theorem obey_going_of_starts (hc : c.starts = true) :
    (going b e).obey clock c = .ok (going b e, none, clock) := by
  cases c <;> first | rfl | cases hc

theorem obey_atRest_of_stops (hc : c.stops = true) :
    (atRest e).obey clock c = .ok (atRest e, none, clock) := by
  cases c <;> first | rfl | cases hc

theorem obey_atRest_of_starts (hc : c.starts = true) :
    (atRest e).obey clock c =
      .ok (going (clock.reading clock.taken) e, none, clock.read.2) := by
  cases c <;> first | rfl | cases hc

theorem obey_going_of_stops (hc : c.stops = true) :
    (going b e).obey clock c =
      .ok (atRest (e + (clock.reading clock.taken - b)), none, clock.read.2) := by
  cases c <;> first | rfl | cases hc

/-- What is going is left alone by all but stops and resets. -/
theorem exists_obey_going (b e : Int) (clock : Clock) (hc : c.stops = false)
    (noReset : c ≠ .reset) :
    ∃ answer clock', (going b e).obey clock c = .ok (going b e, answer, clock') := by
  cases c <;> first | exact ⟨_, _, rfl⟩ | exact absurd rfl noReset | cases hc

/-- What is at rest is left alone by all but starts and resets. -/
theorem exists_obey_atRest (e : Int) (clock : Clock) (hc : c.starts = false)
    (noReset : c ≠ .reset) :
    ∃ answer clock', (atRest e).obey clock c = .ok (atRest e, answer, clock') := by
  cases c <;> first | exact ⟨_, _, rfl⟩ | exact absurd rfl noReset | cases hc

theorem obey_read (coherent : s.Coherent) (clock : Clock) :
    ∃ clock', s.obey clock .read =
      .ok (s, some (s.value (clock.reading clock.taken)), clock') := by
  rcases coherent_cases coherent with ⟨e, rfl⟩ | ⟨b, e, rfl⟩
  · refine ⟨clock, ?_⟩
    show Except.ok (atRest e, some e, clock) = .ok (_, some (e + 0), _)
    rw [add_zero]
  · exact ⟨clock.read.2, rfl⟩

/-- **No call but a reset changes what is shown at the time it is made.** -/
theorem value_of_obey (coherent : s.Coherent) (noReset : c ≠ .reset)
    (obeyed : s.obey (.fixed now) c = .ok (s₁, answer, clock)) : s₁.value now = s.value now := by
  rcases coherent_cases coherent with ⟨e, rfl⟩ | ⟨b, e, rfl⟩
  · cases hc : c.starts with
    | true =>
      rw [obey_atRest_of_starts hc] at obeyed
      injection obeyed with obeyed
      obtain rfl : going now e = s₁ := congrArg Prod.fst obeyed
      show e + (now - now) = e + 0
      rw [sub_self]
    | false =>
      obtain ⟨_, _, hkept⟩ := exists_obey_atRest e (.fixed now) hc noReset
      rw [hkept] at obeyed
      injection obeyed with obeyed
      obtain rfl : atRest e = s₁ := congrArg Prod.fst obeyed
      rfl
  · cases hc : c.stops with
    | true =>
      rw [obey_going_of_stops hc] at obeyed
      injection obeyed with obeyed
      obtain rfl : atRest (e + (now - b)) = s₁ := congrArg Prod.fst obeyed
      exact add_zero (e + (now - b))
    | false =>
      obtain ⟨_, _, hkept⟩ := exists_obey_going b e (.fixed now) hc noReset
      rw [hkept] at obeyed
      injection obeyed with obeyed
      obtain rfl : going b e = s₁ := congrArg Prod.fst obeyed
      rfl

theorem value_of_reset (obeyed : s.obey clock .reset = .ok (s₁, answer, clock')) (now : Int) :
    s₁.value now = 0 := by
  injection obeyed with obeyed
  obtain rfl : reset = s₁ := congrArg Prod.fst obeyed
  rfl

/-- What is shown grows with the time. -/
theorem value_mono (s : Stopwatch) (le : now ≤ later) : s.value now ≤ s.value later := by
  unfold value
  cases s.startTime with
  | none => exact le_rfl
  | some began =>
    show s.elapsed + (now - began) ≤ s.elapsed + (later - began)
    omega

/-! ## A history -/

theorem run_cons (obeyed : s.obey (.fixed now) c = .ok (s₁, answer, clock)) (rest : History) :
    s.run ((now, c) :: rest) =
      (s₁.run rest).map fun (s, answers) => (s, answer :: answers) := by
  rw [run, obeyed]
  show (s₁.run rest >>= fun x => pure (x.1, answer :: x.2)) = _
  cases s₁.run rest <;> rfl

/-- The stopwatch that a history leaves. -/
def state (s : Stopwatch) (h : History) : Except Failure Stopwatch := (s.run h).map Prod.fst

theorem state_cons (obeyed : s.obey (.fixed now) c = .ok (s₁, answer, clock)) (rest : History) :
    s.state ((now, c) :: rest) = s₁.state rest := by
  unfold state
  rw [run_cons obeyed]
  cases s₁.run rest <;> rfl

theorem exists_run (coherent : s.Coherent) (h : History) :
    ∃ s' answers, s.run h = .ok (s', answers) ∧ s.state h = .ok s' ∧ s'.Coherent := by
  induction h generalizing s with
  | nil => exact ⟨s, [], rfl, rfl, coherent⟩
  | cons call rest ih =>
    obtain ⟨now, c⟩ := call
    obtain ⟨s₁, answer, clock, hobey, hcoherent⟩ := exists_obey coherent (.fixed now) c
    obtain ⟨s', answers, hrun, hstate, hcoherent'⟩ := ih hcoherent
    refine ⟨s', answer :: answers, ?_, (state_cons hobey rest).trans hstate, hcoherent'⟩
    rw [run_cons hobey, hrun]
    rfl

theorem state_append (coherent : s.Coherent) (ran : s.state h = .ok s') (more : History) :
    s.state (h ++ more) = s'.state more := by
  induction h generalizing s with
  | nil =>
    injection ran with ran
    rw [← ran]
    rfl
  | cons call rest ih =>
    obtain ⟨now, c⟩ := call
    obtain ⟨s₁, answer, clock, hobey, hcoherent⟩ := exists_obey coherent (.fixed now) c
    rw [state_cons hobey] at ran
    rw [List.cons_append, state_cons hobey]
    exact ih hcoherent ran

theorem coherent_new : Coherent {} := rfl

/-- **What came before the last reset is forgotten.** -/
theorem state_sinceReset (h : History) : state {} (sinceReset h) = state {} h := by
  induction h using List.reverseRecOn with
  | nil => rfl
  | append_singleton h call ih =>
    obtain ⟨now, c⟩ := call
    obtain ⟨s, -, -, hstate, hcoherent⟩ := exists_run coherent_new h
    unfold sinceReset
    rw [List.rtakeWhile_concat, state_append coherent_new hstate]
    by_cases hc : c = .reset
    · subst hc
      rfl
    · rw [if_pos (by simpa using hc)]
      exact state_append coherent_new (ih.trans hstate) _

theorem ne_reset_of_mem_sinceReset {call : Int × Call} (hcall : call ∈ sinceReset h) :
    call.2 ≠ .reset := by
  simpa using List.mem_rtakeWhile_imp hcall

/-! ## Stretches -/

/-- What is going stops at the next stop. -/
theorem state_going (resetless : ∀ call ∈ h, call.2 ≠ .reset) :
    (going b e).state h =
      match h.find? (·.2.stops) with
      | some (ended, _) => (atRest (e + (ended - b))).state (h.dropWhile (!·.2.stops))
      | none => .ok (going b e) := by
  induction h with
  | nil => rfl
  | cons call rest ih =>
    obtain ⟨now, c⟩ := call
    cases hc : c.stops with
    | true =>
      simp only [List.find?_cons, List.dropWhile_cons, hc, Bool.not_true, Bool.false_eq_true,
        if_false]
      rw [state_cons (obey_going_of_stops hc), state_cons (obey_atRest_of_stops hc)]
      rfl
    | false =>
      obtain ⟨_, _, hkept⟩ := exists_obey_going b e (.fixed now) hc
        (resetless _ List.mem_cons_self)
      simp only [List.find?_cons, List.dropWhile_cons, hc, Bool.not_false, if_true]
      rw [state_cons hkept]
      exact ih fun call hcall => resetless call (List.mem_cons_of_mem _ hcall)

/-- **What is shown at the end of a history without resets is the time of its
stretches.** -/
theorem value_of_state (resetless : ∀ call ∈ h, call.2 ≠ .reset)
    (ran : (atRest e).state h = .ok s) (now : Int) :
    s.value now = e + ((stretches h).map (duration now)).sum := by
  fun_induction stretches h generalizing e with
  | case1 =>
    injection ran with ran
    rw [← ran]
    rfl
  | case2 began c rest hc ih =>
    have hrest : ∀ call ∈ rest, call.2 ≠ .reset :=
      fun call hcall => resetless call (List.mem_cons_of_mem _ hcall)
    rw [state_cons (obey_atRest_of_starts hc), state_going hrest] at ran
    rw [List.map_cons, List.sum_cons]
    cases hfind : rest.find? (·.2.stops) with
    | none =>
      have hend : rest.dropWhile (!·.2.stops) = [] := by
        rw [List.dropWhile_eq_nil_iff]
        simpa using hfind
      rw [hfind] at ran
      injection ran with ran
      rw [← ran, hend, stretches]
      show e + (now - began) = e + (now - began + 0)
      rw [add_zero]
    | some stop =>
      obtain ⟨ended, c'⟩ := stop
      simp only [hfind] at ran
      have hstopped :=
        ih (fun call hcall => hrest call ((List.dropWhile_suffix _).subset hcall)) ran
      rw [hstopped]
      show e + (ended - began) + _ = e + (ended - began + _)
      rw [add_assoc]
  | case3 now' c rest hc ih =>
    have hc : c.starts = false := by simpa using hc
    obtain ⟨_, _, hkept⟩ := exists_obey_atRest e (.fixed now') hc
      (resetless _ List.mem_cons_self)
    rw [state_cons hkept] at ran
    exact ih (fun call hcall => resetless call (List.mem_cons_of_mem _ hcall)) ran

/-- **What is shown is the time that was to be measured.** -/
theorem value_eq_measured (ran : state {} h = .ok s) (now : Int) :
    s.value now = measured h now := by
  rw [← state_sinceReset] at ran
  rw [value_of_state (fun call => ne_reset_of_mem_sinceReset) ran, zero_add, measured]

/-! ## A clock that does not go back -/

/-- Between resets what is shown does not go down. -/
theorem value_le_value (coherent : s.Coherent) (resetless : ∀ call ∈ more, call.2 ≠ .reset)
    (ran : s.state more = .ok s')
    (forward : (now :: (more.map Prod.fst ++ [later])).IsChain (· ≤ ·)) :
    s.value now ≤ s'.value later := by
  induction more generalizing s now with
  | nil =>
    injection ran with ran
    rw [← ran]
    exact value_mono s (List.isChain_pair.mp forward)
  | cons call rest ih =>
    obtain ⟨time, c⟩ := call
    obtain ⟨s₁, answer, clock, hobey, hcoherent⟩ := exists_obey coherent (.fixed time) c
    obtain ⟨hle, hrest⟩ := List.isChain_cons_cons.mp forward
    rw [state_cons hobey] at ran
    calc s.value now ≤ s.value time := value_mono s hle
      _ = s₁.value time := (value_of_obey coherent (resetless _ List.mem_cons_self) hobey).symm
      _ ≤ s'.value later :=
        ih hcoherent (fun call hcall => resetless call (List.mem_cons_of_mem _ hcall)) ran hrest

/-- What is shown is never negative, if it is not to begin with. -/
theorem value_nonneg (coherent : s.Coherent) (nonneg : 0 ≤ s.value now) (ran : s.state h = .ok s')
    (forward : (now :: (h.map Prod.fst ++ [later])).IsChain (· ≤ ·)) : 0 ≤ s'.value later := by
  induction h generalizing s now with
  | nil =>
    injection ran with ran
    rw [← ran]
    exact nonneg.trans (value_mono s (List.isChain_pair.mp forward))
  | cons call rest ih =>
    obtain ⟨time, c⟩ := call
    obtain ⟨s₁, answer, clock, hobey, hcoherent⟩ := exists_obey coherent (.fixed time) c
    obtain ⟨hle, hrest⟩ := List.isChain_cons_cons.mp forward
    rw [state_cons hobey] at ran
    refine ih hcoherent ?_ ran hrest
    by_cases hc : c = .reset
    · subst hc
      exact (value_of_reset hobey time).ge
    · rw [value_of_obey coherent hc hobey]
      exact nonneg.trans (value_mono s hle)

/-! ## Reading -/

/-- What is left of a list without the places that are marked. -/
def kept {α : Type} (extra : List Bool) (l : List α) : List α :=
  ((extra.zip l).filter (!·.1)).map Prod.snd

/-- **Reading changes nothing**: without some of the times it is read, a
stopwatch ends up the same and gives the same answers to the other calls. -/
theorem run_kept (coherent : s.Coherent) {extra : List Bool} (length : extra.length = h.length)
    (reads : ∀ m ∈ extra.zip h, m.1 = true → m.2.2 = .read) :
    ∃ s' answers, s.run h = .ok (s', answers) ∧
      s.run (kept extra h) = .ok (s', kept extra answers) := by
  induction h generalizing s extra with
  | nil => exact ⟨s, [], rfl, by cases extra <;> rfl⟩
  | cons call rest ih =>
    obtain ⟨now, c⟩ := call
    cases extra with
    | nil => cases length
    | cons marked extra =>
      obtain ⟨s₁, answer, clock, hobey, hcoherent⟩ := exists_obey coherent (.fixed now) c
      obtain ⟨s', answers, hrun, hkept⟩ := ih hcoherent (Nat.succ.inj length)
        fun m hm => reads m (List.mem_cons_of_mem _ hm)
      refine ⟨s', answer :: answers, by rw [run_cons hobey, hrun]; rfl, ?_⟩
      cases marked with
      | false =>
        show s.run ((now, c) :: kept extra rest) = .ok (s', answer :: kept extra answers)
        rw [run_cons hobey, hkept]
        rfl
      | true =>
        have hread : c = .read := reads _ List.mem_cons_self rfl
        subst hread
        obtain ⟨_, hsame⟩ := obey_read coherent (.fixed now)
        rw [hobey] at hsame
        injection hsame with hsame
        have hsame : s₁ = s := congrArg Prod.fst hsame
        rw [hsame] at hkept
        exact hkept

/-! ## One clock -/

/-- A call looks at the clock once at most. -/
theorem exists_obey_fixed (coherent : s.Coherent) (clock : Clock) (c : Call) :
    ∃ s₁ answer clock' clock'', s.obey clock c = .ok (s₁, answer, clock') ∧
      s.obey (.fixed (clock.reading clock.taken)) c = .ok (s₁, answer, clock'') ∧ s₁.Coherent ∧
      clock'.reading = clock.reading ∧
      (clock'.taken = clock.taken ∨ clock'.taken = clock.taken + 1) := by
  rcases coherent_cases coherent with ⟨e, rfl⟩ | ⟨b, e, rfl⟩ <;> cases c <;>
    first
      | exact ⟨_, _, clock, _, rfl, rfl, rfl, rfl, Or.inl rfl⟩
      | exact ⟨_, _, clock.read.2, _, rfl, rfl, rfl, rfl, Or.inr rfl⟩

/-- Readings of a clock by their numbers: they begin with the one that is next,
and none is left out. -/
structure Successive (clock : Clock) (readings : List Nat) : Prop where
  first : ∀ k ∈ readings.head?, k = clock.taken
  next : readings.IsChain fun k after => after = k ∨ after = k + 1

/-- Readings one after the other do not go back if the clock does not. -/
theorem Successive.forward {readings : List Nat} (h : Successive clock readings)
    (monotone : Monotone clock.reading) : (readings.map clock.reading).IsChain (· ≤ ·) := by
  rw [List.isChain_map]
  refine h.next.imp fun k after hafter => monotone ?_
  omega

/-- **Calls by any clock are a history**, whose times are successive readings
of the clock. -/
theorem exists_history (coherent : s.Coherent) (clock : Clock) (calls : List Call) :
    ∃ (h : History) (readings : List Nat), h.map Prod.snd = calls ∧
      h.map Prod.fst = readings.map clock.reading ∧ Successive clock readings ∧
      s.runOn clock calls = s.run h := by
  induction calls generalizing s clock with
  | nil => exact ⟨[], [], rfl, rfl, ⟨fun _ hk => (nomatch hk), List.isChain_nil⟩, rfl⟩
  | cons c rest ih =>
    obtain ⟨s₁, answer, clock', clock'', hobey, hfixed, hcoherent, hreading, htaken⟩ :=
      exists_obey_fixed coherent clock c
    obtain ⟨h, readings, hcalls, htimes, hsuccessive, hrun⟩ := ih hcoherent clock'
    rw [hreading] at htimes
    refine ⟨(clock.reading clock.taken, c) :: h, clock.taken :: readings,
      by rw [List.map_cons, hcalls], by rw [List.map_cons, htimes, List.map_cons],
      ⟨fun k hk => (Option.mem_some_iff.mp hk).symm, List.isChain_cons.mpr ⟨fun k hk => ?_,
        hsuccessive.next⟩⟩, ?_⟩
    · rw [hsuccessive.first k hk]
      exact htaken
    · rw [runOn, hobey, run, hfixed]
      show (s₁.runOn clock' rest >>= _) = (s₁.run h >>= _)
      rw [hrun]

/-! ## The statement -/

/-- **A stopwatch measures the time it runs.** Calls by any clock come to a
history, whose times are the readings of the clock one after the other, in order
if the clock does not go back. No call of a history fails, and a starting time is
there exactly while the stopwatch runs; starting it then, and stopping it
otherwise, leaves it and the clock alone. What is read is the time of the
stretches since the last reset. With a clock that does not go back that is never
negative, and does not go down before the next reset. And times at which it is
read can be left out: the stopwatch and the answers to the other calls are the
same. -/
theorem measures_running_time :
    (∀ (clock : Clock) (calls : List Call), ∃ (h : History) (readings : List Nat),
      h.map Prod.snd = calls ∧ h.map Prod.fst = readings.map clock.reading ∧
      Successive clock readings ∧ runOn {} clock calls = run {} h ∧
      (Monotone clock.reading → (h.map Prod.fst).IsChain (· ≤ ·))) ∧
    ∀ h : History, ∃ s answers, run {} h = .ok (s, answers) ∧
      s.startTime.isSome = s.running ∧
      (s.running = true → ∀ c, c.starts = true →
        ∀ clock, s.obey clock c = .ok (s, none, clock)) ∧
      (s.running = false → ∀ c, c.stops = true →
        ∀ clock, s.obey clock c = .ok (s, none, clock)) ∧
      (∀ clock, ∃ clock', s.obey clock .read =
        .ok (s, some (measured h (clock.reading clock.taken)), clock')) ∧
      (∀ now, (h.map Prod.fst ++ [now]).IsChain (· ≤ ·) → 0 ≤ measured h now) ∧
      (∀ more now later, (∀ call ∈ more, call.2 ≠ .reset) →
        (now :: (more.map Prod.fst ++ [later])).IsChain (· ≤ ·) →
        measured h now ≤ measured (h ++ more) later) ∧
      (∀ extra : List Bool, extra.length = h.length →
        (∀ m ∈ extra.zip h, m.1 = true → m.2.2 = .read) →
        run {} (kept extra h) = .ok (s, kept extra answers)) := by
  constructor
  · intro clock calls
    obtain ⟨h, readings, hcalls, htimes, hsuccessive, hrun⟩ :=
      exists_history coherent_new clock calls
    exact ⟨h, readings, hcalls, htimes, hsuccessive, hrun, fun monotone =>
      htimes ▸ hsuccessive.forward monotone⟩
  intro h
  obtain ⟨s, answers, hrun, hstate, coherent⟩ := exists_run coherent_new h
  have hvalue := value_eq_measured hstate
  refine ⟨s, answers, hrun, coherent, ?_, ?_, ?_, ?_, ?_, ?_⟩
  · intro running c hc clock
    rcases coherent_cases coherent with ⟨e, rfl⟩ | ⟨b, e, rfl⟩
    · cases running
    · exact obey_going_of_starts hc
  · intro stopped c hc clock
    rcases coherent_cases coherent with ⟨e, rfl⟩ | ⟨b, e, rfl⟩
    · exact obey_atRest_of_stops hc
    · cases stopped
  · intro clock
    rw [← hvalue]
    exact obey_read coherent clock
  · intro now forward
    rw [← hvalue]
    cases h with
    | nil =>
      injection hstate with hstate
      rw [← hstate]
      rfl
    | cons call rest =>
      have hfirst : 0 ≤ value {} call.1 := le_rfl
      exact value_nonneg coherent_new hfirst hstate (List.isChain_cons_cons.mpr ⟨le_rfl, forward⟩)
  · intro more now later resetless forward
    obtain ⟨s', -, -, hmore, -⟩ := exists_run coherent more
    rw [← hvalue, ← value_eq_measured ((state_append coherent_new hstate more).trans hmore)]
    exact value_le_value coherent resetless hmore forward
  · intro extra length reads
    obtain ⟨s', answers', hrun', hkept⟩ := run_kept coherent_new length reads
    rw [hrun] at hrun'
    injection hrun' with hsame
    injection hsame with hs hanswers
    rw [hkept, hs, hanswers]

/-- A stopwatch that is started twice and stopped twice, put back to the
beginning, and entered, read and left; started again at 20 it shows 8 at 23. -/
theorem measures_running_time_started_twice :
    let h : History := [(1, .start), (4, .resume), (6, .pause), (7, .stop), (8, .reset),
      (10, .enter), (11, .read), (15, .leave), (20, .start)]
    ∃ s answers, run {} h = .ok (s, answers) ∧ s.running = true ∧
      s.obey (.fixed 21) .enter = .ok (s, none, .fixed 21) ∧
      (∃ clock', s.obey (.fixed 23) .read = .ok (s, some 8, clock')) ∧
      0 ≤ measured h 23 ∧ measured h 23 ≤ measured (h ++ [(24, .leave), (30, .stop)]) 31 ∧
      run {} (h.filter (·.2 ≠ .read)) = .ok (s, List.replicate 8 none) ∧
      obey {} (.fixed 5) .stop = .ok ({}, none, .fixed 5) ∧
      ∃ h' : History, h'.map Prod.snd = [.start, .read] ∧
        runOn {} { reading := fun k => k } [.start, .read] = run {} h' ∧
        (h'.map Prod.fst).IsChain (· ≤ ·) := by
  intro h
  obtain ⟨hclocks, hhistories⟩ := measures_running_time
  obtain ⟨s, answers, hrun, hcoherent, hstarts, -, hread, hnonneg, hgrows, hkept⟩ := hhistories h
  obtain ⟨fresh, _, hfresh, -, -, hstops, -⟩ := hhistories []
  obtain ⟨h', -, hcalls', -, -, hrun', hforward⟩ :=
    hclocks { reading := fun k => k } [.start, .read]
  have hcomputed : run {} h = .ok (going 20 5,
      [none, none, none, none, none, none, some 1, none, none]) := rfl
  have hmeasured : measured h 23 = 8 := by
    simp [measured, sinceReset, h, List.rtakeWhile, stretches, Call.starts, Call.stops, duration]
  rw [hcomputed] at hrun
  injection hrun with hrun
  injection hrun with hs hanswers
  subst hs hanswers
  obtain rfl : ({} : Stopwatch) = fresh := congrArg Prod.fst (Except.ok.inj hfresh)
  obtain ⟨clock', hat⟩ := hread (.fixed 23)
  have hat : (going 20 5).obey (.fixed 23) .read = .ok (_, some (measured h 23), clock') := hat
  rw [hmeasured] at hat
  refine ⟨_, _, hcomputed, rfl, hstarts rfl .enter rfl _, ⟨clock', hat⟩, hnonneg 23 (by decide),
    hgrows [(24, .leave), (30, .stop)] 23 31 (by decide) (by decide), ?_, hstops rfl .stop rfl _,
    h', hcalls', hrun', hforward fun _ _ hle => Int.ofNat_le.mpr hle⟩
  exact hkept [false, false, false, false, false, false, true, false, false] rfl (by decide)

end Chip8.Stopwatch
