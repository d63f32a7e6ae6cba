/-
Chip8.Proofs.Scheduler.Iteration — what one iteration can do, said once.

`IterateCase` lists the four ways an iteration can go: the host quits, no
tick is due, a step is taken, a step fails. What an iteration does is read
off from these cases.

`orders` is what an iteration does with the processor, as commands: nothing
if the host quits, else a wait, and a step if one is due. The processor
after an iteration is the processor that has carried out its orders
(`iterate_processor`), so a run of iterations is a run of commands
(`iterateAll_processor`). `faults` are the faults that the iterations of a
script end with; they are the faults of the steps among the orders
(`raises_ordersAll`).
-/
import Chip8.Proofs.Scheduler.Script

namespace Chip8

namespace Processor

/-- Whether a step among commands fails with a fault. -/
def Raises (p : Processor) (cs : List Command) (f : Fault) : Prop :=
  ∃ earlier keys, earlier ++ [.step keys] <+: cs ∧
    ((p.run earlier).step keys).result = .error f

theorem not_raises_nil (p : Processor) (f : Fault) : ¬p.Raises [] f := by
  rintro ⟨earlier, keys, hprefix, -⟩
  simp at hprefix

/-- One command more brings its own fault at most. -/
theorem raises_concat (p : Processor) (cs : List Command) (c : Command) (f : Fault) :
    p.Raises (cs ++ [c]) f ↔
      p.Raises cs f ∨ ∃ keys, c = .step keys ∧ ((p.run cs).step keys).result = .error f := by
  constructor
  · rintro ⟨earlier, keys, hprefix, hfails⟩
    rcases List.prefix_concat_iff.mp hprefix with hwhole | hbefore
    · obtain ⟨rfl, hlast⟩ := List.append_inj' hwhole rfl
      exact Or.inr ⟨keys, (List.singleton_inj.mp hlast).symm, hfails⟩
    · exact Or.inl ⟨earlier, keys, hbefore, hfails⟩
  · rintro (⟨earlier, keys, hprefix, hfails⟩ | ⟨keys, rfl, hfails⟩)
    · exact ⟨earlier, keys, hprefix.trans (List.prefix_append ..), hfails⟩
    · exact ⟨cs, keys, List.prefix_rfl, hfails⟩

/-- Time brings no fault. -/
theorem not_raises_wait (p : Processor) (delta : Int) (f : Fault) : ¬p.Raises [.wait delta] f := by
  rw [← List.nil_append [Command.wait delta], raises_concat]
  simp [not_raises_nil]

/-- After commands that bring no fault, a step brings its own. -/
theorem raises_concat_step {p : Processor} {cs : List Command} (calm : ∀ g, ¬p.Raises cs g)
    (keys : Keypad) (f : Fault) :
    p.Raises (cs ++ [.step keys]) f ↔ ((p.run cs).step keys).result = .error f := by
  rw [raises_concat, or_iff_right (calm f)]
  refine ⟨?_, fun hfails => ⟨keys, rfl, hfails⟩⟩
  rintro ⟨_, ⟨⟩, hfails⟩
  exact hfails

theorem raises_wait_step (p : Processor) (delta : Int) (keys : Keypad) (f : Fault) :
    p.Raises [.wait delta, .step keys] f ↔
      ((p.updateTimers delta).processor.step keys).result = .error f :=
  raises_concat_step (p.not_raises_wait delta) keys f

theorem raises_append (p : Processor) (cs ds : List Command) (f : Fault) :
    p.Raises (cs ++ ds) f ↔ p.Raises cs f ∨ (p.run cs).Raises ds f := by
  induction ds using List.reverseRecOn with
  | nil => simp [not_raises_nil]
  | append_singleton ds d ih =>
    rw [← List.append_assoc, raises_concat, raises_concat, ih, run_append, or_assoc]

end Processor

namespace Scheduler

open Processor (Command)

/-! ## The four ways -/

/-- The time since the last iteration has passed for the timers. -/
def waited (s : Scheduler) (now : Int) : Processor :=
  (s.processor.updateTimers (s.elapsed now)).processor

/-- What the timers add to the journal meanwhile. -/
def waitJournal (s : Scheduler) (now : Int) : Journal :=
  let updated := s.processor.updateTimers (s.elapsed now)
  updated.journal ++ updated.events.map toneFor

/-- Whether a whole tick period will have accumulated. -/
def Due (s : Scheduler) (now : Int) : Prop := s.tickPeriod ≤ s.tickAccumulated + s.elapsed now

instance (s : Scheduler) (now : Int) : Decidable (s.Due now) :=
  inferInstanceAs (Decidable (_ ≤ _))

/-- What an iteration does with the processor. -/
def orders (s : Scheduler) (now : Int) (poll : Poll) : List Command :=
  if poll.goOn then
    .wait (s.elapsed now) :: if s.Due now then [.step poll.keys] else []
  else []

/-- The scheduler after a poll and the time before it. -/
def advanced (s : Scheduler) (now : Int) (poll : Poll) : Scheduler :=
  { s with
    processor := s.waited now
    running := s.running && !poll.stop
    tickAccumulated := s.tickAccumulated + s.elapsed now
    lastTime := some now }

/-- The scheduler after a step that was paid for with a tick period. -/
def stepped (s : Scheduler) (keys : Keypad) : Scheduler :=
  { s with
    processor := (s.processor.step keys).processor
    tickAccumulated := s.tickAccumulated - s.tickPeriod }

/-- The ways an iteration can go. -/
inductive IterateCase (s : Scheduler) (now : Int) (poll : Poll) : Prop
  /-- The host quits. -/
  | quit (goOn : poll.goOn = false) (orders : s.orders now poll = [])
      (iterate : s.iterate now poll =
        ⟨{ s with running := false, lastTime := some now }, none,
          [.poll, .log (Log.info "Quit requested")]⟩)
  /-- Time passes and no tick is due. -/
  | idle (goOn : poll.goOn = true) (due : ¬s.Due now)
      (orders : s.orders now poll = [.wait (s.elapsed now)])
      (iterate : s.iterate now poll =
        ⟨s.advanced now poll, none, .poll :: s.waitJournal now⟩)
  /-- Time passes and a step is taken. -/
  | done (goOn : poll.goOn = true) (due : s.Due now)
      (orders : s.orders now poll = [.wait (s.elapsed now), .step poll.keys])
      (event : Option TimerEvent)
      (result : ((s.waited now).step poll.keys).result = .ok event)
      (iterate : s.iterate now poll =
        ⟨(s.advanced now poll).stepped poll.keys, none,
          .poll :: (s.waitJournal now ++
            (((s.waited now).step poll.keys).journal ++ (event.map toneFor).toList))⟩)
  /-- Time passes and a step fails. -/
  | failed (goOn : poll.goOn = true) (due : s.Due now)
      (orders : s.orders now poll = [.wait (s.elapsed now), .step poll.keys]) (f : Fault)
      (result : ((s.waited now).step poll.keys).result = .error f)
      (iterate : s.iterate now poll =
        ⟨(s.advanced now poll).stepped poll.keys, some f,
          .poll :: (s.waitJournal now ++ ((s.waited now).step poll.keys).journal)⟩)

theorem polled_eq (s : Scheduler) (now : Int) (poll : Poll) :
    s.polled now poll =
      { s with lastTime := some now, running := s.running && !poll.stop } := by
  unfold polled stop
  cases poll.stop <;> simp

theorem advance_polled (s : Scheduler) (now : Int) (poll : Poll) :
    (s.polled now poll).advance (s.elapsed now) = (s.advanced now poll, s.waitJournal now) := by
  rw [polled_eq]
  rfl

theorem tick_of_early {s : Scheduler} (h : s.tickAccumulated < s.tickPeriod) (keys : Keypad) :
    s.tick keys = ⟨s, none, []⟩ := by
  unfold tick
  rw [if_neg (by omega)]

theorem tick_of_ok {s : Scheduler} {keys : Keypad} {event : Option TimerEvent}
    (h : s.tickPeriod ≤ s.tickAccumulated) (hstep : (s.processor.step keys).result = .ok event) :
    s.tick keys =
      ⟨s.stepped keys, none, (s.processor.step keys).journal ++ (event.map toneFor).toList⟩ := by
  unfold tick
  rw [if_pos h]
  simp only [hstep]
  rfl

theorem tick_of_error {s : Scheduler} {keys : Keypad} {f : Fault}
    (h : s.tickPeriod ≤ s.tickAccumulated) (hstep : (s.processor.step keys).result = .error f) :
    s.tick keys = ⟨s.stepped keys, some f, (s.processor.step keys).journal⟩ := by
  unfold tick
  rw [if_pos h]
  simp only [hstep]
  rfl

theorem iterateCase (s : Scheduler) (now : Int) (poll : Poll) : s.IterateCase now poll := by
  cases hgo : poll.goOn with
  | false =>
    refine .quit hgo (by simp [orders, hgo]) ((iterate_of_quit hgo s now).trans ?_)
    rw [polled_eq]
    rfl
  | true =>
    have hiterate : s.iterate now poll =
        { (s.advanced now poll).tick poll.keys with
          journal :=
            .poll :: (s.waitJournal now ++ ((s.advanced now poll).tick poll.keys).journal) } := by
      rw [iterate_of_goOn hgo, advance_polled]
    by_cases hdue : s.Due now
    · have horders : s.orders now poll = [.wait (s.elapsed now), .step poll.keys] := by
        simp [orders, hgo, hdue]
      cases hstep : ((s.waited now).step poll.keys).result with
      | ok event =>
        have htick := tick_of_ok (s := s.advanced now poll) hdue hstep
        rw [htick] at hiterate
        exact .done hgo hdue horders event hstep hiterate
      | error f =>
        have htick := tick_of_error (s := s.advanced now poll) hdue hstep
        rw [htick] at hiterate
        exact .failed hgo hdue horders f hstep hiterate
    · have htick := tick_of_early (s := s.advanced now poll) (not_le.mp hdue) poll.keys
      rw [htick, List.append_nil] at hiterate
      exact .idle hgo hdue (by simp [orders, hgo, hdue]) hiterate

/-! ## One iteration -/

theorem iterate_lastTime (s : Scheduler) (now : Int) (poll : Poll) :
    (s.iterate now poll).scheduler.lastTime = some now := by
  cases s.iterateCase now poll with
  | quit goOn orders iterate => rw [iterate]
  | idle goOn due orders iterate => rw [iterate]; rfl
  | done goOn due orders event result iterate => rw [iterate]; rfl
  | failed goOn due orders f result iterate => rw [iterate]; rfl

theorem iterate_tickPeriod (s : Scheduler) (now : Int) (poll : Poll) :
    (s.iterate now poll).scheduler.tickPeriod = s.tickPeriod := by
  cases s.iterateCase now poll with
  | quit goOn orders iterate => rw [iterate]
  | idle goOn due orders iterate => rw [iterate]; rfl
  | done goOn due orders event result iterate => rw [iterate]; rfl
  | failed goOn due orders f result iterate => rw [iterate]; rfl

/-- A scheduler runs on as long as nobody quits or stops it. -/
theorem iterate_running (s : Scheduler) (now : Int) (poll : Poll) :
    (s.iterate now poll).scheduler.running = (s.running && poll.goOn && !poll.stop) := by
  cases s.iterateCase now poll with
  | quit goOn orders iterate => rw [iterate, goOn]; simp
  | idle goOn due orders iterate => rw [iterate, goOn, Bool.and_true]; rfl
  | done goOn due orders event result iterate => rw [iterate, goOn, Bool.and_true]; rfl
  | failed goOn due orders f result iterate => rw [iterate, goOn, Bool.and_true]; rfl

/-- No iteration takes more than one step. -/
theorem iterate_steps (s : Scheduler) (now : Int) (poll : Poll) :
    s.processor.steps ≤ (s.iterate now poll).scheduler.processor.steps ∧
      (s.iterate now poll).scheduler.processor.steps ≤ s.processor.steps + 1 := by
  have hstep := (s.waited now).step_steps poll.keys
  cases s.iterateCase now poll with
  | quit goOn orders iterate => rw [iterate]; exact ⟨le_rfl, Nat.le_succ _⟩
  | idle goOn due orders iterate => rw [iterate]; exact ⟨le_rfl, Nat.le_succ _⟩
  | done goOn due orders event result iterate =>
    rw [result] at hstep
    rw [iterate]
    exact ⟨hstep ▸ Nat.le_succ _, hstep.le⟩
  | failed goOn due orders f result iterate =>
    rw [result] at hstep
    rw [iterate]
    exact ⟨hstep.ge, hstep ▸ Nat.le_succ _⟩

theorem iterateAll_singleton (s : Scheduler) (now : Int) (poll : Poll) :
    s.iterateAll [(now, poll)] = ((s.iterate now poll).scheduler, (s.iterate now poll).journal) := by
  rw [iterateAll, iterateAll, List.append_nil]

/-- One script after the other. -/
theorem iterateAll_append (s : Scheduler) (script rest : List (Int × Poll)) :
    s.iterateAll (script ++ rest) =
      (((s.iterateAll script).1.iterateAll rest).1,
        (s.iterateAll script).2 ++ ((s.iterateAll script).1.iterateAll rest).2) := by
  induction script generalizing s with
  | nil => rfl
  | cons one script ih =>
    obtain ⟨now, poll⟩ := one
    rw [List.cons_append, iterateAll, ih]
    simp only [iterateAll, List.append_assoc]

/-! ## Orders -/

/-- What the iterations of a script do with the processor. -/
def ordersAll (s : Scheduler) : List (Int × Poll) → List Command
  | [] => []
  | (now, poll) :: script =>
      s.orders now poll ++ (s.iterate now poll).scheduler.ordersAll script

/-- The faults that the iterations of a script end with. -/
def faults (s : Scheduler) : List (Int × Poll) → List Fault
  | [] => []
  | (now, poll) :: script =>
      (s.iterate now poll).fault.toList ++ (s.iterate now poll).scheduler.faults script

theorem ordersAll_append (s : Scheduler) (script rest : List (Int × Poll)) :
    s.ordersAll (script ++ rest) =
      s.ordersAll script ++ (s.iterateAll script).1.ordersAll rest := by
  induction script generalizing s with
  | nil => rfl
  | cons one script ih =>
    obtain ⟨now, poll⟩ := one
    rw [List.cons_append, ordersAll, ordersAll, ih, List.append_assoc]
    rfl

theorem faults_append (s : Scheduler) (script rest : List (Int × Poll)) :
    s.faults (script ++ rest) = s.faults script ++ (s.iterateAll script).1.faults rest := by
  induction script generalizing s with
  | nil => rfl
  | cons one script ih =>
    obtain ⟨now, poll⟩ := one
    rw [List.cons_append, faults, faults, ih, List.append_assoc]
    rfl

theorem faults_singleton (s : Scheduler) (now : Int) (poll : Poll) :
    s.faults [(now, poll)] = (s.iterate now poll).fault.toList := by
  rw [faults, faults, List.append_nil]

/-- An iteration carries out its orders. -/
theorem iterate_processor (s : Scheduler) (now : Int) (poll : Poll) :
    (s.iterate now poll).scheduler.processor = s.processor.run (s.orders now poll) := by
  cases s.iterateCase now poll with
  | quit goOn orders iterate =>
    rw [iterate, orders]
    rfl
  | idle goOn due orders iterate =>
    rw [iterate, orders]
    rfl
  | done goOn due orders event result iterate =>
    rw [iterate, orders]
    rfl
  | failed goOn due orders f result iterate =>
    rw [iterate, orders]
    rfl

theorem iterateAll_processor (s : Scheduler) (script : List (Int × Poll)) :
    (s.iterateAll script).1.processor = s.processor.run (s.ordersAll script) := by
  induction script generalizing s with
  | nil => rfl
  | cons one script ih =>
    obtain ⟨now, poll⟩ := one
    rw [ordersAll, Processor.run_append, ← iterate_processor]
    exact ih _

theorem iterate_regular {s : Scheduler} (h : s.processor.Regular) (now : Int) (poll : Poll) :
    (s.iterate now poll).scheduler.processor.Regular := by
  rw [iterate_processor]
  exact h.run _

theorem iterateAll_regular {s : Scheduler} (h : s.processor.Regular)
    (script : List (Int × Poll)) : (s.iterateAll script).1.processor.Regular := by
  rw [iterateAll_processor]
  exact h.run _

/-- The fault that an iteration ends with is the fault of its step. -/
theorem raises_orders (s : Scheduler) (now : Int) (poll : Poll) (f : Fault) :
    s.processor.Raises (s.orders now poll) f ↔ (s.iterate now poll).fault = some f := by
  cases s.iterateCase now poll with
  | quit goOn orders iterate =>
    rw [iterate, orders]
    simp [Processor.not_raises_nil]
  | idle goOn due orders iterate =>
    rw [iterate, orders]
    simp [Processor.not_raises_wait]
  | done goOn due orders event result iterate =>
    have hresult : ((s.processor.updateTimers (s.elapsed now)).processor.step poll.keys).result =
        .ok event := result
    rw [iterate, orders, Processor.raises_wait_step, hresult]
    simp
  | failed goOn due orders g result iterate =>
    have hresult : ((s.processor.updateTimers (s.elapsed now)).processor.step poll.keys).result =
        .error g := result
    rw [iterate, orders, Processor.raises_wait_step, hresult]
    simp

/-- The faults that iterations end with are those of the steps among their
orders. -/
theorem raises_ordersAll (s : Scheduler) (script : List (Int × Poll)) (f : Fault) :
    s.processor.Raises (s.ordersAll script) f ↔ f ∈ s.faults script := by
  induction script generalizing s with
  | nil => simp [ordersAll, faults, Processor.not_raises_nil]
  | cons one script ih =>
    obtain ⟨now, poll⟩ := one
    rw [ordersAll, faults, Processor.raises_append, raises_orders, ← iterate_processor, ih,
      List.mem_append, Option.mem_toList]

theorem not_raises_ordersAll {s : Scheduler} {script : List (Int × Poll)}
    (h : s.faults script = []) (f : Fault) : ¬s.processor.Raises (s.ordersAll script) f := by
  rw [raises_ordersAll, h]
  exact List.not_mem_nil

/-- Every step that was ordered was counted or failed. -/
theorem countP_orders (s : Scheduler) (now : Int) (poll : Poll) :
    s.processor.steps + (s.orders now poll).countP Command.isStep =
      (s.iterate now poll).scheduler.processor.steps +
        (s.iterate now poll).fault.toList.length := by
  have hwaited : (s.waited now).steps = s.processor.steps := rfl
  have hstep := (s.waited now).step_steps poll.keys
  cases s.iterateCase now poll with
  | quit goOn orders iterate =>
    rw [iterate, orders]
    rfl
  | idle goOn due orders iterate =>
    rw [iterate, orders]
    rfl
  | done goOn due orders event result iterate =>
    rw [result, hwaited] at hstep
    rw [iterate, orders]
    exact hstep.symm
  | failed goOn due orders f result iterate =>
    rw [result, hwaited] at hstep
    rw [iterate, orders]
    exact congrArg (· + 1) hstep.symm

theorem countP_ordersAll (s : Scheduler) (script : List (Int × Poll)) :
    s.processor.steps + (s.ordersAll script).countP Command.isStep =
      (s.iterateAll script).1.processor.steps + (s.faults script).length := by
  induction script generalizing s with
  | nil => rfl
  | cons one script ih =>
    obtain ⟨now, poll⟩ := one
    have hone := s.countP_orders now poll
    have hrest := ih (s.iterate now poll).scheduler
    rw [ordersAll, faults, List.countP_append, List.length_append]
    show _ = ((s.iterate now poll).scheduler.iterateAll script).1.processor.steps + _
    omega

end Scheduler

end Chip8
