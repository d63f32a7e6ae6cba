/-
Chip8.Proofs.Scheduler.Order — the calls of an iteration come in a fixed
order.

The calls of a journal are its effects on others: polls, readings of the
keypad, pictures handed out and switches of the tone, but no log records.
`Round` says which calls one iteration makes and in which order, together
with what it does to the processor and the accumulated time; the calls of a
script are those of its rounds, one after the other (`Rounds`).

A step makes few calls (`step_calls`), and so an iteration is a round
(`iterate_round`); `iterateAll_rounds` and `run_rounds` carry this to
scripts and runs. When a control answers the polls, the step of an iteration
is taken with the keypad after all events of that poll and on the machine
whose counters have gone down for that iteration (`iterate_view`).
-/
import Chip8.Keypad.Control
import Chip8.Proofs.Processor.Audience
import Chip8.Proofs.Scheduler.Course

namespace Chip8

/-- Whether an effect is a call, that is no log record. -/
def Entry.isCall : Entry → Bool
  | .log _ => false
  | .poll | .keypad | .frame .. | .toneOn | .toneOff => true

namespace Journal

/-- The calls in a journal, in order. -/
def calls (j : Journal) : List Entry := j.filter Entry.isCall

@[simp] theorem calls_append (j k : Journal) : calls (j ++ k) = calls j ++ calls k :=
  List.filter_append ..

/-- Log records are no calls. -/
theorem calls_of_logs {j : Journal} (h : ∀ e ∈ j, ∃ r, e = .log r) : calls j = [] := by
  refine List.filter_eq_nil_iff.mpr fun e he => ?_
  obtain ⟨r, rfl⟩ := h e he
  exact Bool.false_ne_true

end Journal

namespace Processor

variable {p : Processor}

/-! ## The calls of a step -/

/-- The calls that a step may make: none, one reading of the keypad, or one
round of the listeners with the new picture. -/
inductive StepCalls (p : Processor) (keys : Keypad) : List Entry → Prop
  | none : StepCalls p keys []
  | keypad : StepCalls p keys [.keypad]
  | listeners : StepCalls p keys
      ((Listener.reached p.listeners).map (.frame · (p.step keys).processor.machine.frame))

theorem announce_calls (p : Processor) :
    p.announce.journal.calls =
      (Listener.reached p.listeners).map (.frame · p.machine.frame) := by
  rw [announce_journal]
  refine List.filter_eq_self.mpr fun e he => ?_
  obtain ⟨name, -, rfl⟩ := List.mem_map.mp he
  rfl

theorem record_calls (p : Processor) (w : Word) : (p.record w).2.calls = [] :=
  Journal.calls_of_logs fun _ he => log_of_mem_record he

theorem step_calls (p : Processor) (keys : Keypad) :
    p.StepCalls keys (p.step keys).journal.calls := by
  -- an instruction makes a picture or reads the keypad at most
  have hperform : ∀ i, (∀ m, p.traced.machine.painted? i = some m →
      (p.step keys).processor.machine.frame = m.frame) →
      p.StepCalls keys (p.traced.perform keys i).journal.calls := by
    intro i hframe
    cases hpaint : p.traced.machine.painted? i with
    | some m =>
      have hlisteners : (p.traced.withMachine m).listeners = p.listeners := traced_listeners p
      rw [perform_of_painted hpaint, announce_calls, hlisteners]
      exact hframe m hpaint ▸ .listeners
    | none =>
      rcases perform_journal hpaint keys with hj | hj
      · rw [hj]
        exact .none
      · rw [hj]
        exact .keypad
  cases p.stepCase keys with
  | unfetched f fetched step => rw [step]; exact .none
  | undecoded w fetched decoded step =>
    have hcalls : (p.step keys).journal.calls = [] := by
      rw [step, Journal.calls_append, record_calls]
      rfl
    exact hcalls ▸ .none
  | failed w i f fetched decoded flow step =>
    have hcalls : (p.step keys).journal.calls = (p.traced.perform keys i).journal.calls := by
      rw [step, Journal.calls_append, record_calls, List.nil_append]
    rw [hcalls]
    refine hperform i fun m hm => ?_
    rw [step, perform_of_painted hm]
    rfl
  | done w i flow fetched decoded flowed step =>
    have hcalls : (p.step keys).journal.calls = (p.traced.perform keys i).journal.calls := by
      rw [step, Journal.calls_append, record_calls, List.nil_append]
    rw [hcalls]
    refine hperform i fun m hm => ?_
    rw [step, finish_machine, perform_of_painted hm]
    rfl

end Processor

namespace Control

/-! ## A control that answers the polls -/

/-- The control after batches of events, one for each poll. -/
def drained (c : Control) (batches : List (Int × List Event)) : Control :=
  batches.foldl (fun c batch => (c.process batch.2).1) c

/-- The polls with which a control answers batches of events, each at its
time. -/
def script (c : Control) : List (Int × List Event) → List (Int × Poll)
  | [] => []
  | (now, events) :: rest => (now, (c.poll events).2) :: (c.process events).1.script rest

theorem script_concat (c : Control) (before : List (Int × List Event)) (now : Int)
    (events : List Event) :
    c.script (before ++ [(now, events)]) =
      c.script before ++ [(now, ((c.drained before).poll events).2)] := by
  induction before generalizing c with
  | nil => rfl
  | cons batch before ih => exact congrArg (_ :: ·) (ih _)

/-- A control answers with whole keypads. -/
theorem keys_of_mem_script {c : Control} {batches : List (Int × List Event)} :
    ∀ one ∈ c.script batches, one.2.keys.length = 16 := by
  induction batches generalizing c with
  | nil => exact List.forall_mem_nil _
  | cons batch batches ih => exact List.forall_mem_cons.mpr ⟨Vector.length_toList, ih⟩

/-- The polls that are kept in an array are those of the script. -/
theorem polls_eq_script (c : Control) (batches : List (Int × List Event)) :
    c.polls (batches.map Prod.snd) = (c.script batches).map Prod.snd := by
  -- whatever polls there are before
  have hfrom : ∀ (c : Control) (before : Array Poll),
      ((batches.map Prod.snd).foldl answer (c, before)).2.toList =
        before.toList ++ (c.script batches).map Prod.snd := by
    induction batches with
    | nil => exact fun _ before => (List.append_nil before.toList).symm
    | cons batch batches ih =>
      intro c before
      rw [List.map_cons, List.foldl_cons, answer, ih, Array.toList_push, List.append_assoc]
      rfl
  exact hfrom c #[]

end Control

namespace Scheduler

variable {s : Scheduler} {now : Int} {poll : Poll}

/-! ## Rounds -/

/-- What the timers of an iteration do to the tone. -/
def timerCalls (s : Scheduler) (now : Int) : List Entry :=
  (s.processor.updateTimers (s.elapsed now)).events.map toneFor

/-- What a step does to the tone, by its result. -/
def eventCalls : Except Fault (Option TimerEvent) → List Entry
  | .ok event => (event.map toneFor).toList
  | .error _ => []

/-- The calls of one iteration in their order, with what it does to the
processor and the accumulated time. -/
inductive Round (s : Scheduler) (now : Int) (poll : Poll) : List Entry → Prop
  /-- The host quits: no call follows the poll, and nothing moves. -/
  | quit (goOn : poll.goOn = false)
      (processor : (s.iterate now poll).scheduler.processor = s.processor)
      (accumulated : (s.iterate now poll).scheduler.tickAccumulated = s.tickAccumulated) :
      Round s now poll [.poll]
  /-- Time passes, and may end the tone; no tick period is full. -/
  | idle (goOn : poll.goOn = true) (early : s.tickAccumulated + s.elapsed now < s.tickPeriod)
      (timers : s.timerCalls now ∈ [[], [.toneOff]])
      (processor : (s.iterate now poll).scheduler.processor = s.waited now)
      (accumulated : (s.iterate now poll).scheduler.tickAccumulated =
        s.tickAccumulated + s.elapsed now) :
      Round s now poll (.poll :: s.timerCalls now)
  /-- Time passes, and may end the tone; a tick period is full, and one step
  is taken, which may switch the tone. -/
  | ticked (goOn : poll.goOn = true) (due : s.tickPeriod ≤ s.tickAccumulated + s.elapsed now)
      (timers : s.timerCalls now ∈ [[], [.toneOff]]) {calls : List Entry}
      (step : (s.waited now).StepCalls poll.keys calls)
      (event : eventCalls ((s.waited now).step poll.keys).result ∈ [[], [.toneOn], [.toneOff]])
      (processor : (s.iterate now poll).scheduler.processor =
        ((s.waited now).step poll.keys).processor)
      (accumulated : (s.iterate now poll).scheduler.tickAccumulated =
        s.tickAccumulated + s.elapsed now - s.tickPeriod) :
      Round s now poll (.poll :: (s.timerCalls now ++
        (calls ++ eventCalls ((s.waited now).step poll.keys).result)))

/-- The calls of the iterations of a script: round after round. -/
inductive Rounds : Scheduler → List (Int × Poll) → List Entry → Prop
  | nil (s : Scheduler) : Rounds s [] []
  | cons {s : Scheduler} {now : Int} {poll : Poll} {script : List (Int × Poll)}
      {calls more : List Entry} (round : s.Round now poll calls)
      (rest : Rounds (s.iterate now poll).scheduler script more) :
      Rounds s ((now, poll) :: script) (calls ++ more)

/-- Time switches the tone off at most. -/
theorem timerCalls_mem (h : s.processor.Regular) (now : Int) :
    s.timerCalls now ∈ [[], [.toneOff]] := by
  unfold timerCalls
  rw [Processor.updateTimers_events h]
  split <;> simp [toneFor]

theorem eventCalls_mem (result : Except Fault (Option TimerEvent)) :
    eventCalls result ∈ [[], [.toneOn], [.toneOff]] := by
  rcases result with f | _ | _ | _ <;> simp [eventCalls, toneFor]

theorem eventCalls_calls (result : Except Fault (Option TimerEvent)) :
    Journal.calls (eventCalls result) = eventCalls result := by
  rcases result with f | _ | _ | _ <;> rfl

theorem waitJournal_calls (s : Scheduler) (now : Int) :
    (s.waitJournal now).calls = s.timerCalls now := by
  have hlogs : (s.processor.updateTimers (s.elapsed now)).journal.calls = [] :=
    Journal.calls_of_logs fun _ he => Processor.log_of_mem_updateTimers he
  unfold waitJournal
  simp only
  rw [Journal.calls_append, hlogs, List.nil_append]
  refine List.filter_eq_self.mpr fun e he => ?_
  obtain ⟨event, -, rfl⟩ := List.mem_map.mp he
  cases event <;> rfl

/-- **An iteration is a round.** -/
theorem iterate_round (h : s.processor.Regular) (now : Int) (poll : Poll) :
    s.Round now poll (s.iterate now poll).journal.calls := by
  have htimers := timerCalls_mem h now
  have hstep := (s.waited now).step_calls poll.keys
  cases s.iterateCase now poll with
  | quit goOn orders iterate =>
    have hcalls : (s.iterate now poll).journal.calls = [.poll] := by rw [iterate]; rfl
    rw [hcalls]
    exact .quit goOn (by rw [iterate]) (by rw [iterate])
  | idle goOn due orders iterate =>
    have hcalls : (s.iterate now poll).journal.calls = .poll :: s.timerCalls now := by
      rw [iterate, ← waitJournal_calls]
      rfl
    rw [hcalls]
    exact .idle goOn (not_le.mp due) htimers (by rw [iterate]; rfl) (by rw [iterate]; rfl)
  | done goOn due orders event result iterate =>
    have hevent : eventCalls ((s.waited now).step poll.keys).result =
        (event.map toneFor).toList := by
      rw [result]
      rfl
    have hcalls : (s.iterate now poll).journal.calls = .poll :: (s.timerCalls now ++
        (((s.waited now).step poll.keys).journal.calls ++
          eventCalls ((s.waited now).step poll.keys).result)) := by
      rw [iterate, ← waitJournal_calls, ← eventCalls_calls, hevent, ← Journal.calls_append,
        ← Journal.calls_append]
      rfl
    rw [hcalls]
    exact .ticked goOn due htimers hstep (eventCalls_mem _) (by rw [iterate]; rfl)
      (by rw [iterate]; rfl)
  | failed goOn due orders f result iterate =>
    have hevent : eventCalls ((s.waited now).step poll.keys).result = [] := by rw [result]; rfl
    have hcalls : (s.iterate now poll).journal.calls = .poll :: (s.timerCalls now ++
        (((s.waited now).step poll.keys).journal.calls ++
          eventCalls ((s.waited now).step poll.keys).result)) := by
      rw [iterate, ← waitJournal_calls, hevent, List.append_nil, ← Journal.calls_append]
      rfl
    rw [hcalls]
    exact .ticked goOn due htimers hstep (eventCalls_mem _) (by rw [iterate]; rfl)
      (by rw [iterate]; rfl)

/-- The iterations of a script are rounds. -/
theorem iterateAll_rounds (h : s.processor.Regular) (script : List (Int × Poll)) :
    s.Rounds script (s.iterateAll script).2.calls := by
  induction script generalizing s with
  | nil => exact .nil s
  | cons one script ih =>
    obtain ⟨now, poll⟩ := one
    show s.Rounds _ (Journal.calls (_ ++ _))
    rw [Journal.calls_append]
    exact .cons (iterate_round h now poll) (ih (iterate_regular h now poll))

/-- A run consists of rounds, and of switching off the tone at the end unless
a fault of the host escapes. -/
theorem run_rounds (h : s.processor.Regular) (script : List Poll) (clock : Clock) :
    ∃ iterations calls ending, iterations <+: agenda script clock.read.2 ∧
      (s.begin clock.read.1).Rounds iterations calls ∧ ending ∈ [[], [.toneOff]] ∧
      (s.run script clock).journal.calls = calls ++ ending := by
  have hregular : (s.begin clock.read.1).processor.Regular := h
  have hrun : s.run script clock =
      loop script clock.read.2 (s.begin clock.read.1) #[.log s.beginRecord] := rfl
  have hbegin : ∀ (j : Journal) (ending : List Entry),
      Journal.calls ((#[Entry.log s.beginRecord] ++ j).toList ++ ending) =
        j.calls ++ Journal.calls ending := by
    intro j ending
    rw [Array.toList_appendList, Journal.calls_append, Journal.calls_append]
    rfl
  rw [hrun]
  cases loopCase (s := s.begin clock.read.1) rfl script clock.read.2 #[.log s.beginRecord] with
  | ended before now poll planned undisturbed final faultless stopped loop =>
    refine ⟨_, _, [.toneOff], planned, iterateAll_rounds hregular _, by simp, ?_⟩
    rw [loop]
    exact hbegin _ _
  | halted before now poll f planned undisturbed faultless fault loop =>
    rw [loop, abort]
    split
    · exact ⟨_, _, [.toneOff], planned, iterateAll_rounds hregular _, by simp, hbegin _ _⟩
    · refine ⟨_, _, [], planned, iterateAll_rounds hregular _, by simp, ?_⟩
      have hjournal := hbegin (iterateAll (s.begin clock.read.1) (before ++ [(now, poll)])).2 []
      rwa [List.append_nil] at hjournal

/-! ## What a step sees -/

/-- What the step of an iteration sees when a control answers its poll. -/
structure View (s : Scheduler) (now : Int) (c : Control) (events : List Event) : Prop where
  /-- The host quits if an event asks for it. -/
  goOn : (c.poll events).2.goOn = !events.any Control.asksToQuit
  /-- The counters have gone down for the time since the last iteration. -/
  machine : (s.waited now).machine =
    { s.processor.machine with registers :=
      { s.processor.registers with
        delay := max 0 (s.processor.registers.delay -
          s.processor.delayTimer.rounds (s.elapsed now))
        sound := max 0 (s.processor.registers.sound -
          s.processor.soundTimer.rounds (s.elapsed now)) } }
  /-- The step has this machine, and the keypad after all the events. -/
  step : events.any Control.asksToQuit = false → s.tickPeriod ≤ s.tickAccumulated + s.elapsed now →
    (s.iterate now (c.poll events).2).scheduler.processor =
      ((s.waited now).step (c.update events).snapshot).processor

theorem iterate_view (h : s.processor.Regular) (now : Int) (c : Control) (events : List Event) :
    s.View now c events := by
  have hpoll : (c.poll events).2 =
      ⟨(c.process events).2, false, (c.process events).1.snapshot⟩ := rfl
  refine ⟨?_, Processor.updateTimers_machine h (s.elapsed now), ?_⟩
  · rw [hpoll]
    unfold Control.process
    split <;> simp_all
  · intro hquit hdue
    have hprocess : c.process events = (c.update events, true) := by
      unfold Control.process
      rw [hquit]
      rfl
    rw [hpoll, hprocess]
    cases s.iterateCase now ⟨true, false, (c.update events).snapshot⟩ with
    | quit goOn orders iterate => cases goOn
    | idle goOn due orders iterate => exact absurd hdue due
    | done goOn due orders event result iterate => rw [iterate]; rfl
    | failed goOn due orders f result iterate => rw [iterate]; rfl

/-! ## The statement -/

/-- **The order of calls.** A scheduler with a processor at any moment of any
run. Whatever script it is iterated with, its calls are those of one round an
iteration; so are the calls of a run, but for the tone that is switched off at
its end. When a control answers the polls, an iteration that takes a step takes
it with the keypad after all events of its poll, on the machine whose counters
have gone down for this iteration. -/
theorem calls_in_order {p : Processor} (fresh : p.Fresh) (cs : List Processor.Command)
    {s : Scheduler} (moment : s.processor = p.run cs) :
    (∀ script, s.Rounds script (s.iterateAll script).2.calls) ∧
    (∀ script clock, ∃ iterations calls ending, iterations <+: agenda script clock.read.2 ∧
      (s.begin clock.read.1).Rounds iterations calls ∧ ending ∈ [[], [.toneOff]] ∧
      (s.run script clock).journal.calls = calls ++ ending) ∧
    (∀ (c : Control) (before : List (Int × List Event)) (now : Int) (events : List Event),
      c.script (before ++ [(now, events)]) =
        c.script before ++ [(now, ((c.drained before).poll events).2)] ∧
      (s.iterateAll (c.script before)).1.View now (c.drained before) events) := by
  have hregular : s.processor.Regular := moment ▸ fresh.regular.run cs
  refine ⟨iterateAll_rounds hregular, run_rounds hregular, fun c before now events => ?_⟩
  exact ⟨c.script_concat before now events,
    iterate_view (iterateAll_regular hregular _) now (c.drained before) events⟩

/-- A tone is begun; in the last iteration it ends, and the step after that
sees the key that went down in the same iteration. -/
theorem calls_in_order_stop_and_key :
    ∃ (p : Processor) (s : Scheduler) (c : Control), p.Fresh ∧ s.processor = p.run [] ∧
      let script := c.script [(0, []), (1, []), (2, []), (7, [.down 97])]
      s.Rounds script [.poll, .poll, .poll, .toneOn, .poll, .toneOff, .keypad] ∧
      (s.iterateAll script).1.processor.registers.pc = 0x208 := by
  have fresh : ({ Processor.boot [0x60, 0x01, 0xF0, 0x18, 0xE0, 0x9E] (RandomSource.cycle []) 5
      (by decide) with listeners := [.named "screen"], tracing := true } : Processor).Fresh :=
    .intro (Processor.make_eq_ok_iff.mpr ⟨by decide, by decide, rfl⟩) [.named "screen"] true
  obtain ⟨hrounds, -, -⟩ := calls_in_order fresh [] (s := ⟨_, 1, false, 0, none, by decide⟩) rfl
  refine ⟨_, ⟨_, 1, false, 0, none, by decide⟩, { mapping := [(97, 1)] }, fresh, rfl, ?_,
    by decide +kernel⟩
  convert hrounds _ using 1
  decide +kernel

end Scheduler

end Chip8
