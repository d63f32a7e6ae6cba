/-
Chip8.Proofs.Scheduler.Outcome — how a run ends.

With a host that keeps its side of the contract, an iteration can fail only
on the program's own fault (`fails_of_fault`), and such a fault is one that
a run catches. So a run has two ends, and `run_outcome` tells them apart by
the steps that were executed: a run reports a failure exactly if one of
them failed, and then that step was the last thing the processor did and
left no mark on it; else it reports the number of steps. Either way the
scheduler is at rest, and the tone was switched off after everything else.
-/
import Chip8.Proofs.Processor.Safety
import Chip8.Proofs.Scheduler.Course
import Chip8.Proofs.Sound.Tone

namespace Chip8

namespace Processor

/-- If nothing fails before it, a last step that fails is the only one. -/
theorem eq_of_fails_last {p : Processor} {cs earlier : List Command} {keys other : Keypad}
    {g : Fault} (calm : ∀ g, ¬p.Raises cs g) (h : earlier ++ [.step other] <+: cs ++ [.step keys])
    (fails : ((p.run earlier).step other).result = .error g) :
    cs ++ [.step keys] = earlier ++ [.step other] := by
  rcases List.prefix_concat_iff.mp h with hwhole | hbefore
  · exact hwhole.symm
  · exact absurd ⟨earlier, other, hbefore, fails⟩ (calm g)

end Processor

namespace Scheduler

open Processor (Command)

/-! ## Iterations that fail -/

/-- An iteration fails in its step, on a fault of the program's own, and the
step leaves no mark but its line in the trace. -/
structure Fails (s : Scheduler) (now : Int) (poll : Poll) (f : Fault) : Prop where
  orders : s.orders now poll = [.wait (s.elapsed now), .step poll.keys]
  result : ((s.waited now).step poll.keys).result = .error f
  own : f.isProgram = true
  processor : (s.iterate now poll).scheduler.processor = (s.waited now).traced

/-- With a host that keeps its side of the contract there is no other way
to fail. -/
theorem fails_of_fault {s : Scheduler} {now : Int} {poll : Poll} {f : Fault}
    (regular : s.processor.Regular) (alive : Listener.dead ∉ s.processor.listeners)
    (keypad : poll.keys.length = 16) (h : (s.iterate now poll).fault = some f) :
    s.Fails now poll f := by
  cases s.iterateCase now poll with
  | quit goOn orders iterate => rw [iterate] at h; cases h
  | idle goOn due orders iterate => rw [iterate] at h; cases h
  | done goOn due orders event result iterate => rw [iterate] at h; cases h
  | failed goOn due orders g result iterate =>
    rw [iterate] at h
    obtain rfl : g = f := Option.some_inj.mp h
    have hwaited : (s.waited now).Regular := regular.updateTimers (s.elapsed now)
    have hserved : (s.waited now).Served poll.keys := ⟨keypad, alive⟩
    have hrefusal := Processor.refusal_of_step_inRange hwaited.machine hserved result
    refine ⟨orders, result, Machine.isProgram_of_refusal hrefusal, ?_⟩
    rw [iterate]
    exact (Processor.step_of_refusal hrefusal poll.keys).2.1

/-- The last iteration of a script runs no step if the host quits, and at
most one otherwise. -/
theorem ordersAll_concat (s : Scheduler) (before : List (Int × Poll)) (now : Int) (poll : Poll) :
    poll.goOn = false ∧ s.ordersAll (before ++ [(now, poll)]) = s.ordersAll before ∨
      poll.goOn = true ∧ ∃ delta, ∃ last ∈ [[], [.step poll.keys]],
        s.ordersAll (before ++ [(now, poll)]) = s.ordersAll before ++ .wait delta :: last := by
  rw [ordersAll_append, ordersAll, ordersAll, List.append_nil]
  cases (s.iterateAll before).1.iterateCase now poll with
  | quit goOn orders =>
    rw [orders]
    exact Or.inl ⟨goOn, List.append_nil _⟩
  | idle goOn _ orders =>
    rw [orders]
    exact Or.inr ⟨goOn, _, [], by simp, rfl⟩
  | done goOn _ orders | failed goOn _ orders =>
    rw [orders]
    exact Or.inr ⟨goOn, _, [.step poll.keys], by simp, rfl⟩

/-! ## The end of a run -/

/-- A beeper is silent after a journal that switches the tone off and then
only writes to the log. -/
theorem silent_of_toneOff {j k : Journal} {r : Log.Record} (h : j = k ++ [.toneOff, .log r])
    (b : Beeper) : (b.follow j).1.playing = false := by
  rw [Beeper.follow_playing, h, Journal.tone_append]
  rfl

/-- How a run ends when the host keeps its side of the contract: after
iterations that nobody disturbed and a last one, with the scheduler at rest
and the tone off. The last iteration brought the end about, or its step
failed. -/
structure Ending (start : Scheduler) (journal : Array Entry) (before : List (Int × Poll))
    (now : Int) (poll : Poll) (final : Finished) : Prop where
  undisturbed : ∀ one ∈ before, GoesOn one
  processor : final.scheduler.processor =
    (start.iterateAll (before ++ [(now, poll)])).1.processor
  running : final.scheduler.running = false
  journal : ∃ record, final.journal = journal.toList ++
    (start.iterateAll (before ++ [(now, poll)])).2 ++ [.toneOff, .log record]
  result :
    (final.result = .ok (.success final.scheduler.processor.steps) ∧
      start.faults (before ++ [(now, poll)]) = [] ∧ ¬GoesOn (now, poll)) ∨
    ∃ f, final.result = .ok (.failure f) ∧ start.faults before = [] ∧
      ((start.iterateAll before).1.Fails now poll f)

theorem loop_ending {start : Scheduler} (running : start.running = true)
    (regular : start.processor.Regular) (alive : Listener.dead ∉ start.processor.listeners)
    {script : List Poll} (keypads : ∀ poll ∈ script, poll.keys.length = 16) (clock : Clock)
    (journal : Array Entry) :
    ∃ before now poll, before ++ [(now, poll)] <+: agenda script clock ∧
      Ending start journal before now poll (loop script clock start journal) := by
  cases loopCase running script clock journal with
  | ended before now poll planned undisturbed final faultless stopped loop =>
    rw [loop]
    exact ⟨before, now, poll, planned, undisturbed, rfl, stopped,
      ⟨_, congrArg (· ++ _) Array.toList_appendList⟩, .inl ⟨rfl, faultless, final⟩⟩
  | halted before now poll f planned undisturbed faultless fault loop =>
    have hregular := iterateAll_regular regular before
    have hkeypad : poll.keys.length = 16 := by
      have hmem := planned.subset (List.mem_append_right before (List.mem_singleton_self _))
      rcases mem_of_mem_agenda hmem with hscript | hquit
      · exact keypads _ hscript
      · rw [show poll = _ from hquit]
        rfl
    have halive : Listener.dead ∉ (start.iterateAll before).1.processor.listeners := by
      rwa [iterateAll_processor, Processor.run_listeners]
    have hfails := fails_of_fault hregular halive hkeypad fault
    rw [loop, abort, if_pos hfails.own]
    exact ⟨before, now, poll, planned, undisturbed, rfl, rfl,
      ⟨_, congrArg (· ++ _) Array.toList_appendList⟩, .inr ⟨f, rfl, faultless, hfails⟩⟩

/-- An iteration that fails after iterations without a fault: its step is the
last command and the first that fails. -/
theorem Fails.last_command {start : Scheduler} {before : List (Int × Poll)} {now : Int}
    {poll : Poll} {f : Fault} (calm : start.faults before = [])
    (fails : (start.iterateAll before).1.Fails now poll f) :
    ∃ cs, start.ordersAll (before ++ [(now, poll)]) = cs ++ [.step poll.keys] ∧
      (start.iterateAll before).1.waited now = start.processor.run cs ∧
      ∀ g, ¬start.processor.Raises cs g := by
  refine ⟨start.ordersAll before ++ [.wait ((start.iterateAll before).1.elapsed now)], ?_, ?_, ?_⟩
  · rw [ordersAll_append, ordersAll, ordersAll, fails.orders, List.append_assoc]
    rfl
  · rw [Processor.run_concat, ← iterateAll_processor]
    rfl
  · intro g
    rw [Processor.raises_append, not_or]
    exact ⟨not_raises_ordersAll calm g, Processor.not_raises_wait _ _ g⟩

/-! ## What is reported -/

/-- What a run reports of the commands it came to, on the processor as it
was at the beginning. -/
structure Report (p : Processor) (cs : List Command) (final : Finished) : Prop where
  /-- No fault escapes. -/
  caught : ∃ outcome, final.result = .ok outcome
  /-- A failure is reported exactly if a step failed. -/
  failure_iff : ∀ f, final.result = .ok (.failure f) ↔ p.Raises cs f
  /-- A step that failed was the last command, hence the only step that
  failed, and left the processor as it found it, up to its line in the
  trace. -/
  last : ∀ earlier keys f, earlier ++ [.step keys] <+: cs →
    ((p.run earlier).step keys).result = .error f →
    cs = earlier ++ [.step keys] ∧
      (final.scheduler.processor = p.run earlier ∨
        (p.run earlier).tracing = true ∧ ∃ line, final.scheduler.processor =
          { p.run earlier with trace := (p.run earlier).trace.push line })
  /-- If no step failed, the number of steps is reported. -/
  success : (∀ f, ¬p.Raises cs f) →
    final.result = .ok (.success final.scheduler.processor.steps) ∧
      final.scheduler.processor.steps = p.steps + cs.countP Command.isStep

theorem Report.of_success {start : Scheduler} {script : List (Int × Poll)} {final : Finished}
    (faultless : start.faults script = [])
    (processor : final.scheduler.processor = (start.iterateAll script).1.processor)
    (success : final.result = .ok (.success final.scheduler.processor.steps)) :
    Report start.processor (start.ordersAll script) final := by
  have hcalm := not_raises_ordersAll faultless
  have hcount := start.countP_ordersAll script
  rw [faultless, ← processor, List.length_nil, Nat.add_zero] at hcount
  refine ⟨⟨_, success⟩, fun f => ?_, ?_, fun _ => ⟨success, hcount.symm⟩⟩
  · rw [success]
    exact ⟨nofun, fun hraises => absurd hraises (hcalm f)⟩
  · intro earlier keys f hprefix hfails
    exact absurd ⟨earlier, keys, hprefix, hfails⟩ (hcalm f)

theorem Report.of_failure {start : Scheduler} {before : List (Int × Poll)} {now : Int}
    {poll : Poll} {final : Finished} {f : Fault} (calm : start.faults before = [])
    (fails : (start.iterateAll before).1.Fails now poll f)
    (processor : final.scheduler.processor =
      (start.iterateAll (before ++ [(now, poll)])).1.processor)
    (failure : final.result = .ok (.failure f)) :
    Report start.processor (start.ordersAll (before ++ [(now, poll)])) final := by
  obtain ⟨cs, hcs, hwaited, hcalm⟩ := fails.last_command calm
  have hfails := fails.result
  rw [hwaited] at hfails
  have hraises : ∀ g, start.processor.Raises (cs ++ [.step poll.keys]) g ↔ f = g := by
    intro g
    rw [Processor.raises_concat_step hcalm, hfails, Except.error.injEq]
  have hfinal : final.scheduler.processor = (start.processor.run cs).traced := by
    rw [processor, iterateAll_append, iterateAll_singleton, fails.processor, hwaited]
  rw [hcs]
  -- `cs` is calm, so whatever fails in `cs` and the step after it is that step
  refine ⟨⟨_, failure⟩, fun g => ?_, ?_, fun hnone => absurd ((hraises f).mpr rfl) (hnone f)⟩
  · rw [failure, hraises, Except.ok.injEq, Outcome.failure.injEq]
  · intro earlier keys g hprefix hother
    have hlast := Processor.eq_of_fails_last hcalm hprefix hother
    obtain ⟨rfl, -⟩ := List.append_inj' hlast rfl
    refine ⟨hlast, ?_⟩
    rw [hfinal]
    rcases (start.processor.run cs).traced_cases with hsame | ⟨htracing, w, -, hline⟩
    · exact Or.inl hsame
    · exact Or.inr ⟨htracing, _, hline⟩

/-! ## The statement -/

/-- **The outcome of a run.** A fresh processor with live listeners, a new
scheduler, and a script of polls with whole keypads; any clock. The run
consists of the iterations of its agenda up to a last one, at most one more
than the script has entries, and the host quits or stops in none but the
last. In the last one no step is run if the host quits, and at most one
otherwise. Then the scheduler is at rest, and after everything else the
tone was switched off, so that every beeper that followed is silent. What
is reported is `Report`: the fault of the one step that failed, or the
number of steps, if the host brought the end about. -/
theorem run_outcome {p : Processor} {period : Int} {s : Scheduler} {script : List Poll}
    {clock : Clock} {final : Finished} (fresh : p.Fresh) (alive : Listener.dead ∉ p.listeners)
    (made : make p period = some s) (keypads : ∀ poll ∈ script, poll.keys.length = 16)
    (ran : s.run script clock = final) :
    ∃ (before : List (Int × Poll)) (now : Int) (poll : Poll) (cs : List Command),
      -- the iterations, and what they did with the processor
      before ++ [(now, poll)] <+: agenda script clock.read.2 ∧
      (before ++ [(now, poll)]).length ≤ script.length + 1 ∧
      (∀ one ∈ before, GoesOn one) ∧
      cs = (s.begin clock.read.1).ordersAll (before ++ [(now, poll)]) ∧
      final.scheduler.processor = p.run cs ∧
      (poll.goOn = false ∧ cs = (s.begin clock.read.1).ordersAll before ∨
        poll.goOn = true ∧ ∃ delta, ∃ last ∈ [[], [.step poll.keys]],
          cs = (s.begin clock.read.1).ordersAll before ++ .wait delta :: last) ∧
      -- what is left running
      final.scheduler.running = false ∧
      (∃ ending, final.journal = .log s.beginRecord ::
        ((s.begin clock.read.1).iterateAll (before ++ [(now, poll)])).2 ++
          [.toneOff, .log ending]) ∧
      (∀ b : Beeper, (b.follow final.journal).1.playing = false) ∧
      -- what is reported
      Report p cs final ∧
      ((∀ f, ¬p.Raises cs f) →
        final.result = .ok (.success (cs.countP Command.isStep)) ∧ ¬GoesOn (now, poll)) := by
  obtain rfl := processor_of_make made
  obtain ⟨before, now, poll, planned, hend⟩ := loop_ending
    (show (s.begin clock.read.1).running = true from rfl) fresh.regular alive keypads
    clock.read.2 #[.log s.beginRecord]
  rw [show loop script clock.read.2 (s.begin clock.read.1) #[.log s.beginRecord] = final from ran]
    at hend
  obtain ⟨undisturbed, processor, running, ⟨ending, journal⟩, result⟩ := hend
  have hlength := planned.length_le
  rw [length_agenda] at hlength
  have hreport : Report s.processor
      ((s.begin clock.read.1).ordersAll (before ++ [(now, poll)])) final := by
    rcases result with ⟨success, faultless, -⟩ | ⟨f, failure, calm, fails⟩
    · exact .of_success faultless processor success
    · exact .of_failure calm fails processor failure
  refine ⟨before, now, poll, _, planned, hlength, undisturbed, rfl, ?_,
    ordersAll_concat _ before now poll, running, ⟨ending, journal⟩, silent_of_toneOff journal,
    hreport, fun hcalm => ?_⟩
  · rw [processor, iterateAll_processor]
    rfl
  · obtain ⟨success, hsteps⟩ := hreport.success hcalm
    rw [fresh.steps, Nat.zero_add] at hsteps
    rw [hsteps] at success
    refine ⟨success, ?_⟩
    rcases result with ⟨-, -, last⟩ | ⟨f, failure, -, -⟩
    · exact last
    · exact absurd ((hreport.failure_iff f).mp failure) (hcalm f)

/-- A step that is done, then a stop and a fault in one iteration; the last
poll of the script is never made. -/
theorem run_outcome_stop_and_fault :
    ∃ (p : Processor) (s : Scheduler) (final : Finished), p.Fresh ∧
      Listener.dead ∉ p.listeners ∧ make p 3 = some s ∧
      s.run [{}, { stop := true }, {}] { reading := fun n => 3 * n } = final ∧
      final.scheduler.running = false ∧ (∀ b : Beeper, (b.follow final.journal).1.playing = false) ∧
      final.result = .ok (.failure (.stackUnderflow 0x202)) ∧
      ∃ cs, final.scheduler.processor = p.run cs ∧ p.Raises cs (.stackUnderflow 0x202) := by
  have fresh : ({ Processor.boot [0x60, 0x05, 0x00, 0xEE] (RandomSource.cycle []) 2 (by decide) with
      listeners := [.named "screen"], tracing := true } : Processor).Fresh :=
    .intro (Processor.make_eq_ok_iff.mpr ⟨by decide, by decide, rfl⟩) [.named "screen"] true
  have alive : Listener.dead ∉ [Listener.named "screen"] := by decide
  have made : make { Processor.boot [0x60, 0x05, 0x00, 0xEE] (RandomSource.cycle []) 2 (by decide)
      with listeners := [.named "screen"], tracing := true } 3 =
        some ⟨_, 3, false, 0, none, by decide⟩ := rfl
  have ran : run ⟨{ Processor.boot [0x60, 0x05, 0x00, 0xEE] (RandomSource.cycle []) 2 (by decide)
      with listeners := [.named "screen"], tracing := true }, 3, false, 0, none, by decide⟩
      [{}, { stop := true }, {}] { reading := fun n => 3 * n } = _ := rfl
  obtain ⟨-, -, -, cs, -, -, -, -, hprocessor, -, hrunning, -, hsilent, hreport, -⟩ :=
    run_outcome fresh alive made (by decide) ran
  have hresult : (run ⟨{ Processor.boot [0x60, 0x05, 0x00, 0xEE] (RandomSource.cycle []) 2
      (by decide) with listeners := [.named "screen"], tracing := true }, 3, false, 0, none,
      by decide⟩ [{}, { stop := true }, {}] { reading := fun n => 3 * n }).result =
        .ok (.failure (.stackUnderflow 0x202)) := by decide +kernel
  exact ⟨_, _, _, fresh, alive, made, ran, hrunning, hsilent, hresult, cs, hprocessor,
    (hreport.failure_iff _).mp hresult⟩

end Scheduler

end Chip8
