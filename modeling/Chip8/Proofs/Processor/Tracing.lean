/-
Chip8.Proofs.Processor.Tracing — tracing does not interfere.

A run in which tracing is switched on and off is compared with the run of the
same commands, less the switching, with tracing off (`untraced`). What an
instruction does commutes with taking the trace away (`perform_untraced`), so
a command answers the same in both runs, leaves the same processor but for
the trace, and does the same on the outside after at most one line in the log
(`Exchange.Agrees`). `course_agrees` carries this from command to command.

Writing the line cannot fail either: in a run the stack pointer is small and
what is fetched is a word (`render?_run`).
-/
import Chip8.Proofs.Processor.Audience
import Chip8.Proofs.Processor.Rendering

namespace Chip8

/-- The processor with tracing off and nothing in its trace. -/
def Processor.untraced (p : Processor) : Processor := { p with tracing := false, trace := {} }

/-- The same outcome, with the trace taken away. -/
def Executed.untraced (e : Executed) : Executed := { e with processor := e.processor.untraced }

namespace Processor

variable {p : Processor}

/-! ## One step -/

theorem settle_untraced (p : Processor) (attempt : Attempt) (flow : Flow) :
    p.untraced.settle attempt flow = (p.settle attempt flow).untraced := by
  cases attempt <;> rfl

/-- No instruction looks at the trace. -/
theorem perform_untraced (p : Processor) (keys : Keypad) (i : Instruction) :
    p.untraced.perform keys i = (p.perform keys i).untraced := by
  have hmachine : p.untraced.machine = p.machine := rfl
  cases i with
  | ret | call | getDelay | digits | store | load =>
    simp only [perform, hmachine]
    exact p.settle_untraced _ _
  | skipPressed x | skipReleased x =>
    simp only [perform, hmachine]
    rw [settle_untraced]
    rfl
  | draw x y rows =>
    simp only [perform, hmachine]
    cases p.machine.draw x y rows <;> rfl
  | awaitKey x =>
    simp only [perform, hmachine]
    cases p.machine.awaitKey x keys <;> rfl
  | _ => rfl

theorem execute_untraced (p : Processor) (keys : Keypad) (w : Word) :
    p.untraced.execute keys w = (p.execute keys w).untraced := by
  unfold execute
  cases Instruction.decode w with
  | none => rfl
  | some i => exact p.perform_untraced keys i

theorem record_untraced (p : Processor) (w : Word) : (p.record w).1.untraced = p.untraced := by
  rw [record_eq]
  rfl

/-- A line of the trace is written to the log, or nothing is. -/
theorem record_journal (p : Processor) (w : Word) :
    (p.record w).2 = [] ∨ ∃ line, (p.record w).2 = [.log (Log.debug line)] := by
  unfold record
  split
  · exact Or.inr ⟨_, rfl⟩
  · exact Or.inl rfl

theorem finish_untraced (p : Processor) (flow : Flow) :
    p.untraced.finish flow = (p.finish flow).untraced := by
  cases flow <;> rfl

/-- **A step without tracing is the step with tracing, less the trace.** -/
theorem step_untraced (p : Processor) (keys : Keypad) :
    (p.untraced.step keys).result = (p.step keys).result ∧
      (p.untraced.step keys).processor = (p.step keys).processor.untraced ∧
      ((p.step keys).journal = (p.untraced.step keys).journal ∨
        ∃ line, (p.step keys).journal =
          .log (Log.debug line) :: (p.untraced.step keys).journal) := by
  have hfetch : p.untraced.machine.memory.fetch p.untraced.registers.pc =
      p.machine.memory.fetch p.registers.pc := rfl
  have hsilent : ∀ w, p.untraced.record w = (p.untraced, []) := fun _ => rfl
  unfold step
  rw [hfetch]
  cases p.machine.memory.fetch p.registers.pc with
  | error f => exact ⟨rfl, rfl, Or.inl rfl⟩
  | ok w =>
    have hexecute : p.untraced.execute keys w = ((p.record w).1.execute keys w).untraced := by
      rw [← p.record_untraced w, execute_untraced]
    have hjournal : ∀ others, (p.record w).2 ++ others = [] ++ others ∨
        ∃ line, (p.record w).2 ++ others = .log (Log.debug line) :: ([] ++ others) := by
      intro others
      rcases record_journal p w with hnone | ⟨line, hline⟩
      · exact Or.inl (by rw [hnone])
      · exact Or.inr ⟨line, by rw [hline]; rfl⟩
    simp only [hsilent, hexecute, Executed.untraced]
    cases ((p.record w).1.execute keys w).flow with
    | error f => exact ⟨rfl, rfl, hjournal _⟩
    | ok flow => exact ⟨rfl, finish_untraced _ flow, hjournal _⟩

/-! ## Commands -/

/-- What a command answers. -/
inductive Answer where
  | stepped (result : Except Fault (Option TimerEvent))
  | waited (events : List TimerEvent)
  | loaded (result : Except Fault Unit)
  | switched

def answer (p : Processor) : Command → Answer
  | .step keys => .stepped (p.step keys).result
  | .wait delta => .waited (p.updateTimers delta).events
  | .load program => .loaded ((p.load program).1.map fun _ => ())
  | .trace _ => .switched

def Command.isSwitch : Command → Bool
  | .trace _ => true
  | _ => false

/-- A command of a run, with what it answers and does on the outside, and what
it leaves. -/
structure Exchange where
  command : Command
  answer : Answer
  journal : Journal
  after : Processor

/-- A run, command for command. -/
def course (p : Processor) : List Command → List Exchange
  | [] => []
  | c :: cs => ⟨c, p.answer c, p.emitted c, p.obey c⟩ :: (p.obey c).course cs

/-- A command of a run with tracing agrees with one of a run without: it is the
same but for the trace, and a line in the log that comes first. -/
structure Exchange.Agrees (traced plain : Exchange) : Prop where
  command : traced.command = plain.command
  answer : traced.answer = plain.answer
  journal : traced.journal = plain.journal ∨
    ∃ line, traced.journal = .log (Log.debug line) :: plain.journal
  after : traced.after.untraced = plain.after

theorem load_untraced (p : Processor) (program : List Byte) :
    (p.untraced.load program).1 = (p.load program).1.map untraced ∧
      (p.untraced.load program).2 = (p.load program).2 := by
  have hmachine : p.untraced.machine = p.machine := rfl
  unfold load
  rw [hmachine]
  cases p.machine.load program <;> exact ⟨rfl, rfl⟩

/-- **A command does the same with tracing and without.** -/
theorem exchange_agrees (p : Processor) {c : Command} (hc : c.isSwitch = false) :
    Exchange.Agrees ⟨c, p.answer c, p.emitted c, p.obey c⟩
      ⟨c, p.untraced.answer c, p.untraced.emitted c, p.untraced.obey c⟩ := by
  cases c with
  | step keys =>
    obtain ⟨hresult, hafter, hjournal⟩ := p.step_untraced keys
    exact ⟨rfl, congrArg Answer.stepped hresult.symm, hjournal, hafter.symm⟩
  | wait delta => exact ⟨rfl, rfl, Or.inl rfl, rfl⟩
  | load program =>
    obtain ⟨hresult, hjournal⟩ := p.load_untraced program
    refine ⟨rfl, ?_, Or.inl hjournal.symm, ?_⟩
    · refine congrArg Answer.loaded ?_
      rw [hresult]
      cases (p.load program).1 <;> rfl
    · simp only [obey, hresult]
      cases (p.load program).1 <;> rfl
  | trace on => cases hc

/-- Switching leaves everything but the trace. -/
theorem obey_switch_untraced (p : Processor) {c : Command} (hc : c.isSwitch = true) :
    (p.obey c).untraced = p.untraced := by
  cases c with
  | trace on => rfl
  | _ => cases hc

/-! ## Runs -/

/-- The commands that are no switching. -/
def unswitched (cs : List Command) : List Command := cs.filter fun c => !c.isSwitch

/-- **A run with tracing goes as the run without**, command for command. -/
theorem course_agrees (p : Processor) (cs : List Command) :
    List.Forall₂ Exchange.Agrees ((p.course cs).filter fun m => !m.command.isSwitch)
      (p.untraced.course (unswitched cs)) := by
  induction cs generalizing p with
  | nil => exact .nil
  | cons c cs ih =>
    have hrest := ih (p.obey c)
    unfold unswitched at hrest ⊢
    cases hc : c.isSwitch with
    | true =>
      rw [obey_switch_untraced p hc] at hrest
      simpa [course, hc] using hrest
    | false =>
      have hexchange := p.exchange_agrees hc
      rw [hexchange.after] at hrest
      simpa [course, hc] using And.intro hexchange hrest

/-- Both runs end in the same state. -/
theorem run_untraced (p : Processor) (cs : List Command) :
    (p.run cs).untraced = p.untraced.run (unswitched cs) := by
  induction cs generalizing p with
  | nil => rfl
  | cons c cs ih =>
    have hrest := ih (p.obey c)
    unfold unswitched at hrest ⊢
    show ((p.obey c).run cs).untraced = _
    rw [hrest]
    cases hc : c.isSwitch with
    | true => rw [obey_switch_untraced p hc, List.filter_cons_of_neg (by simp [hc])]
    | false =>
      rw [(p.exchange_agrees hc).after, List.filter_cons_of_pos (by simp [hc])]
      rfl

theorem Exchange.Agrees.pictures {traced plain : Exchange} (h : traced.Agrees plain) :
    traced.journal.pictures = plain.journal.pictures := by
  rcases h.journal with hsame | ⟨line, hline⟩
  · rw [hsame]
  · rw [hline]
    rfl

/-- The listeners get the same pictures in both runs. -/
theorem journal_untraced (p : Processor) (cs : List Command) :
    (p.journal cs).pictures = (p.untraced.journal (unswitched cs)).pictures := by
  induction cs generalizing p with
  | nil => rfl
  | cons c cs ih =>
    have hrest := ih (p.obey c)
    unfold unswitched at hrest ⊢
    show (p.emitted c ++ (p.obey c).journal cs).pictures = _
    rw [Journal.pictures_append, hrest]
    cases hc : c.isSwitch with
    | true =>
      have hsilent : p.emitted c = [] := by
        cases c with
        | trace on => rfl
        | _ => cases hc
      rw [obey_switch_untraced p hc, List.filter_cons_of_neg (by simp [hc]), hsilent]
      rfl
    | false =>
      have hexchange := p.exchange_agrees hc
      rw [hexchange.after, List.filter_cons_of_pos (by simp [hc]), hexchange.pictures]
      exact (Journal.pictures_append _ _).symm

/-- In a run the line of the trace can be written, whatever is fetched. -/
theorem render?_run (fresh : p.Fresh) (cs : List Command) (w : Word) :
    Trace.render? (p.run cs).registers w.toNat =
      .ok (Trace.line (p.run cs).registers w).toList := by
  have hrange := (fresh.regular.run cs).machine.registers
  have hlow := hrange.sp_ge
  have hhigh := hrange.sp_le
  refine Trace.render?_word (Number.isWritable_of_small ?_) w
  unfold registers
  omega

theorem Fresh.untraced {p : Processor} (h : p.Fresh) : p.untraced = { p with tracing := false } := by
  obtain ⟨made, listeners, tracing⟩ := h
  obtain ⟨-, -, rfl⟩ := make_eq_ok_iff.mp made
  rfl

/-! ## The statement -/

/-- **Tracing does not interfere.** In every run, however tracing is switched on
and off in it, every command but the switching answers what it answers in
the run with tracing off throughout, has the same effects on the outside
after at most one line in the log, and leaves the same processor but for the
trace. The listeners get the same pictures. And writing the line cannot
fail, for any word that is fetched at any moment. -/
theorem tracing_does_not_interfere (fresh : p.Fresh) (cs : List Command) :
    let plain : Processor := { p with tracing := false }
    List.Forall₂ Exchange.Agrees ((p.course cs).filter fun m => !m.command.isSwitch)
      (plain.course (unswitched cs)) ∧
    (p.run cs).untraced = plain.run (unswitched cs) ∧
    (p.journal cs).pictures = (plain.journal (unswitched cs)).pictures ∧
    ∀ w : Word, Trace.render? (p.run cs).registers w.toNat =
      .ok (Trace.line (p.run cs).registers w).toList := by
  intro plain
  have hplain : p.untraced = plain := fresh.untraced
  rw [← hplain]
  exact ⟨p.course_agrees cs, p.run_untraced cs, p.journal_untraced cs, render?_run fresh cs⟩

/-- Tracing is switched on for the second of three steps, the last of which
fails. -/
theorem tracing_does_not_interfere_switched_twice :
    ∃ p : Processor, p.Fresh ∧
      let q := p.run [.step Keypad.released, .trace true, .step Keypad.released, .wait 5,
        .trace false, .step Keypad.released]
      q.trace.toList =
        ["202: F018 LD ST, V0        | I: 000 | SP: -1 | V: 05" ++
          String.join (List.replicate 15 " 00")] ∧
      q.untraced = { p with tracing := false }.run
        [.step Keypad.released, .step Keypad.released, .wait 5, .step Keypad.released] := by
  have fresh : ({ boot [0x60, 0x05, 0xF0, 0x18, 0x00, 0xEE] (RandomSource.cycle []) 1 (by decide)
      with listeners := [.named "screen"], tracing := false } : Processor).Fresh :=
    .intro (make_eq_ok_iff.mpr ⟨by decide, by decide, rfl⟩) [.named "screen"] false
  have htracing := tracing_does_not_interfere fresh [.step Keypad.released, .trace true,
    .step Keypad.released, .wait 5, .trace false, .step Keypad.released]
  exact ⟨_, fresh, by decide +kernel, htracing.2.1⟩

end Processor

end Chip8
