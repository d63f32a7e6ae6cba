/-
Chip8.Proofs.Processor.Atomicity — a step that fails on the program's own
fault has done nothing.

Every instruction that can fail tests first and writes afterwards. So a
failed step leaves the whole processor as it was, except that the line of
the word may be in the trace; nobody hears of it except through the log;
and the same step fails in the same way as often as it is tried again
(`step_fault_atomic`). This holds in every state, reachable or not: the
fault is a refusal, which is read off the machine alone, and the machine is
what does not change.
-/
import Chip8.Proofs.Processor.Run

namespace Chip8.Processor

/-- A machine on which the next step is refused stays as it is, however
often the step is tried. -/
theorem run_steps_of_refusal {p : Processor} {f : Fault} (h : p.machine.refusal? = some f)
    (presses : List Keypad) : (p.run (presses.map .step)).machine = p.machine := by
  induction presses generalizing p with
  | nil => rfl
  | cons keys presses ih =>
    have hstep := machine_of_refusal h keys
    have hnext : (p.step keys).processor.machine.refusal? = some f := by rwa [hstep]
    exact (ih hnext).trans hstep

/-- **Failed steps are atomic.** After a fault of the program's own the
processor is as it was, up to one line of the trace when tracing is on and
a word was fetched; nothing but log records went out, so no listener was
called; and every later try fails with the same fault. -/
theorem step_fault_atomic {p : Processor} {keys : Keypad} {f : Fault}
    (failed : (p.step keys).result = .error f) (own : f.isProgram = true) :
    ((p.step keys).processor = p ∨
      p.tracing = true ∧ ∃ w, p.machine.memory.fetch p.registers.pc = .ok w ∧
        (p.step keys).processor = { p with trace := p.trace.push (Trace.line p.registers w) }) ∧
    (∀ e ∈ (p.step keys).journal, ∃ r, e = .log r) ∧
    ∀ (presses : List Keypad) (again : Keypad),
      (((p.step keys).processor.run (presses.map .step)).step again).result = .error f := by
  have hrefused := refusal_of_step failed own
  obtain ⟨-, hprocessor, hjournal⟩ := step_of_refusal hrefused keys
  refine ⟨?_, hjournal, ?_⟩
  · rw [hprocessor]
    exact p.traced_cases
  · intro presses again
    have hafter : (p.step keys).processor.machine.refusal? = some f := by
      rw [machine_of_refusal hrefused]
      exact hrefused
    have hlater : ((p.step keys).processor.run (presses.map .step)).machine.refusal? = some f := by
      rw [run_steps_of_refusal hafter presses]
      exact hafter
    exact (step_of_refusal hlater again).1

/-- A return without a call writes to the log at most, and fails again. -/
theorem step_fault_atomic_lone_return :
    ∃ p : Processor, (p.step Keypad.released).result = .error (.stackUnderflow 0x200) ∧
      (∀ e ∈ (p.step Keypad.released).journal, ∃ r, e = .log r) ∧
      (((p.step Keypad.released).processor.run [.step []]).step Keypad.released).result =
        .error (.stackUnderflow 0x200) := by
  have failed : (({ boot [0x00, 0xEE] (RandomSource.cycle []) 1 (by decide) with
      tracing := true } : Processor).step Keypad.released).result =
        .error (.stackUnderflow 0x200) := by decide +kernel
  obtain ⟨-, hjournal, hagain⟩ := step_fault_atomic failed rfl
  exact ⟨_, failed, hjournal, hagain [[]] Keypad.released⟩

end Chip8.Processor
