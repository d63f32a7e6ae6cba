/-
Chip8.Proofs.Processor.Step — what one step can do, said once.

`StepCase` lists the four ways a step can go: no word can be fetched, the
word is no instruction, the instruction fails, or it is done. What a step
does is read off from these cases and never from the definition of `step`
again; with an instruction to execute two of them are left
(`stepCase_of_next`).

`Machine.refusal?` is the fault of the program's own that the next step
meets, read off the machine alone. A step that is refused changes nothing
but the trace (`step_of_refusal`), and every fault of the program is such a
refusal (`refusal_of_step`); on a machine in range, with a proper host, so
is every fault (`refusal_of_step_inRange`).
-/
import Chip8.Proofs.Processor.Perform

namespace Chip8

/-- The fault of the program's own that the next step meets. -/
def Machine.refusal? (m : Machine) : Option Fault :=
  match m.memory.fetch m.registers.pc with
  | .error fault => some fault
  | .ok w =>
      match Instruction.decode w with
      | none => some (.illegalInstruction w.toNat m.registers.pc)
      | some i => m.obstacle? i

namespace Processor

/-! ## The trace -/

/-- The processor with the line of the next word in its trace, if a word
can be fetched and tracing is on. -/
def traced (p : Processor) : Processor :=
  match p.machine.memory.fetch p.machine.registers.pc with
  | .ok w => (p.record w).1
  | .error _ => p

/-- What is written to the log when a word is no instruction. -/
def illegalRecord (w : Word) (pc : Int) : Log.Record :=
  Log.error s!"Illegal instruction: ${Text.Hex.padded 4 w.toNat} at PC=${Text.Hex.padded 3 pc}"

theorem record_eq (p : Processor) (w : Word) :
    (p.record w).1 = { p with trace := (p.record w).1.trace } := by
  unfold record
  split <;> rfl

@[simp] theorem record_machine (p : Processor) (w : Word) :
    (p.record w).1.machine = p.machine := by
  rw [record_eq]

/-- Tracing writes log records and has no other effect on the outside. -/
theorem log_of_mem_record {p : Processor} {w : Word} {e : Entry} (h : e ∈ (p.record w).2) :
    ∃ r, e = .log r := by
  unfold record at h
  split at h
  · exact ⟨_, List.mem_singleton.mp h⟩
  · cases h

theorem traced_of_fetch {p : Processor} {w : Word}
    (h : p.machine.memory.fetch p.machine.registers.pc = .ok w) : p.traced = (p.record w).1 := by
  unfold traced
  rw [h]

/-- The trace grows by one line, when tracing is on and a word was fetched. -/
theorem traced_cases (p : Processor) :
    p.traced = p ∨
      p.tracing = true ∧ ∃ w, p.machine.memory.fetch p.machine.registers.pc = .ok w ∧
        p.traced = { p with trace := p.trace.push (Trace.line p.registers w) } := by
  cases hfetch : p.machine.memory.fetch p.machine.registers.pc with
  | error f =>
    refine Or.inl ?_
    unfold traced
    rw [hfetch]
  | ok w =>
    rw [traced_of_fetch hfetch]
    unfold record
    cases htracing : p.tracing with
    | false => exact Or.inl rfl
    | true => exact Or.inr ⟨rfl, w, rfl, rfl⟩

theorem traced_eq (p : Processor) : p.traced = { p with trace := p.traced.trace } := by
  unfold traced
  split
  · exact p.record_eq _
  · rfl

@[simp] theorem traced_machine (p : Processor) : p.traced.machine = p.machine := by
  rw [traced_eq]

@[simp] theorem traced_listeners (p : Processor) : p.traced.listeners = p.listeners := by
  rw [traced_eq]

/-! ## The four ways -/

/-- The ways a step can go. -/
inductive StepCase (p : Processor) (keys : Keypad) : Prop
  /-- No word can be fetched. -/
  | unfetched (f : Fault) (fetched : p.machine.memory.fetch p.machine.registers.pc = .error f)
      (step : p.step keys = ⟨p, .error f, []⟩)
  /-- The word is no instruction. -/
  | undecoded (w : Word) (fetched : p.machine.memory.fetch p.machine.registers.pc = .ok w)
      (decoded : Instruction.decode w = none)
      (step : p.step keys =
        ⟨p.traced, .error (.illegalInstruction w.toNat p.machine.registers.pc),
          (p.record w).2 ++ [.log (illegalRecord w p.machine.registers.pc)]⟩)
  /-- The instruction fails. -/
  | failed (w : Word) (i : Instruction) (f : Fault)
      (fetched : p.machine.memory.fetch p.machine.registers.pc = .ok w)
      (decoded : Instruction.decode w = some i) (flow : (p.traced.perform keys i).flow = .error f)
      (step : p.step keys =
        ⟨(p.traced.perform keys i).processor, .error f,
          (p.record w).2 ++ (p.traced.perform keys i).journal⟩)
  /-- The instruction is done. -/
  | done (w : Word) (i : Instruction) (flow : Flow)
      (fetched : p.machine.memory.fetch p.machine.registers.pc = .ok w)
      (decoded : Instruction.decode w = some i) (flowed : (p.traced.perform keys i).flow = .ok flow)
      (step : p.step keys =
        ⟨(p.traced.perform keys i).processor.finish flow, .ok (p.traced.perform keys i).event,
          (p.record w).2 ++ (p.traced.perform keys i).journal⟩)

theorem stepCase (p : Processor) (keys : Keypad) : p.StepCase keys := by
  cases hfetch : p.machine.memory.fetch p.machine.registers.pc with
  | error f =>
    refine .unfetched f hfetch ?_
    unfold step registers
    rw [hfetch]
  | ok w =>
    have htraced := traced_of_fetch hfetch
    cases hdecode : Instruction.decode w with
    | none =>
      refine .undecoded w hfetch hdecode ?_
      unfold step registers
      rw [hfetch, htraced]
      simp only [execute, registers, hdecode, record_machine]
      rfl
    | some i =>
      cases hflow : (p.traced.perform keys i).flow with
      | error f =>
        refine .failed w i f hfetch hdecode hflow ?_
        rw [htraced] at hflow ⊢
        unfold step registers
        rw [hfetch]
        simp only [execute, hdecode, hflow]
      | ok flow =>
        refine .done w i flow hfetch hdecode hflow ?_
        rw [htraced] at hflow ⊢
        unfold step registers
        rw [hfetch]
        simp only [execute, hdecode, hflow]

/-- The instruction that the next step executes, if there is one. -/
def next? (p : Processor) : Option Instruction :=
  match p.machine.memory.fetch p.machine.registers.pc with
  | .error _ => none
  | .ok w => Instruction.decode w

section Next

variable {p : Processor} {keys : Keypad} {i : Instruction}

/-- With an instruction there are two of the four ways: it fails, or it is
done. -/
theorem stepCase_of_next (hnext : p.next? = some i) (keys : Keypad) :
    ∃ w,
      (∃ f, (p.traced.perform keys i).flow = .error f ∧
        p.step keys = ⟨(p.traced.perform keys i).processor, .error f,
          (p.record w).2 ++ (p.traced.perform keys i).journal⟩) ∨
      ∃ flow, (p.traced.perform keys i).flow = .ok flow ∧
        p.step keys = ⟨(p.traced.perform keys i).processor.finish flow,
          .ok (p.traced.perform keys i).event,
          (p.record w).2 ++ (p.traced.perform keys i).journal⟩ := by
  unfold next? at hnext
  cases p.stepCase keys with
  | unfetched f fetched step =>
    rw [fetched] at hnext
    cases hnext
  | undecoded w fetched decoded step =>
    simp only [fetched, decoded] at hnext
    cases hnext
  | failed w j f fetched decoded flow step =>
    simp only [fetched, decoded, Option.some.injEq] at hnext
    rw [hnext] at flow step
    exact ⟨w, Or.inl ⟨f, flow, step⟩⟩
  | done w j flow fetched decoded flowed step =>
    simp only [fetched, decoded, Option.some.injEq] at hnext
    rw [hnext] at flowed step
    exact ⟨w, Or.inr ⟨flow, flowed, step⟩⟩

/-- A step executes the next instruction, and moves on if it is done. -/
theorem step_of_next {flow : Flow} (hnext : p.next? = some i)
    (hflow : (p.traced.perform keys i).flow = .ok flow) :
    (p.step keys).result = .ok (p.traced.perform keys i).event ∧
      (p.step keys).processor = (p.traced.perform keys i).processor.finish flow := by
  obtain ⟨w, ⟨f, hfailed, -⟩ | ⟨flow', hdone, hstep⟩⟩ := stepCase_of_next hnext keys
  · rw [hflow] at hfailed
    cases hfailed
  · rw [hflow] at hdone
    injection hdone with hdone
    rw [hstep, hdone]
    exact ⟨rfl, rfl⟩

/-- A step stops where its instruction fails. -/
theorem step_of_next_error {f : Fault} (hnext : p.next? = some i)
    (hflow : (p.traced.perform keys i).flow = .error f) :
    (p.step keys).result = .error f ∧
      (p.step keys).processor = (p.traced.perform keys i).processor := by
  obtain ⟨w, ⟨g, hfailed, hstep⟩ | ⟨flow, hdone, -⟩⟩ := stepCase_of_next hnext keys
  · rw [hflow] at hfailed
    injection hfailed with hfailed
    rw [hstep, hfailed]
    exact ⟨rfl, rfl⟩
  · rw [hflow] at hdone
    cases hdone

end Next

/-- The refusal of a step with an instruction is the obstacle of the
instruction. -/
theorem refusal_of_next {p : Processor} {i : Instruction} (hnext : p.next? = some i) :
    p.machine.refusal? = p.machine.obstacle? i := by
  unfold next? at hnext
  unfold Machine.refusal?
  split at hnext
  · cases hnext
  · rename_i w hfetch
    simp only [hnext]

/-- A step leaves timers, listeners and the tracing switch alone. -/
theorem step_processor (p : Processor) (keys : Keypad) :
    (p.step keys).processor =
      { p with
        machine := (p.step keys).processor.machine
        random := (p.step keys).processor.random
        trace := (p.step keys).processor.trace
        steps := (p.step keys).processor.steps } := by
  cases p.stepCase keys with
  | unfetched f fetched step => rw [step]
  | undecoded w fetched decoded step => rw [step, traced_eq]
  | failed w i f fetched decoded flow step => rw [step, perform_processor, traced_eq]
  | done w i flow fetched decoded flowed step =>
    rw [step, perform_processor, traced_eq]
    cases flow <;> rfl

/-- A step counts if it succeeds. -/
theorem step_steps (p : Processor) (keys : Keypad) :
    (p.step keys).processor.steps =
      p.steps + match (p.step keys).result with
        | .ok _ => 1
        | .error _ => 0 := by
  have htraced : p.traced.steps = p.steps := by rw [traced_eq]
  have hperform : ∀ i, (p.traced.perform keys i).processor.steps = p.steps := fun i =>
    (congrArg Processor.steps (p.traced.perform_processor keys i)).trans htraced
  cases p.stepCase keys with
  | unfetched f fetched step => rw [step]; rfl
  | undecoded w fetched decoded step => rw [step]; exact htraced
  | failed w i f fetched decoded flow step => rw [step]; exact hperform i
  | done w i flow fetched decoded flowed step =>
    rw [step]
    cases flow <;> exact congrArg (· + 1) (hperform i)

/-! ## The range -/

theorem finish_machine (p : Processor) (flow : Flow) :
    (p.finish flow).machine =
      p.machine.mapRegisters fun r => match flow with
        | .advance => r.skip
        | .stay => r := by
  cases flow <;> rfl

/-- A step keeps the machine in range. -/
theorem step_inRange {p : Processor} (h : p.machine.InRange (lastFetch + 4)) (keys : Keypad) :
    (p.step keys).processor.machine.InRange (lastFetch + 4) := by
  have htraced : p.traced.machine.InRange (lastFetch + 4) := by rwa [traced_machine]
  cases p.stepCase keys with
  | unfetched f fetched step => rw [step]; exact h
  | undecoded w fetched decoded step => rw [step]; exact htraced
  | failed w i f fetched decoded flow step =>
    have hfetched : p.traced.machine.InRange lastFetch := by
      rw [traced_machine]
      exact h.of_fetch fetched
    rw [step]
    exact (perform_inRange hfetched keys i).mono (by omega)
  | done w i flow fetched decoded flowed step =>
    have hfetched : p.traced.machine.InRange lastFetch := by
      rw [traced_machine]
      exact h.of_fetch fetched
    have hdone := perform_inRange hfetched keys i
    rw [step, finish_machine]
    cases flow with
    | stay => exact hdone.mono (by omega)
    | advance => exact hdone.withRegisters (hdone.registers.skip.mono (by omega))

/-! ## Refusals -/

/-- A step that is refused changes nothing but the trace, and writes to the
log at most. -/
theorem step_of_refusal {p : Processor} {f : Fault} (h : p.machine.refusal? = some f)
    (keys : Keypad) :
    (p.step keys).result = .error f ∧ (p.step keys).processor = p.traced ∧
      ∀ e ∈ (p.step keys).journal, ∃ r, e = .log r := by
  unfold Machine.refusal? at h
  cases p.stepCase keys with
  | unfetched g fetched step =>
    have htraced : p.traced = p := by
      unfold traced
      rw [fetched]
    rw [fetched] at h
    injection h with h
    rw [step, htraced, h]
    exact ⟨rfl, rfl, fun e he => by cases he⟩
  | undecoded w fetched decoded step =>
    simp only [fetched, decoded] at h
    injection h with h
    rw [step]
    refine ⟨by rw [← h], rfl, fun e he => ?_⟩
    rcases List.mem_append.mp he with hrecord | hlog
    · exact log_of_mem_record hrecord
    · exact ⟨_, List.mem_singleton.mp hlog⟩
  | failed w i g fetched decoded flow step =>
    simp only [fetched, decoded] at h
    rw [← traced_machine] at h
    have hperform := perform_of_obstacle h keys
    rw [hperform] at flow step
    injection flow with flow
    rw [step, flow]
    refine ⟨rfl, rfl, fun e he => ?_⟩
    rw [List.append_nil] at he
    exact log_of_mem_record he
  | done w i flow fetched decoded flowed step =>
    simp only [fetched, decoded] at h
    rw [← traced_machine] at h
    rw [perform_of_obstacle h] at flowed
    cases flowed

theorem machine_of_refusal {p : Processor} {f : Fault} (h : p.machine.refusal? = some f)
    (keys : Keypad) : (p.step keys).processor.machine = p.machine := by
  rw [(step_of_refusal h keys).2.1, traced_machine]

/-- A fault is a refusal if it is an obstacle wherever an instruction meets
it. -/
theorem refusal_of_obstacle {p : Processor} {keys : Keypad} {f : Fault}
    (h : (p.step keys).result = .error f)
    (hob : ∀ w i, p.machine.memory.fetch p.machine.registers.pc = .ok w →
      (p.traced.perform keys i).flow = .error f → p.machine.obstacle? i = some f) :
    p.machine.refusal? = some f := by
  unfold Machine.refusal?
  cases p.stepCase keys with
  | unfetched g fetched step =>
    rw [step] at h
    injection h with h
    rw [fetched, h]
  | undecoded w fetched decoded step =>
    rw [step] at h
    injection h with h
    simp only [fetched, decoded]
    rw [← h]
  | failed w i g fetched decoded flow step =>
    rw [step] at h
    injection h with h
    simp only [fetched, decoded]
    rw [h] at flow
    exact hob w i fetched flow
  | done w i flow fetched decoded flowed step =>
    rw [step] at h
    cases h

/-- Every fault of the program's own is a refusal. -/
theorem refusal_of_step {p : Processor} {keys : Keypad} {f : Fault}
    (h : (p.step keys).result = .error f) (hf : f.isProgram = true) :
    p.machine.refusal? = some f := by
  refine refusal_of_obstacle h fun w i _ hflow => ?_
  rw [← traced_machine]
  exact obstacle_of_perform hflow hf

/-- On a machine in range, with a proper host, every fault is a refusal. -/
theorem refusal_of_step_inRange {p : Processor} {keys : Keypad} {f : Fault}
    (hm : p.machine.InRange (lastFetch + 4)) (hs : p.Served keys)
    (h : (p.step keys).result = .error f) : p.machine.refusal? = some f := by
  refine refusal_of_obstacle h fun w i fetched hflow => ?_
  have hfetched := hm.of_fetch fetched
  have hserved : p.traced.Served keys := ⟨hs.keys, by rw [traced_listeners]; exact hs.listeners⟩
  rw [← traced_machine] at hfetched ⊢
  exact obstacle_of_perform_inRange hfetched hserved hflow

section Served

variable {p : Processor} {keys : Keypad} (hm : p.machine.InRange (lastFetch + 4))
  (hs : p.Served keys)

include hm hs

/-- With a proper host a step fails exactly with what it is refused for. -/
theorem step_error_iff {f : Fault} :
    (p.step keys).result = .error f ↔ p.machine.refusal? = some f :=
  ⟨refusal_of_step_inRange hm hs, fun h => (step_of_refusal h keys).1⟩

/-- With a proper host a step that is not refused succeeds. -/
theorem step_ok_of_clear (h : p.machine.refusal? = none) :
    ∃ event, (p.step keys).result = .ok event := by
  cases hresult : (p.step keys).result with
  | ok event => exact ⟨event, rfl⟩
  | error f =>
    rw [step_error_iff hm hs, h] at hresult
    cases hresult

end Served

end Processor

end Chip8
