/-
Chip8.Proofs.Processor.KeyWait — waiting for a key is a pure stutter.

A step that waits for a key and finds none down counts, adds its line to the
trace if tracing is on, and does nothing else (`step_of_no_key`). Time does not
see either of these (`waitAll_countedAs`), so a run of such steps and stretches
of time leaves what the time alone leaves, with the steps added up
(`run_of_idle`). The first step that finds a key down stores the lowest and goes
on (`step_of_lowest_key`), on the registers that the time has left.
-/
import Chip8.Proofs.Processor.Slicing
import Chip8.Proofs.Processor.Succession
import Chip8.Proofs.Processor.Tracing

namespace Chip8

/-! ## Keys -/

/-- The lowest key that is down. -/
theorem Keypad.lowest?_eq_some_iff {keys : Keypad} {key : Nat} :
    keys.lowest? = some key ↔
      keys[key]? = some true ∧ ∀ k < key, keys[k]? ≠ some true := by
  unfold lowest?
  rw [List.findIdx?_eq_some_iff_getElem]
  constructor
  · rintro ⟨hlt, hdown, hlower⟩
    refine ⟨(List.getElem?_eq_getElem hlt).trans (congrArg some hdown), fun k hk hsome => ?_⟩
    obtain ⟨hk', hdown'⟩ := List.getElem?_eq_some_iff.mp hsome
    exact hlower k hk hdown'
  · rintro ⟨hsome, hlower⟩
    obtain ⟨hlt, hdown⟩ := List.getElem?_eq_some_iff.mp hsome
    exact ⟨hlt, hdown, fun k hk hdown' =>
      hlower k hk ((List.getElem?_eq_getElem (hk.trans hlt)).trans (congrArg some hdown'))⟩

namespace Processor

/-! ## Idle runs -/

/-- A step with no key down, or a stretch of time. -/
def Command.Idle : Command → Prop
  | .step keys => true ∉ keys
  | .wait _ => True
  | .load _ | .trace _ => False

/-- The stretches of time that commands let pass, in order. -/
def stretches (cs : List Command) : List Int :=
  cs.filterMap fun
    | .wait delta => some delta
    | _ => none

/-- The timer events that an answer brings. -/
def Answer.events : Answer → List TimerEvent
  | .stepped (.ok event) => event.toList
  | .waited events => events
  | _ => []

/-- What the timers and the program report in the course of a run. -/
def reported (p : Processor) (cs : List Command) : List TimerEvent :=
  (p.course cs).flatMap fun exchange => exchange.answer.events

/-- The processor with another trace, and another number of steps. -/
def countedAs (p : Processor) (trace : Trace) (steps : Nat) : Processor := { p with trace, steps }

/-- The word at the program counter waits for a key, to store it in a register. -/
def AwaitsKey (p : Processor) (x : Index) : Prop :=
  ∃ w, p.machine.memory.fetch p.registers.pc = .ok w ∧ w.SingleForm 0xF 0x0A x

variable {p : Processor} {x : Index} {keys : Keypad}

/-! ## One step -/

/-- What a step does that waits for a key, whatever keys are down. -/
theorem step_of_awaitsKey (awaits : p.AwaitsKey x) (keys : Keypad) :
    ∃ w, p.step keys = p.carryOut keys w (.awaitKey x) ∧
      (p.record w).1 = p.countedAs (p.record w).1.trace p.steps := by
  obtain ⟨w, fetched, coded⟩ := awaits
  exact ⟨w, step_eq_carryOut fetched (Instruction.decode_of_coded (i := .awaitKey x) coded) keys,
    record_eq p w⟩

/-- The log, and nothing but the log and a reading of the keypad. -/
def Quiet (j : Journal) : Prop := ∀ e ∈ j, e = .keypad ∨ ∃ record, e = .log record

theorem quiet_step (w : Word) : Quiet ((p.record w).2 ++ [.keypad]) := by
  intro e he
  rcases List.mem_append.mp he with hrecord | hkeypad
  · exact Or.inr (log_of_mem_record hrecord)
  · exact Or.inl (List.mem_singleton.mp hkeypad)

/-- **A step that waits for a key in vain** counts and is traced, and that is
all. -/
theorem step_of_no_key (awaits : p.AwaitsKey x) (released : true ∉ keys) :
    (p.step keys).result = .ok none ∧ Quiet (p.step keys).journal ∧
      (p.step keys).processor = p.countedAs (p.step keys).processor.trace (p.steps + 1) := by
  have hkey : keys.lowest? = none := Keypad.lowest?_eq_none_iff.mpr released
  obtain ⟨w, hstep, hrecord⟩ := step_of_awaitsKey awaits keys
  rw [hstep]
  unfold carryOut perform Machine.awaitKey
  simp only [hkey]
  refine ⟨rfl, quiet_step w, ?_⟩
  rw [hrecord]
  rfl

/-- **A step that waits for a key and finds one** stores the lowest. -/
theorem step_of_lowest_key {key : Nat} (awaits : p.AwaitsKey x) (lowest : keys.lowest? = some key)
    (small : key < 256) :
    (p.step keys).result = .ok none ∧ Quiet (p.step keys).journal ∧
      (p.step keys).processor =
        (p.withMachine (p.machine.mapRegisters fun r =>
          (r.set x (UInt8.ofNat key)).skip)).countedAs
            (p.step keys).processor.trace (p.steps + 1) := by
  have hbyte : Byte.ofInt? key = .ok (UInt8.ofNat key) := if_pos (by omega)
  obtain ⟨w, hstep, hrecord⟩ := step_of_awaitsKey awaits keys
  rw [hstep]
  unfold carryOut perform Machine.awaitKey
  simp only [lowest, hbyte]
  refine ⟨rfl, quiet_step w, ?_⟩
  rw [hrecord]
  rfl

/-- What the key is stored in, and what it is not. -/
theorem registers_of_lowest_key {key : Nat} (awaits : p.AwaitsKey x)
    (lowest : keys.lowest? = some key) (small : key < 256) :
    (p.step keys).processor.registers.value x = key ∧
      (∀ y ≠ x, (p.step keys).processor.registers.get y = p.registers.get y) ∧
      (p.step keys).processor.registers.pc = p.registers.pc + 2 := by
  obtain ⟨-, -, hstep⟩ := step_of_lowest_key awaits lowest small
  have hregisters : (p.step keys).processor.registers =
      (p.registers.set x (UInt8.ofNat key)).skip := by
    rw [hstep]
    rfl
  rw [hregisters]
  refine ⟨?_, fun y hy => Registers.get_set_of_ne _ _ (Ne.symm hy), rfl⟩
  show ((p.registers.set x (UInt8.ofNat key)).get x).toNat = key
  rw [Registers.get_set_self]
  exact UInt8.toNat_ofNat_of_lt' small

/-! ## Runs -/

theorem AwaitsKey.countedAs (awaits : p.AwaitsKey x) (trace : Trace) (steps : Nat) :
    (p.countedAs trace steps).AwaitsKey x := awaits

theorem Wired.countedAs (wired : p.Wired) (trace : Trace) (steps : Nat) :
    (p.countedAs trace steps).Wired := ⟨wired.1, wired.2, wired.3, wired.4⟩

theorem waitAll_cons (p : Processor) (delta : Int) (rest : List Int) :
    p.waitAll (delta :: rest) =
      ⟨((p.updateTimers delta).processor.waitAll rest).processor,
        (p.updateTimers delta).events ++
          ((p.updateTimers delta).processor.waitAll rest).events⟩ := rfl

/-- Time sees neither the trace nor the number of steps. -/
theorem waitAll_countedAs (p : Processor) (trace : Trace) (steps : Nat) (deltas : List Int) :
    (p.countedAs trace steps).waitAll deltas =
      ⟨(p.waitAll deltas).processor.countedAs trace steps, (p.waitAll deltas).events⟩ := by
  induction deltas generalizing p with
  | nil => rfl
  | cons delta rest ih =>
    have hprocessor : ((p.countedAs trace steps).updateTimers delta).processor =
        (p.updateTimers delta).processor.countedAs trace steps := rfl
    have hevents : ((p.countedAs trace steps).updateTimers delta).events =
        (p.updateTimers delta).events := rfl
    rw [waitAll_cons, waitAll_cons, hprocessor, hevents, ih]

/-- Time passes for the clockwork and for nothing else. -/
theorem waitAll_processor (wired : p.Wired) (deltas : List Int) :
    (p.waitAll deltas).processor = p.withClockwork (p.waitAll deltas).processor.clockwork := by
  induction deltas generalizing p with
  | nil => rfl
  | cons delta rest ih =>
    rw [waitAll_cons]
    calc ((p.updateTimers delta).processor.waitAll rest).processor
      _ = (p.updateTimers delta).processor.withClockwork
          ((p.updateTimers delta).processor.waitAll rest).processor.clockwork :=
        ih (wired.updateTimers delta)
      _ = p.withClockwork ((p.updateTimers delta).processor.waitAll rest).processor.clockwork := by
        rw [updateTimers_processor wired]
        rfl

/-- The word at the program counter is the same after any time. -/
theorem AwaitsKey.waitAll (awaits : p.AwaitsKey x) (wired : p.Wired) (deltas : List Int) :
    (p.waitAll deltas).processor.AwaitsKey x := by
  rw [waitAll_processor wired]
  exact awaits

/-- A run of waiting, command for command: no step fails, and the keypad and the
log are all that it reaches. -/
structure Uneventful (p : Processor) (cs : List Command) : Prop where
  steps : ∀ exchange ∈ p.course cs, ∀ result, exchange.answer = .stepped result →
    result = .ok none
  journal : Quiet (p.journal cs)

/-- **Waiting for a key, over a run.** What is left is what the time alone leaves,
but for the trace and the number of steps. -/
theorem run_of_idle (awaits : p.AwaitsKey x) (wired : p.Wired) {cs : List Command}
    (idle : ∀ c ∈ cs, c.Idle) :
    p.run cs = (p.waitAll (stretches cs)).processor.countedAs (p.run cs).trace
        (p.steps + cs.countP Command.isStep) ∧
      p.reported cs = (p.waitAll (stretches cs)).events ∧ p.Uneventful cs := by
  induction cs generalizing p with
  | nil =>
    exact ⟨rfl, rfl, fun _ hmem => absurd hmem List.not_mem_nil,
      fun _ hmem => absurd hmem List.not_mem_nil⟩
  | cons c cs ih =>
    obtain ⟨hc, hcs⟩ := List.forall_mem_cons.mp idle
    cases c with
    | step keys =>
      obtain ⟨hresult, hquiet, hstep⟩ := step_of_no_key awaits hc
      have hnow : p.obey (.step keys) = p.countedAs (p.step keys).processor.trace (p.steps + 1) :=
        hstep
      obtain ⟨hrun, hreported, hcourse⟩ := ih (p := p.obey (.step keys))
        (hnow ▸ awaits.countedAs _ _) (hnow ▸ wired.countedAs _ _) hcs
      have hcount : (p.obey (.step keys)).steps + cs.countP Command.isStep =
          p.steps + (Command.step keys :: cs).countP Command.isStep := by
        rw [hnow, List.countP_cons_of_pos rfl]
        exact Nat.add_right_comm p.steps 1 _
      rw [hcount] at hrun
      have htimed : (p.obey (.step keys)).waitAll (stretches cs) =
          ⟨(p.waitAll (stretches cs)).processor.countedAs (p.step keys).processor.trace
            (p.steps + 1), (p.waitAll (stretches cs)).events⟩ := by
        rw [hnow, waitAll_countedAs]
      refine ⟨?_, ?_, ?_, ?_⟩
      · rw [htimed] at hrun
        exact hrun
      · have hevents : p.reported (.step keys :: cs) = (p.obey (.step keys)).reported cs := by
          show (p.answer (.step keys)).events ++ _ = _
          rw [answer, hresult]
          rfl
        rw [hevents, hreported, htimed]
        rfl
      · intro exchange hmem result hanswer
        rcases List.mem_cons.mp hmem with rfl | hlater
        · exact (Answer.stepped.inj hanswer).symm.trans hresult
        · exact hcourse.steps exchange hlater result hanswer
      · intro e he
        exact (List.mem_append.mp he).elim (hquiet e) (hcourse.journal e)
    | wait delta =>
      obtain ⟨hrun, hreported, hcourse⟩ := ih (p := p.obey (.wait delta))
        (awaits.waitAll wired [delta]) (wired.updateTimers delta) hcs
      refine ⟨hrun, congrArg ((p.updateTimers delta).events ++ ·) hreported, ?_, ?_⟩
      · intro exchange hmem result hanswer
        rcases List.mem_cons.mp hmem with rfl | hlater
        · cases hanswer
        · exact hcourse.steps exchange hlater result hanswer
      · intro e he
        rcases List.mem_append.mp he with hnow | hlater
        · exact Or.inr (log_of_mem_updateTimers hnow)
        · exact hcourse.journal e hlater
    | load | trace => exact hc.elim

/-! ## The statement -/

/-- **Waiting for a key is a pure stutter.** At every moment of every run at which
the next word waits for a key, and over any steps with no key down and
stretches of time: no step fails, and the machine is as it was but for the two
timer registers; the random source is where it was, the steps are counted,
and the timers with their registers and reports are what the time alone makes
them. A step that then finds a key down, one whose number fits a register as
that of each of sixteen keys does, stores the lowest in the register, moves
past the word and changes no other register. What it leaves does not depend on
how often no key was found. -/
theorem keyWait_stutters (fresh : p.Fresh) (history : List Command) {w : Word}
    (fetched : (p.run history).machine.memory.fetch (p.run history).registers.pc = .ok w)
    (family : w.family.val = 0xF) (byte : w.byte.toNat = 0x0A) {cs : List Command}
    (idle : ∀ c ∈ cs, c.Idle) :
    let start := p.run history
    let timed := start.waitAll (stretches cs)
    let now := start.run cs
    (∀ exchange ∈ start.course cs, ∀ result, exchange.answer = .stepped result →
      result = .ok none) ∧
    (∀ e ∈ start.journal cs, e = .keypad ∨ ∃ record, e = .log record) ∧
    now.machine = { start.machine with registers := { start.registers with
      delay := timed.processor.registers.delay
      sound := timed.processor.registers.sound } } ∧
    now.random = start.random ∧
    now.steps = start.steps + cs.countP Command.isStep ∧
    now.delayTimer = timed.processor.delayTimer ∧
    now.soundTimer = timed.processor.soundTimer ∧
    start.reported cs = timed.events ∧
    ∀ keys key, keys[key]? = some true → (∀ k < key, keys[k]? ≠ some true) → key < 256 →
      let last := now.step keys
      last.result = .ok none ∧
      last.processor = { now with
        machine := now.machine.mapRegisters fun r => (r.set w.x (UInt8.ofNat key)).skip
        trace := last.processor.trace
        steps := now.steps + 1 } ∧
      last.processor.registers.value w.x = key ∧
      (∀ y ≠ w.x, last.processor.registers.get y = start.registers.get y) ∧
      last.processor.registers.pc = start.registers.pc + 2 ∧
      ∀ ds : List Command, (∀ d ∈ ds, d.Idle) → stretches ds = stretches cs →
        ((start.run ds).step keys).processor.machine = last.processor.machine := by
  intro start timed now
  have wired : start.Wired := (fresh.regular.run history).timers
  have awaits : start.AwaitsKey w.x := ⟨w, fetched, family, byte, rfl⟩
  obtain ⟨hrun, hreported, hcourse⟩ := run_of_idle awaits wired idle
  have hnow : now = (start.withClockwork timed.processor.clockwork).countedAs now.trace
      (start.steps + cs.countP Command.isStep) := by
    rw [← waitAll_processor wired]
    exact hrun
  have hmachine : now.machine = start.machine.withCounters timed.processor.registers.delay
      timed.processor.registers.sound := by
    rw [hnow]
    rfl
  refine ⟨hcourse.steps, hcourse.journal, hmachine, by rw [hnow]; rfl, by rw [hnow]; rfl,
    by rw [hnow]; rfl, by rw [hnow]; rfl, hreported, ?_⟩
  intro keys key down lower small last
  have hlowest : keys.lowest? = some key := Keypad.lowest?_eq_some_iff.mpr ⟨down, lower⟩
  have hstill : ∀ {ds : List Command}, (∀ d ∈ ds, d.Idle) → (start.run ds).AwaitsKey w.x := by
    intro ds hds
    rw [(run_of_idle awaits wired hds).1]
    exact awaits.waitAll wired _
  obtain ⟨hresult, -, hlast⟩ := step_of_lowest_key (hstill idle) hlowest small
  obtain ⟨hvalue, hothers, hpc⟩ := registers_of_lowest_key (hstill idle) hlowest small
  have hregisters : now.registers = { start.registers with
      delay := timed.processor.registers.delay
      sound := timed.processor.registers.sound } := congrArg Machine.registers hmachine
  refine ⟨hresult, hlast, hvalue, fun y hy => (hothers y hy).trans ?_, hpc.trans ?_, ?_⟩
  · exact (congrArg (Registers.get · y) hregisters :)
  · exact (congrArg (Registers.pc · + 2) hregisters :)
  · intro ds hds same
    obtain ⟨-, -, hother⟩ := step_of_lowest_key (hstill hds) hlowest small
    have hsame : (start.run ds).machine = now.machine := by
      rw [(run_of_idle awaits wired hds).1, same, (show now = _ from hrun)]
      rfl
    rw [hother, show last.processor = _ from hlast]
    exact congrArg
      (fun m : Machine => m.mapRegisters fun r => (r.set w.x (UInt8.ofNat key)).skip) hsame

/-- The tone ends while F30A waits; then keys 5 and 9 go down, and V3 is 5. -/
theorem keyWait_stutters_tone_ends :
    ∃ p : Processor, p.Fresh ∧
      let start := p.run [.step Keypad.released, .step Keypad.released]
      let cs : List Command := [.step Keypad.released, .wait 6, .step Keypad.released, .wait 5,
        .step Keypad.released]
      let keys := [false, false, false, false, false, true, false, false, false, true]
      start.reported cs = [.stopped] ∧ (start.run cs).steps = 5 ∧
      (start.run cs).registers.pc = 0x204 ∧
      ((start.run cs).step keys).processor.registers.value 3 = 5 ∧
      ((start.run cs).step keys).processor.registers.pc = 0x206 := by
  have fresh : ({ boot [0x60, 0x01, 0xF0, 0x18, 0xF3, 0x0A] (RandomSource.cycle []) 10 (by decide)
      with listeners := [.named "screen"], tracing := true } : Processor).Fresh :=
    .intro (make_eq_ok_iff.mpr ⟨by decide, by decide, rfl⟩) [.named "screen"] true
  have idle : ∀ c ∈ [Command.step Keypad.released, .wait 6, .step Keypad.released, .wait 5,
      .step Keypad.released], c.Idle := by
    simp [Command.Idle, Keypad.released]
  obtain ⟨-, -, hmachine, -, hsteps, -, -, hreported, hkey⟩ :=
    keyWait_stutters (w := 0xF30A) fresh [.step Keypad.released, .step Keypad.released]
      (by decide +kernel) (by decide) (by decide) idle
  obtain ⟨-, -, hvalue, -, hpc, -⟩ := hkey
    [false, false, false, false, false, true, false, false, false, true] 5 rfl (by decide) (by decide)
  refine ⟨_, fresh, hreported.trans (by decide +kernel), hsteps.trans (by decide +kernel), ?_,
    hvalue, hpc.trans (by decide +kernel)⟩
  unfold Processor.registers
  rw [hmachine]
  decide +kernel

end Processor

end Chip8
