/-
Chip8.Proofs.Processor.Safety — no run leaves the range, and no step fails
in a way that is not the program's own.

`run_inRange_and_faults` is the statement for every run of a fresh
processor, whatever the program does to its own memory: registers, stack
and sizes stay in range after every command; a step fails, if it does, by
leaving the memory or the call stack or on a word that is no instruction;
and a program counter beyond the last address that can be fetched stays
where it is for ever.

The range is inductive only with its bound on the stored return
addresses: the program counter after a return is a stored address plus 2,
and what is stored was an address from which a word was fetched.
-/
import Chip8.Proofs.Processor.Run

namespace Chip8

/-- A refused step is refused for an access outside of memory or call stack,
or for a word that is no instruction. -/
theorem Machine.kind_of_refusal {m : Machine} {f : Fault} (h : m.refusal? = some f) :
    f.kind ∈ ["OutOfBoundsError", "StackOverflowError", "StackUnderflowError",
      "IllegalInstructionError"] := by
  have houtside : ∀ {count : Nat}, m.outside? count = some f → f.kind = "OutOfBoundsError" := by
    intro count hout
    unfold outside? at hout
    split at hout
    · injection hout with hout
      rw [← hout]
      rfl
    · cases hout
  unfold refusal? at h
  split at h
  · rename_i g hfetch
    injection h with h
    rw [← h, Memory.eq_of_fetch_error hfetch]
    exact List.mem_cons_self
  · split at h
    · injection h with h
      rw [← h]
      simp [Fault.kind]
    · rename_i i _
      cases i with
      | ret =>
        simp only [obstacle?] at h
        split at h
        · injection h with h
          rw [← h]
          simp [Fault.kind]
        · cases h
      | call target =>
        simp only [obstacle?] at h
        split at h
        · injection h with h
          rw [← h]
          simp [Fault.kind]
        · cases h
      | draw | digits | store | load =>
        rw [houtside h]
        exact List.mem_cons_self
      | _ => cases h

/-- What a step is refused for is the program's own fault. -/
theorem Machine.isProgram_of_refusal {m : Machine} {f : Fault} (h : m.refusal? = some f) :
    f.isProgram = true := by
  have hkind := Machine.kind_of_refusal h
  cases f with
  | noSuchPlace place size =>
    simp only [Fault.kind] at hkind
    split at hkind <;> simp at hkind
  | noRoom shortage => cases shortage <;> simp [Fault.kind, Number.Shortage.kind] at hkind
  | notAByte | notAWord | spanMismatch | noSuchKey | emptyScreen | deadListener =>
    simp [Fault.kind] at hkind
  | _ => rfl

namespace Processor

/-! ## Beyond the last instruction -/

/-- Beyond the last address that can be fetched every step fails there. -/
theorem step_of_beyond {p : Processor} (hm : p.machine.InRange 4098) (h : 4094 < p.registers.pc)
    (keys : Keypad) :
    p.step keys = ⟨p, .error (.fetchOutOfBounds p.registers.pc), []⟩ := by
  have hfetch : p.machine.memory.fetch p.machine.registers.pc =
      .error (.fetchOutOfBounds p.machine.registers.pc) := by
    refine Memory.fetch_eq_error ?_
    rw [hm.memory]
    unfold registers at h
    unfold memorySize
    omega
  cases p.stepCase keys with
  | unfetched f fetched step =>
    rw [hfetch] at fetched
    injection fetched with fetched
    rw [step, ← fetched]
    rfl
  | undecoded w fetched decoded step => rw [hfetch] at fetched; cases fetched
  | failed w i f fetched decoded flow step => rw [hfetch] at fetched; cases fetched
  | done w i flow fetched decoded flowed step => rw [hfetch] at fetched; cases fetched

/-- No command moves a program counter that is beyond the last address. -/
theorem obey_of_beyond {p : Processor} (hp : p.Regular) (h : 4094 < p.registers.pc) (c : Command) :
    (p.obey c).registers.pc = p.registers.pc := by
  cases c with
  | step keys => rw [obey, step_of_beyond hp.machine h]
  | wait delta =>
    unfold obey registers
    rw [updateTimers_machine hp]
    rfl
  | load program =>
    rw [obey_load]
    unfold Machine.load
    split <;> rfl
  | trace on => rfl

theorem run_of_beyond {p : Processor} (hp : p.Regular) (h : 4094 < p.registers.pc)
    (cs : List Command) : (p.run cs).registers.pc = p.registers.pc := by
  refine (run_induction (fun q => q.Regular ∧ q.registers.pc = p.registers.pc) ⟨hp, rfl⟩ ?_ cs).2
  rintro q c ⟨hq, hpc⟩
  exact ⟨hq.obey c, by rw [obey_of_beyond hq (by omega), hpc]⟩

/-! ## The statement -/

/-- **Every run stays in range.** At every moment of every run of a fresh
processor: registers, stack, memory and picture are in range, and sprites
fall on cells that exist; with sixteen keys and live listeners a step fails
only on accesses outside of memory or call stack and on words that are no
instruction; and once the program counter is beyond 4094 it never moves
again, and every step fails for it. -/
theorem run_inRange_and_faults {p : Processor} (fresh : p.Fresh) (cs : List Command) :
    (p.run cs).machine.InRange 4098 ∧
    (∀ x y sprite, ∀ cell ∈ (p.run cs).machine.frame.targets x y sprite,
      cell < (p.run cs).machine.frame.cells.size) ∧
    (Listener.dead ∉ p.listeners → ∀ keys : Keypad, keys.length = 16 →
      ∀ f, ((p.run cs).step keys).result = .error f →
        f.kind ∈ ["OutOfBoundsError", "StackOverflowError", "StackUnderflowError",
          "IllegalInstructionError"]) ∧
    (4094 < (p.run cs).registers.pc → ∀ later keys,
      ((p.run cs).run later).registers.pc = (p.run cs).registers.pc ∧
      (((p.run cs).run later).step keys).result =
        .error (.fetchOutOfBounds (p.run cs).registers.pc)) := by
  have hq := fresh.regular.run cs
  refine ⟨hq.machine, hq.machine.frame.targets_lt, ?_, ?_⟩
  · intro hlisteners keys hkeys f hf
    have hserved : (p.run cs).Served keys := ⟨hkeys, by rwa [run_listeners]⟩
    exact Machine.kind_of_refusal (refusal_of_step_inRange hq.machine hserved hf)
  · intro hbeyond later keys
    have hpc := run_of_beyond hq hbeyond later
    refine ⟨hpc, ?_⟩
    rw [step_of_beyond (hq.run later).machine (by rwa [hpc]), hpc]

/-- A program of one return, with time running backwards and a second
program loaded over it that is again one return. -/
theorem run_inRange_and_faults_lone_return :
    ∃ (p : Processor) (f : Fault), p.Fresh ∧ p.listeners = [.named "screen"] ∧
      (p.run [.wait (-5), .load [0x00, 0xEE]]).machine.InRange 4098 ∧
      ((p.run [.wait (-5), .load [0x00, 0xEE]]).step Keypad.released).result = .error f ∧
      f.kind ∈ ["OutOfBoundsError", "StackOverflowError", "StackUnderflowError",
        "IllegalInstructionError"] := by
  have fresh : ({ boot [0x00, 0xEE] (RandomSource.cycle []) 1 (by decide) with
      listeners := [.named "screen"], tracing := false } : Processor).Fresh :=
    .intro (make_eq_ok_iff.mpr ⟨by decide, by decide, rfl⟩) [.named "screen"] false
  obtain ⟨hrange, -, hfaults, -⟩ := run_inRange_and_faults fresh [.wait (-5), .load [0x00, 0xEE]]
  have hfails : ((Processor.run { boot [0x00, 0xEE] (RandomSource.cycle []) 1 (by decide) with
      listeners := [.named "screen"], tracing := false }
      [.wait (-5), .load [0x00, 0xEE]]).step Keypad.released).result =
        .error (.stackUnderflow 0x200) := by decide +kernel
  exact ⟨_, _, fresh, rfl, hrange, hfails,
    hfaults (by decide) Keypad.released (by decide) _ hfails⟩

end Processor

end Chip8
