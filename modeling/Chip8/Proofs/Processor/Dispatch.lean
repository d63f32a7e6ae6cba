/-
Chip8.Proofs.Processor.Dispatch — a step does what the table of patterns
says of the word.

The decoder that steps go through and the table that the disassembler goes
through are two descriptions of one instruction set. Wherever a word can be
fetched, a step refuses it as illegal exactly if no pattern fits
(`step_illegal_iff`), and otherwise carries out the instruction that the
fitting pattern stands for (`dispatch_agrees_with_table`). Nothing is asked
of the machine: a word is illegal or not, whatever else may go wrong with
it.
-/
import Chip8.Proofs.Instruction.Assembly
import Chip8.Proofs.Processor.Run

namespace Chip8

/-- No instruction meets an illegal word. -/
theorem Machine.obstacle_ne_illegal (m : Machine) (i : Instruction) (word pc : Int) :
    m.obstacle? i ≠ some (.illegalInstruction word pc) := by
  have houtside : ∀ count, m.outside? count ≠ some (.illegalInstruction word pc) := by
    intro count
    unfold outside?
    split <;> simp
  intro h
  cases i with
  | ret | call =>
    simp only [obstacle?] at h
    split at h <;> cases h
  | draw | digits | store | load => exact houtside _ h
  | _ => cases h

theorem Pattern.isIllegal_iff (w : Word) : Pattern.isIllegal w = true ↔ w.Reserved := by
  unfold isIllegal
  rw [Option.isNone_iff_eq_none, find?_eq_none_iff]

namespace Processor

/-- The outcome of a step that carries out an instruction for a word. -/
def carryOut (p : Processor) (keys : Keypad) (w : Word) (i : Instruction) : Stepped :=
  let done := (p.record w).1.perform keys i
  let journal := (p.record w).2 ++ done.journal
  match done.flow with
  | .error fault => { processor := done.processor, result := .error fault, journal }
  | .ok flow => { processor := done.processor.finish flow, result := .ok done.event, journal }

variable {p : Processor} {w : Word}

theorem step_eq_carryOut {i : Instruction} (fetched : p.machine.memory.fetch p.registers.pc = .ok w)
    (decoded : Instruction.decode w = some i) (keys : Keypad) :
    p.step keys = p.carryOut keys w i := by
  unfold step
  rw [fetched]
  simp only [execute, decoded]
  rfl

/-- A step says that a word is illegal if it is the reserved word at the
program counter, and never otherwise. -/
theorem step_illegal_iff (fetched : p.machine.memory.fetch p.registers.pc = .ok w) (keys : Keypad)
    (word pc : Int) :
    (p.step keys).result = .error (.illegalInstruction word pc) ↔
      w.Reserved ∧ word = w.toNat ∧ pc = p.registers.pc := by
  rw [← Instruction.decode_eq_none_iff]
  constructor
  · intro h
    have hrefused := refusal_of_step h rfl
    unfold Machine.refusal? at hrefused
    unfold registers at fetched
    rw [fetched] at hrefused
    cases hdecode : Instruction.decode w with
    | none =>
      simp only [hdecode] at hrefused
      injection hrefused with hfault
      injection hfault with hword hpc
      exact ⟨rfl, hword.symm, hpc.symm⟩
    | some i =>
      simp only [hdecode] at hrefused
      exact absurd hrefused (Machine.obstacle_ne_illegal _ i word pc)
  · rintro ⟨hdecode, rfl, rfl⟩
    have hrefused : p.machine.refusal? = some (.illegalInstruction w.toNat p.registers.pc) := by
      unfold Machine.refusal?
      unfold registers at fetched
      rw [fetched]
      simp only [hdecode]
      rfl
    exact (step_of_refusal hrefused keys).1

/-! ## The statement -/

/-- **Decoder and table describe one instruction set.** Wherever a word can
be fetched: at most one pattern fits it, in whatever order they are tried;
a step calls the word illegal exactly if none fits, that is for the
reserved words; and if one fits, the step carries out the operation of the
pattern, with the operands it takes from the word, which is the instruction
that the pattern is the name of. Patterns and operations are named one to one. -/
theorem dispatch_agrees_with_table (fetched : p.machine.memory.fetch p.registers.pc = .ok w)
    (keys : Keypad) :
    Pattern.table.countP (·.Matches w) ≤ 1 ∧
    (∀ order : List Pattern, order.Perm Pattern.table →
      order.find? (·.Matches w) = Pattern.find? w) ∧
    (∀ word pc, (p.step keys).result = .error (.illegalInstruction word pc) ↔
      Pattern.isIllegal w = true ∧ word = w.toNat ∧ pc = p.registers.pc) ∧
    (Pattern.isIllegal w = true ↔ w.Reserved) ∧
    (∀ entry ∈ Pattern.table.zip Instruction.operations, entry.1.Matches w = true →
      p.step keys = p.carryOut keys w (entry.2 w)) ∧
    (∀ e ∈ Pattern.table, e.Matches w = true →
      ∃ i : Instruction, i.Written w e ∧ p.step keys = p.carryOut keys w i) ∧
    Pattern.table.length = 34 ∧ Instruction.operations.length = 34 ∧
    (∀ i : Instruction, ∃! e, e ∈ Pattern.table ∧ i.Named e) ∧
    (∀ e ∈ Pattern.table, ∃ i : Instruction, i.Named e) ∧
    (∀ i j : Instruction, i.mnemonic = j.mnemonic → i.arguments = j.arguments → i = j) := by
  refine ⟨Pattern.countP_matches_le_one w, fun order h => Pattern.find?_of_perm h w, ?_,
    Pattern.isIllegal_iff w, ?_, ?_, rfl, rfl, Instruction.existsUnique_named,
    fun e he => Instruction.exists_named he, fun i j => Instruction.eq_of_assembly⟩
  · intro word pc
    rw [Pattern.isIllegal_iff]
    exact step_illegal_iff fetched keys word pc
  · intro entry hentry hfits
    exact step_eq_carryOut fetched (Instruction.decode_of_mem_zip entry hentry hfits).1 keys
  · intro e he hfits
    obtain ⟨i, hdecode, hwritten⟩ := Instruction.decode_of_matches e he hfits
    exact ⟨i, hwritten, step_eq_carryOut fetched hdecode keys⟩

/-- The word 8AF5 is carried out as a subtraction of VF from VA. -/
theorem dispatch_agrees_with_table_subtraction :
    ∃ p : Processor, p.machine.memory.fetch p.registers.pc = .ok 0x8AF5 ∧
      p.step Keypad.released = p.carryOut Keypad.released 0x8AF5 (.sub 0xA 0xF) := by
  have fetched : (boot [0x8A, 0xF5] (RandomSource.cycle []) 1 (by decide)).machine.memory.fetch
      (boot [0x8A, 0xF5] (RandomSource.cycle []) 1 (by decide)).registers.pc = .ok 0x8AF5 := by
    decide +kernel
  obtain ⟨-, -, -, -, hdispatch, -⟩ := dispatch_agrees_with_table fetched Keypad.released
  have hentry : ((⟨0xF00F, 0x8005, "SUB", [.vx, .vy]⟩ : Pattern),
      fun w : Word => Instruction.sub w.x w.y) ∈ Pattern.table.zip Instruction.operations := by
    simp [Pattern.table, Instruction.operations]
  exact ⟨_, fetched, hdispatch _ hentry (by decide)⟩

end Processor

end Chip8
