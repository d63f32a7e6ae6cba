/-
Chip8.Proofs.Processor.Effects — what the word of a step writes, reads and
reports.

`Instruction.touches` is the table of who writes what, by instruction.
`Word.Writes` is the same table by the digits of the word, and
`Coded.writes` is the way from the one to the other. The keypad, the
random source and the event of the sound timer are the effects beside it:
each belongs to a few words (`perform_keypad`, `perform_processor`,
`perform_event`), and a word that does not read the keypad does the same
with any keypad (`perform_blind`).

`step_footprint` puts all of it together for a step that succeeds, at every
moment of every run.
-/
import Chip8.Proofs.Instruction.Coding
import Chip8.Proofs.Processor.Audience
import Chip8.Proofs.Processor.Dispatch

namespace Chip8

/-! ## The table by words -/

namespace Word

/-- Whether a word is of family F with a low byte. -/
def Extended (w : Word) (byte : Nat) : Prop := w.family.val = 0xF ∧ w.byte.toNat = byte

instance (w : Word) (byte : Nat) : Decidable (w.Extended byte) :=
  inferInstanceAs (Decidable (_ ∧ _))

/-- Whether a word writes its register `x`. -/
def WritesX (w : Word) : Prop :=
  w.family.val ∈ [0x6, 0x7, 0xC] ∨
  w.family.val = 0x8 ∧ w.nibble.val ∈ [0x0, 0x1, 0x2, 0x3, 0x4, 0x5, 0x6, 0x7, 0xE] ∨
  w.Extended 0x07 ∨ w.Extended 0x0A

/-- Whether a word writes the flag register. -/
def WritesFlag (w : Word) : Prop :=
  w.family.val = 0x8 ∧ w.nibble.val ∈ [0x4, 0x5, 0x6, 0x7, 0xE] ∨ w.family.val = 0xD

/-- The parts of a machine that a word writes. Every word moves the program
counter. -/
def Writes (w : Word) (m : Machine) : Machine.Part → Prop
  | .byte y =>
      y = w.x ∧ w.WritesX ∨ y = Registers.flagIndex ∧ w.WritesFlag ∨ y ≤ w.x ∧ w.Extended 0x65
  | .index => w.family.val = 0xA ∨ w.Extended 0x1E ∨ w.Extended 0x29
  | .pc => True
  | .sp => w.family.val = 0x2 ∨ w = 0x00EE
  | .slot k => w.family.val = 0x2 ∧ k.val = m.registers.sp + 1
  | .memory a =>
      w.Extended 0x33 ∧ m.registers.i ≤ a ∧ a ≤ m.registers.i + 2 ∨
      w.Extended 0x55 ∧ m.registers.i ≤ a ∧ a ≤ m.registers.i + w.x.val
  | .picture => w = 0x00E0 ∨ w.family.val = 0xD
  | .delay => w.Extended 0x15
  | .sound => w.Extended 0x18

/-- Whether a word reads the keypad. -/
def ReadsKeypad (w : Word) : Prop :=
  w.family.val = 0xE ∧ w.byte.toNat ∈ [0x9E, 0xA1] ∨ w.Extended 0x0A

instance (w : Word) : Decidable w.ReadsKeypad := inferInstanceAs (Decidable (_ ∨ _))

end Word

/-- Whether an instruction reads the keypad. -/
def Instruction.readsKeypad : Instruction → Bool
  | .skipPressed _ | .skipReleased _ | .awaitKey _ => true
  | _ => false

namespace Instruction

variable {w : Word} {i : Instruction}

/-- What an instruction touches is written by its words. -/
theorem Coded.writes {m : Machine} {q : Machine.Part} (coded : i.Coded w)
    (sp : -1 ≤ m.registers.sp) (touched : q ∈ i.touches m) : w.Writes m q := by
  cases i with
  | clear =>
    obtain rfl := touched
    exact Or.inl coded
  | ret =>
    obtain rfl | rfl := touched
    · trivial
    · exact Or.inr coded
  | jump | jumpOffset | skipEqByte | skipNeByte | skipEq | skipNe | skipPressed | skipReleased =>
    obtain rfl := touched
    trivial
  | call target =>
    rcases touched with (rfl | rfl) | ⟨k, hslot, rfl⟩
    · trivial
    · exact Or.inl coded.1
    · exact ⟨coded.1, Machine.val_of_slotOf (by omega) hslot⟩
  | setByte | addByte | random =>
    obtain ⟨hfamily, rfl, -⟩ := coded
    obtain rfl := touched
    exact Or.inl ⟨rfl, Or.inl (by simp [hfamily])⟩
  | copy | or | and | xor =>
    obtain ⟨hfamily, hnibble, rfl, -⟩ := coded
    obtain rfl := touched
    exact Or.inl ⟨rfl, Or.inr (Or.inl ⟨hfamily, by simp [hnibble]⟩)⟩
  | add | sub | subFrom =>
    obtain ⟨hfamily, hnibble, rfl, -⟩ := coded
    obtain rfl | rfl := touched
    · exact Or.inl ⟨rfl, Or.inr (Or.inl ⟨hfamily, by simp [hnibble]⟩)⟩
    · exact Or.inr (Or.inl ⟨rfl, Or.inl ⟨hfamily, by simp [hnibble]⟩⟩)
  | shiftRight | shiftLeft =>
    obtain ⟨hfamily, hnibble, rfl⟩ := coded
    obtain rfl | rfl := touched
    · exact Or.inl ⟨rfl, Or.inr (Or.inl ⟨hfamily, by simp [hnibble]⟩)⟩
    · exact Or.inr (Or.inl ⟨rfl, Or.inl ⟨hfamily, by simp [hnibble]⟩⟩)
  | draw =>
    obtain rfl | rfl := touched
    · exact Or.inr coded.1
    · exact Or.inr (Or.inl ⟨rfl, Or.inr coded.1⟩)
  | getDelay =>
    obtain ⟨hfamily, hbyte, rfl⟩ := coded
    obtain rfl := touched
    exact Or.inl ⟨rfl, Or.inr (Or.inr (Or.inl ⟨hfamily, hbyte⟩))⟩
  | awaitKey =>
    obtain ⟨hfamily, hbyte, rfl⟩ := coded
    obtain rfl := touched
    exact Or.inl ⟨rfl, Or.inr (Or.inr (Or.inr ⟨hfamily, hbyte⟩))⟩
  | setIndex =>
    obtain rfl := touched
    exact Or.inl coded.1
  | addIndex =>
    obtain rfl := touched
    exact Or.inr (Or.inl ⟨coded.1, coded.2.1⟩)
  | glyph =>
    obtain rfl := touched
    exact Or.inr (Or.inr ⟨coded.1, coded.2.1⟩)
  | setDelay | setSound =>
    obtain rfl := touched
    exact ⟨coded.1, coded.2.1⟩
  | digits =>
    obtain ⟨a, rfl, hlow, hhigh⟩ := touched
    exact Or.inl ⟨⟨coded.1, coded.2.1⟩, hlow, by omega⟩
  | store =>
    obtain ⟨hfamily, hbyte, rfl⟩ := coded
    obtain ⟨a, rfl, hlow, hhigh⟩ := touched
    exact Or.inr ⟨⟨hfamily, hbyte⟩, hlow, by omega⟩
  | load =>
    obtain ⟨hfamily, hbyte, rfl⟩ := coded
    obtain ⟨y, hy, rfl⟩ := touched
    exact Or.inr (Or.inr ⟨hy, hfamily, hbyte⟩)

theorem Coded.readsKeypad_iff (coded : i.Coded w) : i.readsKeypad = true ↔ w.ReadsKeypad := by
  unfold Word.ReadsKeypad Word.Extended
  cases i with
  | clear | ret =>
    obtain rfl := coded
    decide
  | skipPressed | skipReleased | awaitKey | getDelay | setDelay | setSound | addIndex | glyph
  | digits | store | load => simp [readsKeypad, coded.1, coded.2.1]
  | _ => simp [readsKeypad, coded.1]

theorem Coded.draws_iff (coded : i.Coded w) : i.draws = true ↔ w.family.val = 0xC := by
  cases i with
  | clear | ret =>
    obtain rfl := coded
    decide
  | _ => simp [draws, coded.1]

end Instruction

namespace Processor

variable {p : Processor}

/-- Executing one of the words of an instruction carries it out. -/
theorem execute_of_coded {keys : Keypad} {w : Word} {i : Instruction} (coded : i.Coded w) :
    p.execute keys w = p.perform keys i := by
  unfold execute
  rw [Instruction.decode_of_coded coded]

/-! ## The other effects of an instruction -/

/-- An instruction reads the keypad once or not at all. -/
theorem perform_keypad (p : Processor) (keys : Keypad) (i : Instruction) :
    (p.perform keys i).journal.count .keypad = if i.readsKeypad then 1 else 0 := by
  have hannounce : ∀ q : Processor, q.announce.journal.count .keypad = 0 := by
    intro q
    rw [announce_journal, List.count_eq_zero]
    simp
  cases i with
  | clear => exact hannounce _
  | draw x y rows =>
    simp only [perform]
    cases p.machine.draw x y rows with
    | error halted => rfl
    | ok drawn => exact hannounce _
  | ret | call | getDelay | digits | store | load =>
    rw [perform, settle_journal]
    rfl
  | skipPressed | skipReleased =>
    simp only [perform, Executed.afterKeypad, settle_journal]
    rfl
  | awaitKey x =>
    simp only [perform]
    cases p.machine.awaitKey x keys <;> rfl
  | _ => rfl

/-- An instruction that does not read the keypad does the same with any. -/
theorem perform_blind {i : Instruction} (h : i.readsKeypad = false) (keys keys' : Keypad) :
    p.perform keys' i = p.perform keys i := by
  cases i with
  | skipPressed | skipReleased | awaitKey => cases h
  | _ => rfl

/-- The event of an instruction, told from its word. -/
theorem perform_event_of_coded (h : p.Wired) {w : Word} {i : Instruction} (coded : i.Coded w)
    (keys : Keypad) :
    (p.perform keys i).event =
      if w.Extended 0x18 then
        some (if p.registers.value w.x > (0 : Int) then .started else .stopped)
      else none := by
  by_cases hset : ∃ x, i = .setSound x
  · obtain ⟨x, rfl⟩ := hset
    obtain ⟨hfamily, hbyte, rfl⟩ := coded
    have hextended : w.Extended 0x18 := ⟨hfamily, hbyte⟩
    rw [perform_setSound_event h, if_pos hextended]
  · rw [(p.perform_event keys i).resolve_right hset, if_neg]
    intro hextended
    have hdecode : Instruction.decode w = some (.setSound w.x) :=
      Instruction.decode_of_coded ⟨hextended.1, hextended.2, rfl⟩
    rw [Instruction.decode_of_coded coded] at hdecode
    exact hset ⟨w.x, Option.some.inj hdecode⟩

/-! ## The statement -/

/-- What a step does when it executes a word. -/
structure Footprint (p : Processor) (keys : Keypad) (w : Word) (event : Option TimerEvent) :
    Prop where
  /-- The parts of the machine that the word does not write are as before. -/
  parts : ∀ q, ¬w.Writes p.machine q → q.Same p.machine (p.step keys).processor.machine
  memorySize : (p.step keys).processor.machine.memory.size = p.machine.memory.size
  /-- The timers, and so the time they have accumulated, are as before. -/
  timers : (p.step keys).processor.delayTimer = p.delayTimer ∧
    (p.step keys).processor.soundTimer = p.soundTimer
  /-- Family C takes one random byte, and nothing else takes any. -/
  random : (p.step keys).processor.random =
    if w.family.val = 0xC then p.random.advance else p.random
  /-- The keypad is read once or not at all. -/
  keypad : (p.step keys).journal.count .keypad = if w.ReadsKeypad then 1 else 0
  /-- A word that does not read the keypad does the same with any. -/
  blind : ¬w.ReadsKeypad → ∀ keys', p.step keys' = p.step keys
  /-- Loading the sound register is reported, with whether a tone begins. -/
  event : event =
    if w.Extended 0x18 then
      some (if p.registers.value w.x > (0 : Int) then .started else .stopped)
    else none

/-- Moving on touches the program counter alone. -/
theorem finish_same {flow : Flow} {q : Machine.Part} (h : q ≠ .pc) :
    q.Same p.machine (p.finish flow).machine := by
  cases flow with
  | stay => exact Machine.Part.same_refl q p.machine
  | advance => exact Machine.Part.same_pc _ h

theorem finish_random (p : Processor) (flow : Flow) : (p.finish flow).random = p.random := by
  cases flow <;> rfl

/-- **A step writes what its word says and nothing else.** At every moment of
every run, a step that succeeds has fetched a word, and what it changes, draws,
reads and reports is what is in the footprint of that word. -/
theorem step_footprint (fresh : p.Fresh) (cs : List Command) (keys : Keypad)
    {event : Option TimerEvent} (done : ((p.run cs).step keys).result = .ok event) :
    ∃ w, (p.run cs).machine.memory.fetch (p.run cs).registers.pc = .ok w ∧
      (p.run cs).Footprint keys w event := by
  have hregular := fresh.regular.run cs
  generalize p.run cs = p at done hregular
  cases p.stepCase keys with
  | unfetched f fetched step => rw [step] at done; cases done
  | undecoded w fetched decoded step => rw [step] at done; cases done
  | failed w i f fetched decoded flow step => rw [step] at done; cases done
  | done w i flow fetched decoded flowed step =>
    have hcoded := Instruction.coded_of_decode decoded
    have hwired : p.traced.Wired := by
      rw [traced_eq]
      exact ⟨hregular.timers.1, hregular.timers.2, hregular.timers.3, hregular.timers.4⟩
    refine ⟨w, fetched, ?_, ?_, ?_, ?_, ?_, ?_, ?_⟩
    · intro q hq
      have hpc : q ≠ .pc := fun e => hq (e ▸ trivial)
      have htouched : q ∉ i.touches p.traced.machine := by
        rw [traced_machine]
        exact fun h => hq (hcoded.writes hregular.machine.registers.sp_ge h)
      have hperform : q.Same p.traced.machine (p.traced.perform keys i).processor.machine :=
        perform_same htouched
      rw [traced_machine] at hperform
      rw [step]
      exact hperform.trans (finish_same hpc)
    · exact (hregular.obey (.step keys)).machine.memory.trans hregular.machine.memory.symm
    · rw [step_processor]
      exact ⟨rfl, rfl⟩
    · rw [step, finish_random, perform_processor, traced_eq]
      simp only [hcoded.draws_iff]
    · have hrecord : (p.record w).2.count .keypad = 0 := by
        rw [List.count_eq_zero]
        intro he
        obtain ⟨r, hr⟩ := log_of_mem_record he
        cases hr
      rw [step, List.count_append, hrecord, Nat.zero_add, perform_keypad]
      simp only [hcoded.readsKeypad_iff]
    · intro hblind keys'
      rw [← hcoded.readsKeypad_iff, Bool.not_eq_true] at hblind
      rw [step_eq_carryOut fetched decoded, step_eq_carryOut fetched decoded]
      unfold carryOut
      rw [perform_blind hblind]
    · rw [step] at done
      injection done with done
      rw [← done, perform_event_of_coded hwired hcoded, registers, registers, traced_machine]

/-- The word F018 starts a tone. -/
theorem step_footprint_tone :
    ∃ p : Processor, p.Fresh ∧
      let q := p.run [.step Keypad.released]
      (q.step Keypad.released).result = .ok (some .started) ∧
      q.Footprint Keypad.released 0xF018 (some .started) := by
  have fresh : ({ boot [0x60, 0x05, 0xF0, 0x18] (RandomSource.cycle [7]) 1 (by decide)
      with listeners := [.named "screen"], tracing := true } : Processor).Fresh :=
    .intro (make_eq_ok_iff.mpr ⟨by decide, by decide, rfl⟩) [.named "screen"] true
  obtain ⟨w, hfetch, hfootprint⟩ := step_footprint fresh [.step Keypad.released] Keypad.released
    (show _ = Except.ok (some TimerEvent.started) by decide +kernel)
  obtain rfl : 0xF018 = w := Except.ok.inj (Eq.trans (by decide +kernel) hfetch)
  exact ⟨_, fresh, by decide +kernel, hfootprint⟩

end Processor

end Chip8
