/-
Chip8.Proofs.Processor.Substitution — the text of a word says what the word
does.

Another word is put in the place of the one at the program counter
(`substitute`). If both have the same text, the step goes as it would have
gone: it has the same result, and it leaves the same processor but for the
bytes of that word and the hexadecimal field of the trace line. `Agree`
says of two processors that they are the same but for a word of the memory
and the trace.

There are two cases. Either the word is put in its own place, and nothing
was changed; or both words are the same shift, and a shift looks at
registers only (`step_of_put`).
-/
import Chip8.Proofs.Instruction.Disassembly
import Chip8.Proofs.Machine.Loading
import Chip8.Proofs.Processor.Dispatch

namespace Chip8

/-! ## Putting a word in the place of another -/

theorem Memory.ext_read {m m' : Memory} (size : m.size = m'.size)
    (read : ∀ a, m.read a = m'.read a) : m = m' := by
  cases m with
  | mk bytes =>
    cases m' with
    | mk bytes' =>
      refine congrArg Memory.mk (Array.ext size fun a h h' => ?_)
      have hsame := read a
      simp only [Memory.read, Array.getD_eq_getD_getElem?, Array.getElem?_eq_getElem h,
        Array.getElem?_eq_getElem h', Option.getD_some] at hsame
      exact hsame

/-- The memory with a word at an address. -/
def Memory.patch (m : Memory) (a : Nat) (w : Word) : Memory := m.writeAll a w.bytes

@[simp] theorem Memory.size_patch (m : Memory) (a : Nat) (w : Word) :
    (m.patch a w).size = m.size :=
  m.size_writeAll a w.bytes

/-- What is read after a word was put at `a`. -/
theorem Memory.read_patch {m : Memory} {a : Nat} (room : a + 2 ≤ m.size) (w : Word) (k : Nat) :
    (m.patch a w).read k =
      if k = a then UInt8.ofNat (w.toNat / 256)
      else if k = a + 1 then UInt8.ofNat (w.toNat % 256)
      else m.read k := by
  have hlen : w.bytes.length = 2 := rfl
  split_ifs with hhigh hlow
  · rw [hhigh]
    exact m.read_writeAll_of_inside (i := 0) w.bytes (by omega) (by omega)
  · rw [hlow]
    exact m.read_writeAll_of_inside (i := 1) w.bytes (by omega) (by omega)
  · exact m.read_writeAll_of_outside w.bytes (by omega)

theorem Memory.fetch_patch {m : Memory} {a : Nat} (room : a + 2 ≤ m.size) (w : Word) :
    (m.patch a w).fetch a = .ok w := by
  refine fetch_of_bytes (by rw [size_patch]; exact room) ?_ ?_
  · rw [read_patch room, if_pos rfl]
  · rw [read_patch room, if_neg (by omega), if_pos rfl]

/-- A word in its own place changes nothing. -/
theorem Memory.patch_of_fetch {m : Memory} {a : Nat} {w : Word} (room : a + 2 ≤ m.size)
    (fetched : m.fetch a = .ok w) : m.patch a w = m := by
  obtain ⟨v, hv, hbytes⟩ := exists_fetch room
  obtain rfl : v = w := Except.ok.inj (hv.symm.trans fetched)
  have hsmall := (m.read (a + 1)).toNat_lt
  have hhigh : v.toNat / 256 = (m.read a).toNat := by omega
  have hlow : v.toNat % 256 = (m.read (a + 1)).toNat := by omega
  refine ext_read (size_patch m a v) fun k => ?_
  rw [read_patch room, hhigh, hlow, UInt8.ofNat_toNat, UInt8.ofNat_toNat]
  split_ifs with hk hk'
  · rw [hk]
  · rw [hk']
  · rfl

/-- Of two words put at one place the second is left. -/
theorem Memory.patch_patch {m : Memory} {a : Nat} (room : a + 2 ≤ m.size) (v w : Word) :
    (m.patch a v).patch a w = m.patch a w := by
  refine ext_read (by simp) fun k => ?_
  rw [read_patch (by rwa [size_patch]), read_patch room, read_patch room]
  split_ifs <;> rfl

/-- The machine with a word at an address of its memory. -/
def Machine.patch (m : Machine) (a : Nat) (w : Word) : Machine :=
  { m with memory := m.memory.patch a w }

/-! ## The line of a trace -/

namespace Trace

/-- What stands behind the word in the line of a trace. -/
def behindWord (r : Registers) (text : String) : String :=
  let v := " ".intercalate (r.v.toList.map fun b => Text.Hex.padded 2 b.toNat)
  s!" {filled 16 text} | I: {Text.Hex.padded 3 r.i} " ++ s!"| SP: {r.sp} | V: {v}"

/-- One field of the line shows the word itself. The others show the registers
and the text of the word. -/
theorem line_eq (r : Registers) (w : Word) :
    line r w = Text.Hex.padded 3 r.pc ++ ": " ++ Text.Hex.padded 4 w.toNat ++
      behindWord r (Pattern.disassemble w) := by
  simp only [line, behindWord, String.append_assoc]
  rfl

end Trace

namespace Processor

/-- The processor with another word at its program counter. -/
def substitute (p : Processor) (w : Word) : Processor :=
  p.withMachine (p.machine.patch p.registers.pc.toNat w)

/-- Two processors that are the same but for the word at an address and the
trace: with one word put there, the machines are one. -/
structure Agree (place : Nat) (p q : Processor) : Prop where
  machine : ∀ w, q.machine.patch place w = p.machine.patch place w
  rest : q = { p with machine := q.machine, trace := q.trace }

variable {p : Processor} {a b : Word}

/-- The program counter of a word that is fetched is an address. -/
theorem exists_place (fetched : p.machine.memory.fetch p.registers.pc = .ok a) :
    ∃ place : Nat, p.registers.pc = place ∧ place + 2 ≤ p.machine.memory.size := by
  obtain ⟨h₀, hroom⟩ := Memory.bounds_of_fetch fetched
  exact ⟨p.registers.pc.toNat, by omega, by omega⟩

theorem fetch_substitute (fetched : p.machine.memory.fetch p.registers.pc = .ok a) (w : Word) :
    (p.substitute w).machine.memory.fetch (p.substitute w).registers.pc = .ok w := by
  obtain ⟨place, hpc, room⟩ := exists_place fetched
  show (p.machine.memory.patch p.registers.pc.toNat w).fetch p.registers.pc = .ok w
  rw [hpc]
  exact Memory.fetch_patch room w

theorem substitute_of_fetch (fetched : p.machine.memory.fetch p.registers.pc = .ok a) :
    p.substitute a = p := by
  obtain ⟨place, hpc, room⟩ := exists_place fetched
  have hmemory : p.machine.memory.patch p.registers.pc.toNat a = p.machine.memory := by
    rw [hpc] at fetched ⊢
    exact Memory.patch_of_fetch room fetched
  unfold substitute Machine.patch
  rw [hmemory]
  rfl

/-- The trace line of a word does not depend on the memory. -/
theorem record_substitute (p : Processor) (w v : Word) :
    ((p.substitute w).record v).1.trace = (p.record v).1.trace ∧
      ((p.substitute w).record v).2 = (p.record v).2 := by
  have htracing : (p.substitute w).tracing = p.tracing := rfl
  unfold record
  rw [htracing]
  split <;> exact ⟨rfl, rfl⟩

/-! ## Steps that look at registers only -/

/-- An instruction that puts registers and does nothing else makes a step
that does nothing else. -/
theorem step_of_put {keys : Keypad} {i : Instruction} {f : Registers → Registers}
    (puts : ∀ q : Processor, q.perform keys i = q.put (f q.registers) .advance)
    (fetched : p.machine.memory.fetch p.registers.pc = .ok a)
    (decoded : Instruction.decode a = some i) :
    p.step keys =
      { processor := { p with
          machine := p.machine.mapRegisters fun r => (f r).skip
          trace := (p.record a).1.trace
          steps := p.steps + 1 }
        result := .ok none
        journal := (p.record a).2 } := by
  rw [step_eq_carryOut fetched decoded]
  unfold carryOut
  rw [puts, record_eq]
  simp only [put, List.append_nil]
  rfl

/-! ## The same step -/

/-- One word in the place of another makes the same step. -/
structure SameStep (p : Processor) (a b : Word) (keys : Keypad) : Prop where
  fetched : (p.substitute b).machine.memory.fetch (p.substitute b).registers.pc = .ok b
  result : ((p.substitute b).step keys).result = (p.step keys).result
  processor : Agree p.registers.pc.toNat (p.step keys).processor ((p.substitute b).step keys).processor
  /-- Both traces are what they were, with the line of the word if tracing is
  on. -/
  trace : (p.step keys).processor.trace = (p.record a).1.trace ∧
    ((p.substitute b).step keys).processor.trace = (p.record b).1.trace
  /-- The journals start with what the trace line makes them start with, and
  go on in the same way. -/
  journal : ∃ others, (p.step keys).journal = (p.record a).2 ++ others ∧
    ((p.substitute b).step keys).journal = (p.record b).2 ++ others

theorem agree_refl (place : Nat) (p : Processor) : Agree place p p :=
  ⟨fun _ => rfl, rfl⟩

/-- What tracing adds to a step stands at the end of the trace and at the start
of the journal. -/
theorem step_trace (fetched : p.machine.memory.fetch p.registers.pc = .ok a) (keys : Keypad) :
    (p.step keys).processor.trace = (p.record a).1.trace ∧
      ∃ others, (p.step keys).journal = (p.record a).2 ++ others := by
  have htraced : p.traced = (p.record a).1 := traced_of_fetch fetched
  have hword : ∀ w, p.machine.memory.fetch p.machine.registers.pc = .ok w → w = a :=
    fun w h => Except.ok.inj (h.symm.trans fetched)
  cases p.stepCase keys with
  | unfetched f unfetched =>
    exact nomatch unfetched.symm.trans fetched
  | undecoded w hfetch decoded step =>
    rw [step, htraced, hword w hfetch]
    exact ⟨rfl, _, rfl⟩
  | failed w i f hfetch decoded flow step =>
    rw [step, htraced, hword w hfetch, perform_processor]
    exact ⟨rfl, _, rfl⟩
  | done w i flow hfetch decoded flowed step =>
    rw [step, htraced, hword w hfetch, perform_processor]
    cases flow with
    | advance | stay => exact ⟨rfl, _, rfl⟩

theorem sameStep_refl (fetched : p.machine.memory.fetch p.registers.pc = .ok a) (keys : Keypad) :
    p.SameStep a a keys := by
  obtain ⟨htrace, others, hjournal⟩ := step_trace fetched keys
  refine ⟨fetch_substitute fetched a, ?_, ?_, ?_, others, ?_⟩
  · rw [substitute_of_fetch fetched]
  · rw [substitute_of_fetch fetched]
    exact agree_refl _ _
  · rw [substitute_of_fetch fetched]
    exact ⟨htrace, htrace⟩
  · rw [substitute_of_fetch fetched]
    exact ⟨hjournal, hjournal⟩

/-- Two words for one instruction that puts registers only. -/
theorem sameStep_of_put {keys : Keypad} {i : Instruction} {f : Registers → Registers}
    (puts : ∀ q : Processor, q.perform keys i = q.put (f q.registers) .advance)
    (fetched : p.machine.memory.fetch p.registers.pc = .ok a)
    (ha : Instruction.decode a = some i) (hb : Instruction.decode b = some i) :
    p.SameStep a b keys := by
  have hfetch := fetch_substitute fetched b
  have room : p.registers.pc.toNat + 2 ≤ p.machine.memory.size := by
    obtain ⟨place, hpc, hplace⟩ := exists_place fetched
    omega
  obtain ⟨htrace, hjournal⟩ := record_substitute p b b
  have hp := step_of_put puts fetched ha
  have hq := step_of_put puts hfetch hb
  rw [htrace, hjournal] at hq
  refine ⟨hfetch, ?_, ?_, ?_, [], ?_⟩
  · rw [hp, hq]
  · rw [hp, hq]
    refine ⟨fun w => ?_, rfl⟩
    have hmemory := Memory.patch_patch room b w
    exact congrArg (fun memory => { p.machine.mapRegisters fun r => (f r).skip with memory }) hmemory
  · rw [hp, hq]
    exact ⟨rfl, rfl⟩
  · rw [hp, hq]
    exact ⟨(List.append_nil _).symm, (List.append_nil _).symm⟩

/-- **Words with the same text make the same step.** -/
theorem sameStep_of_text (fetched : p.machine.memory.fetch p.registers.pc = .ok a)
    (same : Pattern.disassemble a = Pattern.disassemble b) (keys : Keypad) :
    p.SameStep a b keys := by
  rcases (Word.disassemble_eq_iff a b).mp same with rfl | ⟨x, ⟨ha, hb⟩ | ⟨ha, hb⟩⟩
  · exact sameStep_refl fetched keys
  · exact sameStep_of_put (i := .shiftRight x) (f := (·.shiftRight x)) (fun _ => rfl) fetched
      (Instruction.decode_of_coded ha) (Instruction.decode_of_coded hb)
  · exact sameStep_of_put (i := .shiftLeft x) (f := (·.shiftLeft x)) (fun _ => rfl) fetched
      (Instruction.decode_of_coded ha) (Instruction.decode_of_coded hb)

/-! ## The statement -/

/-- **The text of a word determines what it does.** Two different words have
the same text exactly if both are the same shift of the same register, so an
illegal word shares its text with no legal one. Wherever one of two words with the
same text is fetched, the other in its place makes the step with the same
result, which leaves the same processor but for the bytes of the word and the
trace; and of the trace line, only the hexadecimal field of the word differs. -/
theorem text_determines_effect (a b : Word) :
    (Pattern.disassemble a = Pattern.disassemble b ↔ a = b ∨ a.SameShift b) ∧
    (Pattern.disassemble a = Pattern.disassemble b →
      Pattern.isIllegal a = Pattern.isIllegal b ∧
      (∀ (p : Processor) (keys : Keypad), p.machine.memory.fetch p.registers.pc = .ok a →
        p.SameStep a b keys) ∧
      ∀ r : Registers, ∃ front back,
        Trace.line r a = front ++ Text.Hex.padded 4 a.toNat ++ back ∧
        Trace.line r b = front ++ Text.Hex.padded 4 b.toNat ++ back) := by
  refine ⟨Word.disassemble_eq_iff a b, fun same => ⟨Pattern.isIllegal_of_text same, ?_, ?_⟩⟩
  · intro p keys fetched
    exact sameStep_of_text fetched same keys
  · intro r
    refine ⟨Text.Hex.padded 3 r.pc ++ ": ", Trace.behindWord r (Pattern.disassemble a),
      Trace.line_eq r a, ?_⟩
    rw [same]
    exact Trace.line_eq r b

/-- The words 8AB6 and 8AC6 shift VA to the right, and put in each other's place
make the same step, traced or not. -/
theorem text_determines_effect_shift :
    ∃ p : Processor, p.tracing = true ∧ p.machine.memory.fetch p.registers.pc = .ok 0x8AB6 ∧
      Pattern.disassemble 0x8AB6 = Pattern.disassemble 0x8AC6 ∧
      p.SameStep 0x8AB6 0x8AC6 Keypad.released := by
  obtain ⟨htexts, heffect⟩ := text_determines_effect 0x8AB6 0x8AC6
  have hsame := htexts.mpr (Or.inr ⟨0xA, Or.inl ⟨⟨rfl, rfl, rfl⟩, rfl, rfl, rfl⟩⟩)
  have fetched : (boot [0x8A, 0xB6] (RandomSource.cycle []) 1 (by decide)).machine.memory.fetch
      (boot [0x8A, 0xB6] (RandomSource.cycle []) 1 (by decide)).registers.pc = .ok 0x8AB6 := by
    decide +kernel
  exact ⟨{ boot [0x8A, 0xB6] (RandomSource.cycle []) 1 (by decide) with tracing := true }, rfl,
    fetched, hsame, (heffect hsame).2.1 _ _ fetched⟩

end Processor

end Chip8
