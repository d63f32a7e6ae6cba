/-
Chip8.Proofs.Processor.Failure — when a step fails, read off the word at
the program counter.

`Machine.Hurdle` is what a word meets on a machine, told from the digits of
the word: a reserved word, a return with no call open, a call with every
slot taken, a move of bytes that leaves the memory. `Word.span?` is the
number of bytes that a word moves. On a machine in range the hurdle of the
word is what the next step is refused for (`Machine.refusal_eq_some_iff`),
so with a proper host a step fails exactly with it, and succeeds without
one. `fails_exactly` says so condition by condition (`Failures`), at every
moment of every run.
-/
import Chip8.Proofs.Instruction.Coding
import Chip8.Proofs.Processor.Dispatch
import Chip8.Proofs.Processor.Safety

namespace Chip8

/-- The number of bytes that a word moves at the index register, if it stands
for such a move: the rows of a sprite, three digits, or registers up to a
last one. -/
def Word.span? (w : Word) : Option Nat :=
  match w.family.val, w.byte.toNat with
  | 0xD, _ => some w.nibble.val
  | 0xF, 0x33 => some 3
  | 0xF, 0x55 | 0xF, 0x65 => some (w.x.val + 1)
  | _, _ => none

/-- A word that moves bytes is an instruction, and neither returns nor calls. -/
theorem Word.apart_of_span {w : Word} {count : Nat} (h : w.span? = some count) :
    ¬w.Reserved ∧ w ≠ 0x00EE ∧ w.family.val ≠ 0x2 := by
  have hfamily : ¬w.Reserved ∧ (w.family.val = 0xD ∨ w.family.val = 0xF) := by
    unfold span? at h
    split at h
    case h_1 hfamily => simp [Reserved, hfamily]
    case h_5 => cases h
    all_goals
      rename_i hfamily hbyte
      simp [Reserved, hfamily, hbyte]
  refine ⟨hfamily.1, ?_, by omega⟩
  rintro rfl
  exact absurd hfamily.2 (by decide)

/-- A reserved word neither returns nor calls nor moves bytes. -/
theorem Word.Reserved.apart {w : Word} (h : w.Reserved) :
    w ≠ 0x00EE ∧ w.family.val ≠ 0x2 ∧ w.span? = none := by
  refine ⟨?_, ?_, ?_⟩
  · rintro rfl
    exact h.2 rfl
  · intro hcall
    simp [Word.Reserved, hcall] at h
  · rw [Option.eq_none_iff_forall_ne_some]
    intro count hspan
    exact (Word.apart_of_span hspan).1 h

namespace Machine

/-- What a word meets on a machine, told from the digits of the word. -/
inductive Hurdle (m : Machine) (w : Word) : Fault → Prop
  /-- The word fits no pattern. -/
  | illegal (reserved : Pattern.isIllegal w = true) :
      m.Hurdle w (.illegalInstruction w.toNat m.registers.pc)
  /-- A return, and no call is open. -/
  | underflow (returns : w = 0x00EE) (empty : m.registers.sp = -1) :
      m.Hurdle w (.stackUnderflow m.registers.pc)
  /-- A call, and every slot is taken. -/
  | overflow (calls : w.family.val = 0x2) (full : m.registers.sp = 15) :
      m.Hurdle w (.stackOverflow m.registers.pc)
  /-- Bytes are moved, and the last of them lies beyond the memory. -/
  | outside (count : Nat) (moves : w.span? = some count) (beyond : 4096 < m.registers.i + count) :
      m.Hurdle w (.accessOutOfBounds m.registers.i count 4096)

variable {m : Machine} {w : Word} {i : Instruction} {f : Fault} {top : Int}

/-! ## Obstacles, told from the word -/

/-- The obstacle of an instruction, told from the word it was decoded from. -/
theorem obstacle_of_decode (decoded : Instruction.decode w = some i) (m : Machine) :
    m.obstacle? i =
      if w = 0x00EE then
        if m.registers.sp ≤ -1 then some (.stackUnderflow m.registers.pc) else none
      else if w.family.val = 0x2 then
        if 15 ≤ m.registers.sp then some (.stackOverflow m.registers.pc) else none
      else w.span?.bind m.outside? := by
  have hcoded := Instruction.coded_of_decode decoded
  have hother : w.family.val ≠ 0 → w ≠ 0x00EE := by
    rintro hfamily rfl
    exact hfamily rfl
  cases i with
  | clear | ret =>
    obtain rfl := hcoded
    rfl
  | awaitKey | addIndex | getDelay | setDelay | setSound | glyph | digits | store | load
  | skipPressed | skipReleased =>
    obtain ⟨hfamily, hbyte, rfl⟩ := hcoded
    rw [if_neg (hother (by omega))]
    simp [obstacle?, Word.span?, hfamily, hbyte]
  | draw =>
    obtain ⟨hfamily, rfl, rfl, rfl⟩ := hcoded
    rw [if_neg (hother (by omega))]
    simp [obstacle?, Word.span?, hfamily]
  | _ =>
    have hfamily := hcoded.1
    rw [if_neg (hother (by omega))]
    simp [obstacle?, Word.span?, hfamily]

theorem outside_of_inRange (h : m.InRange top) (count : Nat) :
    m.outside? count =
      if 4096 < m.registers.i + count then some (.accessOutOfBounds m.registers.i count 4096)
      else none := by
  have hi := h.registers.i_nonneg
  have hsize : m.memory.size = 4096 := h.memory
  unfold outside?
  rw [hsize]
  congr 1
  simp only [Nat.cast_ofNat, eq_iff_iff, or_iff_right_iff_imp]
  omega

/-! ## Refusals, told from the word -/

/-- What the next step is refused for is what the word meets that it fetches. -/
theorem refusal_eq_some_iff (h : m.InRange top)
    (fetched : m.memory.fetch m.registers.pc = .ok w) :
    m.refusal? = some f ↔ m.Hurdle w f := by
  have hlow := h.registers.sp_ge
  have hhigh := h.registers.sp_le
  unfold refusal?
  rw [fetched]
  cases hdecode : Instruction.decode w with
  | none =>
    have hreserved : w.Reserved := (Instruction.decode_eq_none_iff w).mp hdecode
    obtain ⟨hret, hcall, hspan⟩ := hreserved.apart
    simp only [hdecode, Option.some.injEq]
    constructor
    · rintro rfl
      exact .illegal ((Pattern.isIllegal_iff w).mpr hreserved)
    · intro hhurdle
      cases hhurdle with
      | illegal reserved => rfl
      | underflow returns empty => exact absurd returns hret
      | overflow calls full => exact absurd calls hcall
      | outside count moves beyond =>
        rw [hspan] at moves
        cases moves
  | some i =>
    have hlegal : ¬Pattern.isIllegal w = true := by
      rw [Pattern.isIllegal_iff, ← Instruction.decode_eq_none_iff, hdecode]
      exact Option.some_ne_none i
    simp only [hdecode]
    rw [obstacle_of_decode hdecode]
    constructor
    · intro hob
      split_ifs at hob with hret hempty hcall hfull
      · injection hob with hob
        rw [← hob]
        exact .underflow hret (by omega)
      · injection hob with hob
        rw [← hob]
        exact .overflow hcall (by omega)
      · obtain ⟨count, hspan, hout⟩ := Option.bind_eq_some_iff.mp hob
        rw [outside_of_inRange h] at hout
        split_ifs at hout with hbeyond
        injection hout with hout
        rw [← hout]
        exact .outside count hspan hbeyond
    · intro hhurdle
      cases hhurdle with
      | illegal reserved => exact absurd reserved hlegal
      | underflow returns empty => rw [if_pos returns, if_pos (by omega)]
      | overflow calls full =>
        have hret : w ≠ 0x00EE := by
          rintro rfl
          revert calls
          decide
        rw [if_neg hret, if_pos calls, if_pos (by omega)]
      | outside count moves beyond =>
        obtain ⟨-, hret, hcall⟩ := Word.apart_of_span moves
        rw [if_neg hret, if_neg hcall, moves, Option.bind_some, outside_of_inRange h, if_pos beyond]

end Machine

namespace Processor

/-- How a step fails with the word `w` at the program counter, and when it
does not. -/
structure Failures (p : Processor) (keys : Keypad) (w : Word) : Prop where
  illegal : (p.step keys).result = .error (.illegalInstruction w.toNat p.registers.pc) ↔
    Pattern.isIllegal w = true
  underflow : (p.step keys).result = .error (.stackUnderflow p.registers.pc) ↔
    w = 0x00EE ∧ p.registers.sp = -1
  overflow : (p.step keys).result = .error (.stackOverflow p.registers.pc) ↔
    w.family.val = 0x2 ∧ p.registers.sp = 15
  outside : ∀ count, (p.step keys).result = .error (.accessOutOfBounds p.registers.i count 4096) ↔
    w.span? = some count ∧ 4096 < p.registers.i + count
  /-- In every other case the step succeeds, and counts. -/
  success : Pattern.isIllegal w = false → ¬(w = 0x00EE ∧ p.registers.sp = -1) →
    ¬(w.family.val = 0x2 ∧ p.registers.sp = 15) →
    (∀ count, w.span? = some count → p.registers.i + count ≤ 4096) →
    ∃ event, (p.step keys).result = .ok event ∧ (p.step keys).processor.steps = p.steps + 1
  /-- The last byte of the memory can be moved. -/
  lastByte : ∀ count, w.span? = some count → p.registers.i + count = 4096 →
    ∃ event, (p.step keys).result = .ok event
  /-- Waiting for a key does not fail. -/
  keyWait : w.family.val = 0xF → w.byte.toNat = 0x0A → ∃ event, (p.step keys).result = .ok event

/-- A step fails exactly with what the word meets at the program counter. -/
theorem step_error_iff_hurdle {p : Processor} {keys : Keypad} {w : Word} {f : Fault}
    (hm : p.machine.InRange (lastFetch + 4)) (hs : p.Served keys)
    (fetched : p.machine.memory.fetch p.registers.pc = .ok w) :
    (p.step keys).result = .error f ↔ p.machine.Hurdle w f := by
  rw [step_error_iff hm hs, Machine.refusal_eq_some_iff hm fetched]

theorem step_ok_of_no_hurdle {p : Processor} {keys : Keypad} {w : Word}
    (hm : p.machine.InRange (lastFetch + 4)) (hs : p.Served keys)
    (fetched : p.machine.memory.fetch p.registers.pc = .ok w)
    (clear : ∀ f, ¬p.machine.Hurdle w f) : ∃ event, (p.step keys).result = .ok event := by
  refine step_ok_of_clear hm hs (Option.eq_none_iff_forall_ne_some.mpr fun f hf => ?_)
  exact clear f ((Machine.refusal_eq_some_iff hm fetched).mp hf)

/-- What a word meets, condition by condition. -/
theorem failures {p : Processor} {keys : Keypad} {w : Word}
    (hm : p.machine.InRange (lastFetch + 4)) (hs : p.Served keys)
    (fetched : p.machine.memory.fetch p.registers.pc = .ok w) : p.Failures keys w := by
  have hfails := fun f => step_error_iff_hurdle (f := f) hm hs fetched
  have hsucceeds : Pattern.isIllegal w = false → ¬(w = 0x00EE ∧ p.registers.sp = -1) →
      ¬(w.family.val = 0x2 ∧ p.registers.sp = 15) →
      (∀ count, w.span? = some count → p.registers.i + count ≤ 4096) →
      ∃ event, (p.step keys).result = .ok event := by
    intro hlegal hret hcall hspan
    refine step_ok_of_no_hurdle hm hs fetched fun f hf => ?_
    cases hf with
    | illegal reserved =>
      rw [hlegal] at reserved
      cases reserved
    | underflow returns empty => exact hret ⟨returns, empty⟩
    | overflow calls full => exact hcall ⟨calls, full⟩
    | outside count moves beyond =>
      have hle := hspan count moves
      unfold registers at hle
      omega
  have hlegal : ¬w.Reserved → Pattern.isIllegal w = false := by
    intro h
    rw [← Pattern.isIllegal_iff] at h
    exact Bool.eq_false_iff.mpr h
  refine ⟨?_, ?_, ?_, ?_, ?_, ?_, ?_⟩
  · rw [hfails]
    constructor
    · intro h
      cases h with
      | illegal reserved => exact reserved
    · exact .illegal
  · rw [hfails]
    constructor
    · intro h
      cases h with
      | underflow returns empty => exact ⟨returns, empty⟩
    · rintro ⟨returns, empty⟩
      exact .underflow returns empty
  · rw [hfails]
    constructor
    · intro h
      cases h with
      | overflow calls full => exact ⟨calls, full⟩
    · rintro ⟨calls, full⟩
      exact .overflow calls full
  · intro count
    rw [hfails]
    constructor
    · intro h
      cases h with
      | outside _ moves beyond => exact ⟨moves, beyond⟩
    · rintro ⟨moves, beyond⟩
      exact .outside count moves beyond
  · intro legal hret hcall hspan
    obtain ⟨event, hevent⟩ := hsucceeds legal hret hcall hspan
    have hsteps := p.step_steps keys
    rw [hevent] at hsteps
    exact ⟨event, hevent, hsteps⟩
  · intro count hspan hlast
    obtain ⟨hinstruction, hret, hcall⟩ := Word.apart_of_span hspan
    refine hsucceeds (hlegal hinstruction) (fun h => hret h.1) (fun h => hcall h.1) ?_
    intro other hother
    rw [hspan] at hother
    injection hother with hother
    omega
  · intro hfamily hbyte
    have hinstruction : ¬w.Reserved := by simp [Word.Reserved, hfamily, hbyte]
    have hspan : w.span? = none := by simp [Word.span?, hfamily, hbyte]
    refine hsucceeds (hlegal hinstruction) ?_ (fun h => by omega) ?_
    · rintro ⟨rfl, -⟩
      exact absurd hfamily (by decide)
    · intro count hcount
      rw [hspan] at hcount
      cases hcount

/-! ## The statement -/

/-- **A step fails exactly when it must, and with the right fault.** At
every moment of every run of a fresh processor with live listeners, and with
sixteen keys: from an address where no whole word lies the step fails with
that address; elsewhere it fetches the word that lies there, high byte
first, and fails with it, or not, as `Failures` says. -/
theorem fails_exactly {p : Processor} (fresh : p.Fresh) (live : Listener.dead ∉ p.listeners)
    (cs : List Command) {keys : Keypad} (pad : keys.length = 16) :
    (4096 < (p.run cs).registers.pc + 2 →
      ((p.run cs).step keys).result = .error (.fetchOutOfBounds (p.run cs).registers.pc)) ∧
    ((p.run cs).registers.pc + 2 ≤ 4096 → ∃ (a : Nat) (w : Word),
      (p.run cs).registers.pc = a ∧
      w.toNat = 256 * ((p.run cs).machine.memory.read a).toNat +
        ((p.run cs).machine.memory.read (a + 1)).toNat ∧
      (p.run cs).Failures keys w) := by
  have hq := fresh.regular.run cs
  have hserved : (p.run cs).Served keys := ⟨pad, by rwa [run_listeners]⟩
  constructor
  · intro hbeyond
    rw [step_of_beyond hq.machine (by omega)]
  · intro hinside
    have hpc := Int.toNat_of_nonneg hq.machine.registers.pc_nonneg
    have hsize : (p.run cs).machine.memory.size = 4096 := hq.machine.memory
    obtain ⟨w, hfetch, hw⟩ := Memory.exists_fetch (m := (p.run cs).machine.memory)
      (a := (p.run cs).registers.pc.toNat) (by unfold registers at hinside ⊢; omega)
    have hat : (p.run cs).registers.pc = (p.run cs).registers.pc.toNat := hpc.symm
    rw [← hat] at hfetch
    exact ⟨_, w, hat, hw, failures hq.machine hserved hfetch⟩

/-- A sprite of two rows at the last address leaves the memory. -/
theorem fails_exactly_sprite_at_end :
    ∃ p : Processor, p.Fresh ∧ p.listeners = [.named "screen"] ∧
      ((p.run [.step Keypad.released]).step Keypad.released).result =
        .error (.accessOutOfBounds 0xFFF 2 4096) := by
  have fresh : ({ boot [0xAF, 0xFF, 0xD0, 0x12] (RandomSource.cycle []) 1 (by decide) with
      listeners := [.named "screen"], tracing := false } : Processor).Fresh :=
    .intro (make_eq_ok_iff.mpr ⟨by decide, by decide, rfl⟩) [.named "screen"] false
  have pad : Keypad.released.length = 16 := by decide
  obtain ⟨-, hinside⟩ := fails_exactly fresh (by decide) [.step Keypad.released] pad
  obtain ⟨a, w, ha, hw, hfails⟩ := hinside (by decide +kernel)
  have haddress : (0x202 : Int) = a := Eq.trans (by decide +kernel) ha
  obtain rfl : 0x202 = a := Int.ofNat.inj haddress
  obtain rfl : w = 0xD012 := UInt16.toNat_inj.mp (hw.trans (by decide +kernel))
  have hfailed := (hfails.outside 2).mpr ⟨by decide, by decide +kernel⟩
  exact ⟨_, fresh, rfl, hfailed.trans (by decide +kernel)⟩

end Processor

end Chip8
