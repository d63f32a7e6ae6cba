/-
Chip8.Proofs.Instruction.Coding — the words of each instruction.

`Instruction.Coded` says of each instruction which digits a word for it has
and where in the word its operands are. It reads the decoder the other way
round: `decode_eq_some_iff` says that a word is decoded to an instruction
exactly if it is one of that instruction's words. What is told of an
instruction can so be told of its words, without a look at the decoder.
-/
import Mathlib.Tactic
import Chip8.Instruction.Basic

namespace Chip8

namespace Word

variable (w : Word) (family : Nat)

/-! ## The forms of words -/

/-- A family with an address. -/
def AddressForm (a : Address) : Prop := w.family.val = family ∧ a = w.address

/-- A family with a register and a byte. -/
def ByteForm (x : Index) (k : Byte) : Prop := w.family.val = family ∧ x = w.x ∧ k = w.byte

/-- A family with two registers, and an operation in the last nibble. -/
def PairForm (nibble : Nat) (x y : Index) : Prop :=
  w.family.val = family ∧ w.nibble.val = nibble ∧ x = w.x ∧ y = w.y

/-- A family with one register, and an operation in the last nibble. -/
def ShiftForm (nibble : Nat) (x : Index) : Prop :=
  w.family.val = family ∧ w.nibble.val = nibble ∧ x = w.x

/-- A family with one register, and an operation in the low byte. -/
def SingleForm (byte : Nat) (x : Index) : Prop :=
  w.family.val = family ∧ w.byte.toNat = byte ∧ x = w.x

end Word

namespace Instruction

/-- Whether a word is one of the words of an instruction. -/
def Coded (w : Word) : Instruction → Prop
  | .clear => w = 0x00E0
  | .ret => w = 0x00EE
  | .jump target => w.AddressForm 0x1 target
  | .call target => w.AddressForm 0x2 target
  | .skipEqByte x k => w.ByteForm 0x3 x k
  | .skipNeByte x k => w.ByteForm 0x4 x k
  | .skipEq x y => w.PairForm 0x5 0x0 x y
  | .setByte x k => w.ByteForm 0x6 x k
  | .addByte x k => w.ByteForm 0x7 x k
  | .copy x y => w.PairForm 0x8 0x0 x y
  | .or x y => w.PairForm 0x8 0x1 x y
  | .and x y => w.PairForm 0x8 0x2 x y
  | .xor x y => w.PairForm 0x8 0x3 x y
  | .add x y => w.PairForm 0x8 0x4 x y
  | .sub x y => w.PairForm 0x8 0x5 x y
  | .shiftRight x => w.ShiftForm 0x8 0x6 x
  | .subFrom x y => w.PairForm 0x8 0x7 x y
  | .shiftLeft x => w.ShiftForm 0x8 0xE x
  | .skipNe x y => w.PairForm 0x9 0x0 x y
  | .setIndex a => w.AddressForm 0xA a
  | .jumpOffset a => w.AddressForm 0xB a
  | .random x mask => w.ByteForm 0xC x mask
  | .draw x y rows => w.family.val = 0xD ∧ x = w.x ∧ y = w.y ∧ rows = w.nibble
  | .skipPressed x => w.SingleForm 0xE 0x9E x
  | .skipReleased x => w.SingleForm 0xE 0xA1 x
  | .getDelay x => w.SingleForm 0xF 0x07 x
  | .awaitKey x => w.SingleForm 0xF 0x0A x
  | .setDelay x => w.SingleForm 0xF 0x15 x
  | .setSound x => w.SingleForm 0xF 0x18 x
  | .addIndex x => w.SingleForm 0xF 0x1E x
  | .glyph x => w.SingleForm 0xF 0x29 x
  | .digits x => w.SingleForm 0xF 0x33 x
  | .store x => w.SingleForm 0xF 0x55 x
  | .load x => w.SingleForm 0xF 0x65 x

variable {w : Word} {i : Instruction}

/-! ## The decoder, family by family -/

theorem coded_of_decodeArithmetic (family : w.family.val = 0x8)
    (decoded : decodeArithmetic w = some i) : i.Coded w := by
  unfold decodeArithmetic at decoded
  split at decoded <;> cases decoded
  case h_7 nibble | h_9 nibble => exact ⟨family, nibble, rfl⟩
  all_goals exact ⟨family, ‹_›, rfl, rfl⟩

theorem coded_of_decodeKeypad (family : w.family.val = 0xE) (decoded : decodeKeypad w = some i) :
    i.Coded w := by
  unfold decodeKeypad at decoded
  split at decoded <;> cases decoded
  all_goals exact ⟨family, ‹_›, rfl⟩

theorem coded_of_decodeExtended (family : w.family.val = 0xF)
    (decoded : decodeExtended w = some i) : i.Coded w := by
  unfold decodeExtended at decoded
  split at decoded <;> cases decoded
  all_goals exact ⟨family, ‹_›, rfl⟩

theorem coded_of_decode (decoded : decode w = some i) : i.Coded w := by
  have hlt := w.family.isLt
  unfold decode at decoded
  generalize hfamily : w.family.val = family at decoded hlt
  interval_cases family
  case «0» =>
    simp only at decoded
    split_ifs at decoded with hclear hret
    · cases decoded
      exact hclear
    · cases decoded
      exact hret
  case «5» | «9» =>
    simp only [Option.ite_none_right_eq_some, Option.some.injEq] at decoded
    obtain ⟨hnibble, rfl⟩ := decoded
    exact ⟨hfamily, hnibble, rfl, rfl⟩
  case «8» => exact coded_of_decodeArithmetic hfamily decoded
  case «14» => exact coded_of_decodeKeypad hfamily decoded
  case «15» => exact coded_of_decodeExtended hfamily decoded
  case «13» =>
    cases decoded
    exact ⟨hfamily, rfl, rfl, rfl⟩
  case «1» | «2» | «10» | «11» =>
    cases decoded
    exact ⟨hfamily, rfl⟩
  all_goals
    cases decoded
    exact ⟨hfamily, rfl, rfl⟩

theorem decode_of_coded (coded : i.Coded w) : decode w = some i := by
  cases i with
  | clear | ret =>
    obtain rfl := coded
    decide
  | jump | call | setIndex | jumpOffset =>
    obtain ⟨hfamily, rfl⟩ := coded
    simp [decode, hfamily]
  | skipEqByte | skipNeByte | setByte | addByte | random =>
    obtain ⟨hfamily, rfl, rfl⟩ := coded
    simp [decode, hfamily]
  | skipEq | skipNe =>
    obtain ⟨hfamily, hnibble, rfl, rfl⟩ := coded
    simp [decode, hfamily, hnibble]
  | copy | or | and | xor | add | sub | subFrom =>
    obtain ⟨hfamily, hnibble, rfl, rfl⟩ := coded
    simp [decode, decodeArithmetic, hfamily, hnibble]
  | shiftRight | shiftLeft =>
    obtain ⟨hfamily, hnibble, rfl⟩ := coded
    simp [decode, decodeArithmetic, hfamily, hnibble]
  | draw =>
    obtain ⟨hfamily, rfl, rfl, rfl⟩ := coded
    simp [decode, hfamily]
  | skipPressed | skipReleased =>
    obtain ⟨hfamily, hbyte, rfl⟩ := coded
    simp [decode, decodeKeypad, hfamily, hbyte]
  | getDelay | awaitKey | setDelay | setSound | addIndex | glyph | digits | store | load =>
    obtain ⟨hfamily, hbyte, rfl⟩ := coded
    simp [decode, decodeExtended, hfamily, hbyte]

/-- **A word is decoded to an instruction exactly if it is one of its words.** -/
theorem decode_eq_some_iff : decode w = some i ↔ i.Coded w := ⟨coded_of_decode, decode_of_coded⟩

end Instruction

end Chip8
