/-
Chip8.Proofs.Instruction.Table — the words that are no instruction, and
the table of patterns.

The decoder goes through the families of words and the table through its
masks. Both leave out the same words, and `Word.Reserved` says which:

* `decode_eq_none_iff` — the decoder has no instruction for a word exactly
  if the word is reserved.
* `find?_eq_none_iff` — no pattern fits a word exactly if it is reserved.
* `countP_matches_le_one`, `find?_of_perm` — no two patterns fit the same
  word, so the order in which they are tried is of no importance.

A mask keeps whole nibbles, so what a pattern tests is the family of a
word with its last nibble, its low byte or nothing (`matches_family`,
`matches_nibble`, `matches_byte`).
-/
import Mathlib.Tactic
import Chip8.Instruction.Basic
import Chip8.Instruction.Pattern

namespace Chip8

namespace Word

/-! ## Masks -/

/-- Reading four bits commutes with taking bits in common. -/
theorem nibble_and (a b k : Nat) :
    (a &&& b) / 2 ^ k % 2 ^ 4 = (a / 2 ^ k % 2 ^ 4) &&& (b / 2 ^ k % 2 ^ 4) := by
  rw [Nat.and_div_two_pow, Nat.and_mod_two_pow]

theorem byte_toNat (w : Word) : w.byte.toNat = 16 * w.y.val + w.nibble.val := by
  simp only [byte, y, nibble, UInt8.toNat_ofNat']
  omega

/-- A word under a mask, nibble by nibble. -/
theorem toNat_and_eq (w m : Word) :
    (w &&& m).toNat =
      4096 * (w.family.val &&& m.family.val) + 256 * (w.x.val &&& m.x.val) +
        16 * (w.y.val &&& m.y.val) + (w.nibble.val &&& m.nibble.val) := by
  have hfamily : (w &&& m).family.val = w.family.val &&& m.family.val :=
    (congrArg (· / 2 ^ 12 % 2 ^ 4) (UInt16.toNat_and w m)).trans (nibble_and _ _ 12)
  have hx : (w &&& m).x.val = w.x.val &&& m.x.val :=
    (congrArg (· / 2 ^ 8 % 2 ^ 4) (UInt16.toNat_and w m)).trans (nibble_and _ _ 8)
  have hy : (w &&& m).y.val = w.y.val &&& m.y.val :=
    (congrArg (· / 2 ^ 4 % 2 ^ 4) (UInt16.toNat_and w m)).trans (nibble_and _ _ 4)
  have hnibble : (w &&& m).nibble.val = w.nibble.val &&& m.nibble.val := by
    simp only [nibble, UInt16.toNat_and]
    exact Nat.and_mod_two_pow (n := 4)
  rw [toNat_eq, hfamily, hx, hy, hnibble]

/-- A full mask keeps a nibble as it is. -/
theorem and_full (n : Fin 16) : n.val &&& 15 = n.val :=
  Nat.and_two_pow_sub_one_of_lt_two_pow (n := 4) n.isLt

theorem toNat_and_family (w : Word) : (w &&& 0xF000).toNat = 4096 * w.family.val := by
  have h := toNat_and_eq w 0xF000
  change _ = 4096 * (w.family.val &&& 15) + 256 * (w.x.val &&& 0) + 16 * (w.y.val &&& 0) +
    (w.nibble.val &&& 0) at h
  simpa only [and_full, Nat.and_zero, Nat.mul_zero, Nat.add_zero] using h

theorem toNat_and_nibble (w : Word) :
    (w &&& 0xF00F).toNat = 4096 * w.family.val + w.nibble.val := by
  have h := toNat_and_eq w 0xF00F
  change _ = 4096 * (w.family.val &&& 15) + 256 * (w.x.val &&& 0) + 16 * (w.y.val &&& 0) +
    (w.nibble.val &&& 15) at h
  simpa only [and_full, Nat.and_zero, Nat.mul_zero, Nat.add_zero] using h

theorem toNat_and_byte (w : Word) :
    (w &&& 0xF0FF).toNat = 4096 * w.family.val + w.byte.toNat := by
  have h := toNat_and_eq w 0xF0FF
  change _ = 4096 * (w.family.val &&& 15) + 256 * (w.x.val &&& 0) + 16 * (w.y.val &&& 15) +
    (w.nibble.val &&& 15) at h
  rw [h, byte_toNat, and_full, and_full, and_full, Nat.and_zero]
  omega

theorem and_word (w : Word) : w &&& 0xFFFF = w := by
  refine UInt16.toNat_inj.mp ?_
  rw [UInt16.toNat_and]
  exact Nat.and_two_pow_sub_one_of_lt_two_pow (n := 16) w.toNat_lt

end Word

namespace Pattern

/-! ## What a pattern tests -/

variable {w v : Word} {name : String} {operands : List Operand}

theorem matches_iff (p : Pattern) (w : Word) :
    p.Matches w = true ↔ (w &&& p.mask).toNat = p.value.toNat := by
  unfold Matches
  rw [beq_iff_eq, UInt16.toNat_inj]

theorem matches_word :
    (⟨0xFFFF, v, name, operands⟩ : Pattern).Matches w = true ↔
      w.family.val = v.toNat / 4096 ∧ w = v := by
  rw [matches_iff, Word.and_word, UInt16.toNat_inj]
  refine ⟨fun h => ⟨?_, h⟩, fun h => h.2⟩
  have hlt := v.toNat_lt
  rw [h]
  show v.toNat / 4096 % 16 = v.toNat / 4096
  omega

theorem matches_family (low : v.toNat % 4096 = 0) :
    (⟨0xF000, v, name, operands⟩ : Pattern).Matches w = true ↔
      w.family.val = v.toNat / 4096 := by
  rw [matches_iff, Word.toNat_and_family]
  show _ = v.toNat ↔ _
  omega

theorem matches_nibble (low : v.toNat % 4096 < 16) :
    (⟨0xF00F, v, name, operands⟩ : Pattern).Matches w = true ↔
      w.family.val = v.toNat / 4096 ∧ w.nibble.val = v.toNat % 16 := by
  have hnibble := w.nibble.isLt
  rw [matches_iff, Word.toNat_and_nibble]
  show _ = v.toNat ↔ _
  omega

theorem matches_byte (low : v.toNat % 4096 < 256) :
    (⟨0xF0FF, v, name, operands⟩ : Pattern).Matches w = true ↔
      w.family.val = v.toNat / 4096 ∧ w.byte.toNat = v.toNat % 256 := by
  have hbyte := w.byte.toNat_lt
  rw [matches_iff, Word.toNat_and_byte]
  show _ = v.toNat ↔ _
  omega

/-! ## No two patterns fit one word -/

/-- Two patterns that fit one word ask the same where both ask. -/
theorem overlap {p q : Pattern} (hp : p.Matches w = true) (hq : q.Matches w = true) :
    p.value &&& q.mask = q.value &&& p.mask := by
  unfold Matches at hp hq
  rw [beq_iff_eq] at hp hq
  rw [← hp, ← hq, UInt16.and_assoc, UInt16.and_assoc, UInt16.and_comm p.mask]

/-- Any two patterns of the table ask for something different. -/
theorem table_apart : table.Pairwise fun p q => p.value &&& q.mask ≠ q.value &&& p.mask := by
  decide

/-- The patterns that fit a word: none, or a single one. -/
theorem filter_matches_cases (w : Word) :
    table.filter (·.Matches w) = [] ∨ ∃ p, table.filter (·.Matches w) = [p] := by
  have hapart := table_apart.filter (·.Matches w)
  have hfits : ∀ p ∈ table.filter (·.Matches w), p.Matches w = true :=
    fun p hp => (List.mem_filter.mp hp).2
  generalize table.filter (·.Matches w) = fitting at hapart hfits
  match fitting with
  | [] => exact Or.inl rfl
  | [p] => exact Or.inr ⟨p, rfl⟩
  | p :: q :: rest =>
    have hdiffer := (List.pairwise_cons.mp hapart).1 q List.mem_cons_self
    exact absurd (overlap (hfits p (by simp)) (hfits q (by simp))) hdiffer

theorem countP_matches_le_one (w : Word) : table.countP (·.Matches w) ≤ 1 := by
  rw [List.countP_eq_length_filter]
  rcases filter_matches_cases w with h | ⟨p, h⟩
  · rw [h]
    exact Nat.zero_le 1
  · rw [h]
    exact Nat.le_refl 1

/-- The order in which the patterns are tried is of no importance. -/
theorem find?_of_perm {order : List Pattern} (h : order.Perm table) (w : Word) :
    order.find? (·.Matches w) = find? w := by
  have hperm := h.filter (·.Matches w)
  have hsame : order.filter (·.Matches w) = table.filter (·.Matches w) := by
    rcases filter_matches_cases w with hnone | ⟨p, hone⟩
    · rw [hnone] at hperm ⊢
      exact hperm.eq_nil
    · rw [hone] at hperm ⊢
      exact List.perm_singleton.mp hperm
  unfold find?
  rw [← List.head?_filter, ← List.head?_filter, hsame]

end Pattern

/-! ## Reserved words -/

/-- The words that stand for no instruction: all but two of family 0, a
last nibble that family 5, 8 or 9 does not use, a low byte that family E
or F does not use. -/
def Word.Reserved (w : Word) : Prop :=
  match w.family.val with
  | 0x0 => w ≠ 0x00E0 ∧ w ≠ 0x00EE
  | 0x5 | 0x9 => w.nibble.val ≠ 0
  | 0x8 => w.nibble.val ∉ [0x0, 0x1, 0x2, 0x3, 0x4, 0x5, 0x6, 0x7, 0xE]
  | 0xE => w.byte.toNat ∉ [0x9E, 0xA1]
  | 0xF => w.byte.toNat ∉ [0x07, 0x0A, 0x15, 0x18, 0x1E, 0x29, 0x33, 0x55, 0x65]
  | _ => False

theorem Pattern.find?_eq_none_iff (w : Word) : Pattern.find? w = none ↔ w.Reserved := by
  unfold find? Word.Reserved
  rw [List.find?_eq_none]
  simp (disch := decide) only [table, List.forall_mem_cons, matches_word, matches_family,
    matches_nibble, matches_byte]
  have hlt := w.family.isLt
  interval_cases w.family.val
  all_goals simp

namespace Instruction

theorem decodeArithmetic_eq_none_iff (w : Word) :
    decodeArithmetic w = none ↔
      w.nibble.val ∉ [0x0, 0x1, 0x2, 0x3, 0x4, 0x5, 0x6, 0x7, 0xE] := by
  unfold decodeArithmetic
  split <;> simp_all

theorem decodeKeypad_eq_none_iff (w : Word) :
    decodeKeypad w = none ↔ w.byte.toNat ∉ [0x9E, 0xA1] := by
  unfold decodeKeypad
  split <;> simp_all

theorem decodeExtended_eq_none_iff (w : Word) :
    decodeExtended w = none ↔
      w.byte.toNat ∉ [0x07, 0x0A, 0x15, 0x18, 0x1E, 0x29, 0x33, 0x55, 0x65] := by
  unfold decodeExtended
  split <;> simp_all

theorem decode_eq_none_iff (w : Word) : decode w = none ↔ w.Reserved := by
  have hscreen : (if w = 0x00E0 then some clear else if w = 0x00EE then some ret else none) = none ↔
      w ≠ 0x00E0 ∧ w ≠ 0x00EE := by
    split_ifs <;> simp_all
  have hlt := w.family.isLt
  unfold decode Word.Reserved
  interval_cases w.family.val
  case «0» => exact hscreen
  all_goals simp [decodeArithmetic_eq_none_iff, decodeKeypad_eq_none_iff,
    decodeExtended_eq_none_iff]

end Instruction

end Chip8
