/-
Chip8.Proofs.Text.Hex — hexadecimal text of numbers is read back.

`value_padded` reads a number back from its text, whatever the width, so no
two numbers have one text (`padded_injective`). The text is made of
hexadecimal digits and nothing else (`exists_digit_of_mem_padded`).
-/
import Mathlib.Tactic
import Chip8.Text.Hex

namespace Chip8.Text.Hex

/-- The number that hexadecimal digits stand for. -/
def value (cs : List Char) : Nat := cs.foldl (fun n c => 16 * n + (value? c).getD 0) 0

theorem value?_digit : ∀ d < 16, value? (digit d) = some d := by
  decide

theorem value_concat (cs : List Char) {d : Nat} (h : d < 16) :
    value (cs ++ [digit d]) = 16 * value cs + d := by
  unfold value
  rw [List.foldl_append, List.foldl_cons, List.foldl_nil, value?_digit d h, Option.getD_some]

theorem value_digits (n : Nat) : value (digits n) = n := by
  fun_induction digits n with
  | case1 n h => exact (value_concat [] h).trans (Nat.zero_add n)
  | case2 n _ ih =>
    rw [value_concat _ (Nat.mod_lt n (by omega)), ih]
    omega

/-- Leading zeros count for nothing. -/
theorem value_zeros_append (k : Nat) (cs : List Char) :
    value (List.replicate k '0' ++ cs) = value cs := by
  induction k with
  | zero => rfl
  | succ k ih => exact ih

/-- A number without a sign is padded in front of its digits. -/
theorem toList_padded (width n : Nat) :
    (padded width n).toList = List.replicate (width - (digits n).length) '0' ++ digits n := by
  have unsigned : ¬((n : Int) < 0) := by omega
  simp [padded, unsigned]

theorem value_padded (width n : Nat) : value (padded width n).toList = n := by
  rw [toList_padded, value_zeros_append, value_digits]

/-- Every numeral has a digit, so a width of one adds nothing. -/
theorem padded_one (n : Nat) : padded 1 n = padded 0 n := by
  have hlen : 0 < (digits n).length := by
    unfold digits
    split <;> simp
  refine String.toList_inj.mp ?_
  rw [toList_padded, toList_padded]
  congr 2
  omega

/-- **No two numbers have one text.** -/
theorem padded_injective {width m n : Nat} (h : padded width m = padded width n) : m = n := by
  rw [← value_padded width m, h, value_padded]

theorem exists_digit_of_mem_digits {c : Char} {n : Nat} (h : c ∈ digits n) :
    ∃ d < 16, c = digit d := by
  fun_induction digits n with
  | case1 n hn => exact ⟨n, hn, List.mem_singleton.mp h⟩
  | case2 n _ ih =>
    rcases List.mem_append.mp h with hfront | hlast
    · exact ih hfront
    · exact ⟨n % 16, Nat.mod_lt n (by omega), List.mem_singleton.mp hlast⟩

theorem exists_digit_of_mem_padded {c : Char} {width n : Nat} (h : c ∈ (padded width n).toList) :
    ∃ d < 16, c = digit d := by
  rw [toList_padded] at h
  rcases List.mem_append.mp h with hzero | hdigit
  · exact ⟨0, by omega, List.eq_of_mem_replicate hzero⟩
  · exact exists_digit_of_mem_digits hdigit

end Chip8.Text.Hex
