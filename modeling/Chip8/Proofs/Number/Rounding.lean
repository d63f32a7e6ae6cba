/-
Chip8.Proofs.Number.Rounding — a quotient of small numbers, rounded to a
double and then to a whole number, is rounded as if there were no double.

The first rounding is that of the quotient at a scale `2^k` at which it has
fifty-three bits, which takes both bounds of the logarithm
(`mul_lt_of_floorLog2`, `mul_le_of_floorLog2`); exponent and fraction of the
pattern are then read back as they were written (`magnitude_ofParts`). A
numerator below `2^52` is scaled up and never down, and the denominator stays
below the scale. So the two roundings are one (`roundHalfEven_twice`): what is
no tie is further from the nearest tie than the first rounding can go.
-/
import Mathlib.Tactic
import Chip8.Number.Binary64

namespace Chip8.Number

theorem twoTo_eq (k : Nat) : twoTo k = 2 ^ k := rfl

/-! ## Rounding to a whole number -/

/-- A whole number is nearest to a quotient; of two it is the even one. -/
structure Nearest (num den c : Nat) : Prop where
  below : 2 * c * den ≤ 2 * num + den
  above : 2 * num ≤ 2 * c * den + den
  even_of_tie : 2 * c * den = 2 * num + den ∨ 2 * num = 2 * c * den + den → c % 2 = 0

section Nearest

variable {num den num' den' c c' k : Nat}

theorem nearest_roundHalfEven (num : Nat) (hden : 0 < den) :
    Nearest num den (roundHalfEven num den) := by
  have hsplit := Nat.div_add_mod num den
  have hrest := Nat.mod_lt num hden
  have hq : den * (num / den) = num / den * den := Nat.mul_comm ..
  have hparity := Nat.mod_two_eq_zero_or_one (num / den)
  unfold roundHalfEven
  simp only
  split_ifs with hdown hup
  · constructor <;> rw [Nat.mul_assoc] <;> omega
  · constructor <;> rw [Nat.mul_assoc, Nat.add_mul] <;> omega
  · rcases hparity with heven | hodd
    · rw [heven, Nat.add_zero]
      constructor <;> rw [Nat.mul_assoc] <;> omega
    · rw [hodd]
      constructor <;> rw [Nat.mul_assoc, Nat.add_mul] <;> omega

theorem Nearest.le_of_nearest (hden : 0 < den) (h : Nearest num den c) (h' : Nearest num den c') :
    c ≤ c' := by
  by_contra! hlt
  have hstep : c' + 1 ≤ c := hlt
  have hwide : 2 * (c' + 1) * den ≤ 2 * c * den := by gcongr
  have hbelow := h.below
  have habove := h'.above
  have hspread : 2 * (c' + 1) * den = 2 * c' * den + 2 * den := by ring
  have heven := h.even_of_tie (Or.inl (by omega))
  have heven' := h'.even_of_tie (Or.inr (by omega))
  have hnext : 2 * (c' + 2) * den ≤ 2 * c * den := by
    have : c' + 2 ≤ c := by omega
    gcongr
  have hspread' : 2 * (c' + 2) * den = 2 * c' * den + 4 * den := by ring
  omega

/-- Rounding gives the nearest whole number. -/
theorem Nearest.roundHalfEven_eq (hden : 0 < den) (h : Nearest num den c) :
    roundHalfEven num den = c :=
  have hnearest := nearest_roundHalfEven num hden
  le_antisymm (hnearest.le_of_nearest hden h) (h.le_of_nearest hden hnearest)

/-- Equal quotients are rounded to one number. -/
theorem roundHalfEven_congr (hden : 0 < den) (hden' : 0 < den') (h : num * den' = num' * den) :
    roundHalfEven num den = roundHalfEven num' den' := by
  obtain ⟨hbelow, habove, heven⟩ := nearest_roundHalfEven num' hden'
  generalize roundHalfEven num' den' = c at hbelow habove heven
  refine Nearest.roundHalfEven_eq hden ⟨?_, ?_, fun htie => heven ?_⟩
  · refine Nat.le_of_mul_le_mul_right ?_ hden'
    have := Nat.mul_le_mul_right den hbelow
    linarith
  · refine Nat.le_of_mul_le_mul_right ?_ hden'
    have := Nat.mul_le_mul_right den habove
    linarith
  · refine htie.imp (fun ht => ?_) (fun ht => ?_)
    all_goals
      refine Nat.eq_of_mul_eq_mul_right hden ?_
      have := congrArg (· * den') ht
      linarith

/-- Rounding keeps to a whole bound. -/
theorem roundHalfEven_le (hden : 0 < den) (h : num ≤ c * den) : roundHalfEven num den ≤ c := by
  have hbelow := (nearest_roundHalfEven num hden).below
  by_contra! hlt
  have hstep : c + 1 ≤ roundHalfEven num den := hlt
  have hwide : 2 * (c + 1) * den ≤ 2 * roundHalfEven num den * den := by gcongr
  have hspread : 2 * (c + 1) * den = 2 * (c * den) + 2 * den := by ring
  omega

theorem le_roundHalfEven (hden : 0 < den) (h : c * den ≤ num) : c ≤ roundHalfEven num den := by
  have habove := (nearest_roundHalfEven num hden).above
  by_contra! hlt
  have hstep : roundHalfEven num den + 1 ≤ c := hlt
  have hwide : 2 * (roundHalfEven num den + 1) * den ≤ 2 * c * den := by gcongr
  have hspread : 2 * (roundHalfEven num den + 1) * den =
    2 * roundHalfEven num den * den + 2 * den := by ring
  have hflat : 2 * c * den = 2 * (c * den) := Nat.mul_assoc ..
  omega

theorem roundHalfEven_of_lt (h : 2 * num < den) : roundHalfEven num den = 0 :=
  Nearest.roundHalfEven_eq (by omega) ⟨by omega, by omega, by omega⟩

/-- **Two roundings are one** if the first is at a scale beyond the
denominator. -/
theorem roundHalfEven_twice (hden : 0 < den) (hsmall : den < 2 ^ k) :
    roundHalfEven (roundHalfEven (num * 2 ^ k) den) (2 ^ k) = roundHalfEven num den := by
  obtain ⟨hbelow, habove, heven⟩ := nearest_roundHalfEven num hden
  obtain ⟨hlow, hhigh, -⟩ := nearest_roundHalfEven (num * 2 ^ k) hden
  generalize roundHalfEven num den = c at *
  generalize roundHalfEven (num * 2 ^ k) den = m at *
  obtain ⟨half, hhalf⟩ : ∃ half, 2 ^ k = 2 * half := by
    obtain ⟨j, rfl⟩ := Nat.exists_eq_succ_of_ne_zero (n := k) (by rintro rfl; omega)
    exact ⟨2 ^ j, by rw [Nat.pow_succ, Nat.mul_comm]⟩
  rw [hhalf] at hsmall hlow hhigh ⊢
  have hbelow' := Nat.mul_le_mul_right half hbelow
  have habove' := Nat.mul_le_mul_right half habove
  refine Nearest.roundHalfEven_eq (by omega) ⟨?_, ?_, fun htie => heven ?_⟩
  · by_contra! hfar
    have hstep : m + half + 1 ≤ c * (2 * half) := by linarith
    have := Nat.mul_le_mul_right den hstep
    linarith
  · by_contra! hfar
    have hstep : c * (2 * half) + half + 1 ≤ m := by linarith
    have := Nat.mul_le_mul_right den hstep
    linarith
  · -- a quotient that is no tie is at least one denominator's half away from one
    refine htie.imp (fun ht => le_antisymm hbelow ?_) (fun ht => le_antisymm habove ?_)
    · by_contra! hfar
      have := Nat.mul_le_mul_right (2 * half) (Nat.succ_le_of_lt hfar)
      have := congrArg (· * den) ht
      linarith
    · by_contra! hfar
      have := Nat.mul_le_mul_right (2 * half) (Nat.succ_le_of_lt hfar)
      have := congrArg (· * den) ht
      linarith

end Nearest

/-! ## The logarithm -/

theorem scaleTwo_of_nonneg (num den : Nat) {q : Int} (h : 0 ≤ q) :
    scaleTwo num den q = (num * 2 ^ q.toNat, den) := if_pos h

theorem scaleTwo_of_neg (num den : Nat) {q : Int} (h : q < 0) :
    scaleTwo num den q = (num, den * 2 ^ (-q).toNat) := if_neg (not_le.mpr h)

theorem floorLog2_le (num den : Nat) : floorLog2 num den ≤ num.log2 := by
  unfold floorLog2
  simp only
  split <;> omega

/-- A quotient is below the power of two after its logarithm. -/
theorem mul_lt_of_floorLog2 {num den j k : Nat} (hden : 0 < den)
    (h : floorLog2 num den + k < j) : num * 2 ^ k < den * 2 ^ j := by
  have hpow : ∀ {m n : Nat}, m ≤ n → 2 ^ m ≤ 2 ^ n := fun hmn =>
    Nat.pow_le_pow_right (by omega) hmn
  unfold floorLog2 at h
  simp only at h
  split at h
  · calc num * 2 ^ k < 2 ^ (num.log2 + 1) * 2 ^ k :=
          Nat.mul_lt_mul_of_pos_right Nat.lt_log2_self (Nat.two_pow_pos k)
      _ = 2 ^ (num.log2 + 1 + k) := (Nat.pow_add ..).symm
      _ ≤ 2 ^ (den.log2 + j) := hpow (by omega)
      _ = 2 ^ den.log2 * 2 ^ j := Nat.pow_add ..
      _ ≤ den * 2 ^ j := Nat.mul_le_mul_right _ (Nat.log2_self_le (by omega))
  · rename_i hbelow
    by_cases he : (num.log2 : Int) - den.log2 ≤ 0
    · rw [scaleTwo_of_nonneg num den (by omega)] at hbelow
      calc num * 2 ^ k ≤ num * 2 ^ ((-((num.log2 : Int) - den.log2)).toNat + j) :=
            Nat.mul_le_mul_left _ (hpow (by omega))
        _ = num * 2 ^ (-((num.log2 : Int) - den.log2)).toNat * 2 ^ j := by
            rw [Nat.pow_add, Nat.mul_assoc]
        _ < den * 2 ^ j :=
            Nat.mul_lt_mul_of_pos_right (not_le.mp hbelow) (Nat.two_pow_pos j)
    · rw [scaleTwo_of_neg num den (by omega)] at hbelow
      calc num * 2 ^ k < den * 2 ^ (-(-((num.log2 : Int) - den.log2))).toNat * 2 ^ k :=
            Nat.mul_lt_mul_of_pos_right (not_le.mp hbelow) (Nat.two_pow_pos k)
        _ = den * 2 ^ ((-(-((num.log2 : Int) - den.log2))).toNat + k) := by
            rw [Nat.mul_assoc, Nat.pow_add]
        _ ≤ den * 2 ^ j := Nat.mul_le_mul_left _ (hpow (by omega))

/-- A quotient is at least the power of two of its logarithm. -/
theorem mul_le_of_floorLog2 {num den j k : Nat} (hnum : 0 < num)
    (h : (j : Int) ≤ floorLog2 num den + k) : den * 2 ^ j ≤ num * 2 ^ k := by
  have hpow : ∀ {m n : Nat}, m ≤ n → 2 ^ m ≤ 2 ^ n := fun hmn =>
    Nat.pow_le_pow_right (by omega) hmn
  unfold floorLog2 at h
  simp only at h
  split at h
  · rename_i habove
    by_cases he : (num.log2 : Int) - den.log2 ≤ 0
    · rw [scaleTwo_of_nonneg num den (by omega)] at habove
      calc den * 2 ^ j ≤ num * 2 ^ (-((num.log2 : Int) - den.log2)).toNat * 2 ^ j :=
            Nat.mul_le_mul_right _ habove
        _ = num * 2 ^ ((-((num.log2 : Int) - den.log2)).toNat + j) := by
            rw [Nat.pow_add, Nat.mul_assoc]
        _ ≤ num * 2 ^ k := Nat.mul_le_mul_left _ (hpow (by omega))
    · rw [scaleTwo_of_neg num den (by omega)] at habove
      calc den * 2 ^ j ≤ den * 2 ^ ((-(-((num.log2 : Int) - den.log2))).toNat + k) :=
            Nat.mul_le_mul_left _ (hpow (by omega))
        _ = den * 2 ^ (-(-((num.log2 : Int) - den.log2))).toNat * 2 ^ k := by
            rw [Nat.pow_add, Nat.mul_assoc]
        _ ≤ num * 2 ^ k := Nat.mul_le_mul_right _ habove
  · calc den * 2 ^ j ≤ 2 ^ (den.log2 + 1) * 2 ^ j :=
          Nat.mul_le_mul_right _ Nat.lt_log2_self.le
      _ = 2 ^ (den.log2 + 1 + j) := (Nat.pow_add ..).symm
      _ ≤ 2 ^ (num.log2 + k) := hpow (by omega)
      _ = 2 ^ num.log2 * 2 ^ k := Nat.pow_add ..
      _ ≤ num * 2 ^ k := Nat.mul_le_mul_right _ (Nat.log2_self_le (by omega))

namespace Binary64

/-! ## Patterns -/

theorem unsigned_ofParts {n : Nat} (h : n < 2 ^ 63) : (ofParts false n).unsigned = n := by
  unfold unsigned ofParts signBit
  rw [twoTo_eq]
  simp only [Bool.false_eq_true, if_false, UInt64.toNat_ofNat']
  omega

theorem negative_ofParts {n : Nat} (h : n < 2 ^ 63) : (ofParts false n).negative = false := by
  unfold negative ofParts signBit
  rw [twoTo_eq]
  simp only [Bool.false_eq_true, if_false, UInt64.toNat_ofNat', decide_eq_false_iff_not]
  omega

/-- Exponent and fraction of a pattern are read back from it. -/
theorem magnitude_ofParts {f t : Nat} (hf : f < 2047) (ht : t < 2 ^ 52) :
    (ofParts false (f * 2 ^ 52 + t)).magnitude? =
      some (if f = 0 then (t, -1074) else (2 ^ 52 + t, (f : Int) - 1075)) := by
  have hn : f * 2 ^ 52 + t < 2 ^ 63 := by omega
  unfold magnitude?
  rw [unsigned_ofParts hn, twoTo_eq]
  have hexponent : (f * 2 ^ 52 + t) / 2 ^ 52 = f := by omega
  have hfraction : (f * 2 ^ 52 + t) % 2 ^ 52 = t := by omega
  simp only [hexponent, hfraction]
  rw [if_neg (by omega)]
  split <;> rfl

/-- The whole number nearest to a number that has been scaled up. -/
theorem nearest_of_magnitude {x : Binary64} {m k : Nat} (h : x.magnitude? = some (m, -(k : Int)))
    (positive : x.negative = false) : x.nearest = roundHalfEven m (2 ^ k) := by
  have hratio : x.ratio? = some (m, 2 ^ k) := by
    unfold ratio?
    rw [h, Option.map_some]
    by_cases hk : k = 0
    · subst hk
      simp [scaleTwo, twoTo]
    · have hneg : -(k : Int) < 0 := by omega
      show some (scaleTwo m 1 (-(k : Int))) = _
      rw [scaleTwo_of_neg _ _ hneg, neg_neg, Int.toNat_natCast, Nat.one_mul]
  unfold nearest
  rw [hratio, positive]
  simp

/-- The power of two by which a quotient is scaled before it is rounded. -/
def scale (num den : Nat) : Nat := (-max (floorLog2 num den - 52) (-1074)).toNat

section Small

variable {num den : Nat}

theorem floorLog2_lt (hnum : 0 < num) (hsmall : num < 2 ^ 52) (den : Nat) :
    floorLog2 num den < 52 := by
  have hlog : num.log2 < 52 := (Nat.log2_lt (by omega)).mpr hsmall
  have := floorLog2_le num den
  omega

/-- A quotient that is not scaled by the most has the bits of the format. -/
theorem mul_le_of_scale (hnum : 0 < num) (hsmall : num < 2 ^ 52) (h : scale num den ≠ 1074) :
    den * 2 ^ 52 ≤ num * 2 ^ scale num den := by
  have := floorLog2_lt hnum hsmall den
  refine mul_le_of_floorLog2 hnum ?_
  unfold scale at h ⊢
  omega

theorem mul_lt_of_scale (hnum : 0 < num) (hsmall : num < 2 ^ 52) (hden : 0 < den) :
    num * 2 ^ scale num den < den * 2 ^ 53 := by
  have := floorLog2_lt hnum hsmall den
  refine mul_lt_of_floorLog2 hden ?_
  unfold scale
  omega

/-- The pattern of a quotient of a small number: exponent and fraction, which
stand for the scaled quotient, rounded. -/
theorem pattern_eq (hnum : 0 < num) (hsmall : num < 2 ^ 52) (hden : 0 < den) :
    ∃ f t m j, pattern num den = f * 2 ^ 52 + t ∧ f < 2047 ∧ t < 2 ^ 52 ∧
      (if f = 0 then (t, -1074) else (2 ^ 52 + t, (f : Int) - 1075)) = (m, -((j : Nat) : Int)) ∧
      m * 2 ^ scale num den = roundHalfEven (num * 2 ^ scale num den) den * 2 ^ j := by
  have hlow : scale num den ≠ 1074 → den * 2 ^ 52 ≤ num * 2 ^ scale num den :=
    mul_le_of_scale hnum hsmall
  have hhigh := mul_lt_of_scale hnum hsmall hden
  have hfloor := floorLog2_lt hnum hsmall den
  have hk : max (floorLog2 num den - 52) (-1074) = -(scale num den : Int) := by
    unfold scale
    omega
  have hmost : scale num den ≤ 1074 := by omega
  unfold pattern
  simp only [hk, twoTo_eq]
  generalize scale num den = k at *
  have hscale : scaleTwo num den (-(-(k : Int))) = (num * 2 ^ k, den) := by
    rw [scaleTwo_of_nonneg num den (by omega), neg_neg, Int.toNat_natCast]
  have hbits : roundHalfEven (num * 2 ^ k) den ≤ 2 ^ 53 := by
    refine roundHalfEven_le hden ?_
    rw [Nat.mul_comm (2 ^ 53)]
    exact hhigh.le
  have hnormal : k ≠ 1074 → 2 ^ 52 ≤ roundHalfEven (num * 2 ^ k) den := by
    intro h
    refine le_roundHalfEven hden ?_
    rw [Nat.mul_comm]
    exact hlow h
  simp only [hscale]
  generalize roundHalfEven (num * 2 ^ k) den = m at *
  by_cases hcarried : m = 2 ^ 53
  · -- a carry is one power of two more
    have hpos : 0 < k := by omega
    obtain ⟨j, rfl⟩ := Nat.exists_eq_succ_of_ne_zero hpos.ne'
    rw [if_pos hcarried, if_pos hcarried, if_neg (by omega), if_neg (by omega)]
    refine ⟨1075 - j, 0, 2 ^ 52, j, by congr 2; omega, by omega, by omega, ?_, ?_⟩
    · have hpower : ((1075 - j : Nat) : Int) - 1075 = -(j : Int) := by omega
      rw [if_neg (by omega), hpower, Nat.add_zero]
    · rw [hcarried, Nat.succ_eq_add_one, Nat.pow_succ]
      ring
  · rw [if_neg hcarried, if_neg hcarried, if_neg (by omega)]
    by_cases hsub : m < 2 ^ 52
    · have hmax : k = 1074 := by
        by_contra h
        exact absurd (hnormal h) (by omega)
      rw [if_pos hsub]
      refine ⟨0, m, m, k, by omega, by omega, hsub, ?_, rfl⟩
      rw [if_pos rfl, hmax]
      rfl
    · rw [if_neg hsub]
      refine ⟨1075 - k, m - 2 ^ 52, m, k, by congr 2; omega, by omega, by omega, ?_, rfl⟩
      have hexponent : 1075 - k ≠ 0 := by omega
      have hfraction : 2 ^ 52 + (m - 2 ^ 52) = m := by omega
      have hpower : ((1075 - k : Nat) : Int) - 1075 = -(k : Int) := by omega
      rw [if_neg hexponent, hfraction, hpower]

/-- A quotient of a small number is rounded through its double as it is by
itself. -/
theorem roundHalfEven_scaled (hnum : 0 < num) (hsmall : num < 2 ^ 52) (hden : 0 < den) :
    roundHalfEven (roundHalfEven (num * 2 ^ scale num den) den) (2 ^ scale num den) =
      roundHalfEven num den := by
  by_cases hbelow : den < 2 ^ scale num den
  · exact roundHalfEven_twice hden hbelow
  · -- so tiny a quotient is rounded to zero either way
    have hmost : 55 ≤ scale num den := by
      by_contra hless
      have hscale : scale num den ≠ 1074 := by omega
      have hbits := mul_le_of_scale hnum hsmall hscale
      have : den * 2 ^ 52 < den * 2 ^ 52 := calc
        den * 2 ^ 52 ≤ num * 2 ^ scale num den := hbits
        _ ≤ num * den := Nat.mul_le_mul_left _ (not_lt.mp hbelow)
        _ < 2 ^ 52 * den := Nat.mul_lt_mul_of_pos_right hsmall hden
        _ = den * 2 ^ 52 := Nat.mul_comm ..
      exact absurd this (lt_irrefl _)
    have hhigh := mul_lt_of_scale hnum hsmall hden
    obtain ⟨j, hj⟩ := Nat.exists_eq_add_of_le hmost
    have hpow : 2 ^ scale num den = 2 ^ 55 * 2 ^ j := by rw [hj, Nat.pow_add]
    have hone := Nat.two_pow_pos j
    rw [roundHalfEven_of_lt, roundHalfEven_of_lt]
    · rw [hpow] at hhigh
      have : num * 2 ^ 55 ≤ num * (2 ^ 55 * 2 ^ j) :=
        Nat.mul_le_mul_left _ (Nat.le_mul_of_pos_right _ hone)
      omega
    · have hbits : roundHalfEven (num * 2 ^ scale num den) den ≤ 2 ^ 53 := by
        refine roundHalfEven_le hden ?_
        rw [Nat.mul_comm (2 ^ 53)]
        exact hhigh.le
      have : 2 ^ 55 ≤ 2 ^ scale num den := Nat.pow_le_pow_right (by decide) hmost
      omega

/-- The double nearest to a quotient of a small number is finite, and it is
rounded as the quotient is. -/
theorem nearest_ofRatio (hnum : 0 < num) (hsmall : num < 2 ^ 52) (hden : 0 < den) :
    (ofRatio false num den).isFinite = true ∧
      (ofRatio false num den).nearest = roundHalfEven num den := by
  obtain ⟨f, t, m, j, hpattern, hf, ht, hread, hsame⟩ := pattern_eq hnum hsmall hden
  have hratio : ofRatio false num den = ofParts false (f * 2 ^ 52 + t) := by
    unfold ofRatio
    rw [if_neg (by omega), hpattern]
  have hfits : f * 2 ^ 52 + t < 2 ^ 63 := by omega
  have hmagnitude : (ofParts false (f * 2 ^ 52 + t)).magnitude? = some (m, -(j : Int)) := by
    rw [magnitude_ofParts hf ht, hread]
  rw [hratio]
  refine ⟨?_, ?_⟩
  · have := unsigned_ofParts hfits
    unfold unsigned at this
    unfold isFinite infinityBits
    rw [this, decide_eq_true_iff]
    omega
  · rw [nearest_of_magnitude hmagnitude (negative_ofParts hfits),
      roundHalfEven_congr (Nat.two_pow_pos _) (Nat.two_pow_pos _) hsame,
      roundHalfEven_scaled hnum hsmall hden]

end Small

/-- **The double nearest to a small number over another is rounded as their
quotient is.** -/
theorem nearest_ofQuotient_eq {num den : Nat} (hnum : 0 < num) (hsmall : num < 2 ^ 52)
    (hden : 0 < den) :
    ∃ x, ofQuotient? num den = some x ∧ x.nearest = roundHalfEven num den := by
  obtain ⟨hfinite, hnearest⟩ := nearest_ofRatio hnum hsmall hden
  have hsign : ((num : Int) < 0) = False := by simp
  have hsign' : ((den : Int) < 0) = False := by simp
  refine ⟨ofRatio false num den, ?_, hnearest⟩
  unfold ofQuotient?
  simp only [hsign, hsign', decide_false, bne_self_eq_false, Int.natAbs_natCast, hfinite, if_true]

/-- The quotient of a small number is rounded to no more than the number. -/
theorem nearest_ofQuotient {num den : Int} (hnum : 0 < num) (hsmall : num < 2 ^ 52)
    (hden : 0 < den) :
    ∃ x, ofQuotient? num den = some x ∧ 0 ≤ x.nearest ∧ x.nearest ≤ num := by
  lift num to Nat using hnum.le
  lift den to Nat using hden.le
  have hnum' : 0 < num := by omega
  have hden' : 0 < den := by omega
  obtain ⟨x, hx, hnearest⟩ := nearest_ofQuotient_eq hnum' (by omega) hden'
  refine ⟨x, hx, by omega, ?_⟩
  have := roundHalfEven_le hden' (Nat.le_mul_of_pos_right num hden')
  omega

end Binary64

end Chip8.Number
