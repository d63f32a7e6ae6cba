/-
Chip8.Proofs.Sound.Shape — the shape of a wave, and the amplitudes that have
one.

A wave is a run of samples at its level and a run at the opposite one
(`samples_eq`), and all that is said of it is read off from these two
(`isSquare_of_level`). Its length is that of the quotient of rate and
frequency, rounded once (`square_eq`): that the quotient is a double in between
does not show.

A period always has a length that can be counted (`periodOf_lt`). What memory
there is, is up to the host: it is assumed to grant the samples of one channel,
and those of all, and nothing else of it matters. Only the bytes of many
channels can be more than a machine word counts.

Sixteen bits reach further down than up. So an amplitude of 256 is refused for
its level, and one of -256 for the opposite level; beyond these both are no
samples, and the opposite level is named (`checkLevel_eq`). It is named as long
as it has sixty-four bits (`message_misfit`).
-/
import Chip8.Proofs.Settings.Accepted
import Chip8.Proofs.Sound.Build

namespace Chip8

namespace Wave

/-- The rows of a wave, with a sample for each channel. -/
def rows (w : Wave) : List (List Int) := w.samples.map (List.replicate w.channels)

/-- The length of a period: the rate over the frequency, rounded, and at least
two. -/
def periodOf (rate frequency : Int) : Nat :=
  max 2 (Number.roundHalfEven rate.toNat frequency.toNat)

/-- The level that an amplitude beyond 255 is refused for. -/
def misfit (amplitude : Int) : Int :=
  if isSample (-(amplitude * 128)) then amplitude * 128 else -(amplitude * 128)

/-- A square wave of a period and a level, in each of some channels. -/
structure IsSquare (w : Wave) (period channels : Nat) (level : Int) : Prop where
  length : w.rows.length = period
  high : ∀ k < period / 2, w.rows[k]? = some (List.replicate channels level)
  low : ∀ k < period, period / 2 ≤ k → w.rows[k]? = some (List.replicate channels (-level))
  both : level ∈ w.samples ∧ -level ∈ w.samples
  inRange : ∀ n ∈ w.samples, -32768 ≤ n ∧ n ≤ 32767
  sum : w.samples.sum = if period % 2 = 0 then 0 else -level
  /-- The runs of the wave are the samples in order. -/
  runs : (w.runs.flatMap fun (n, count) => List.replicate count n) = w.samples

/-! ## Samples -/

theorem rows_getElem? {w : Wave} {k : Nat} (hk : k < w.period) :
    w.rows[k]? = some (List.replicate w.channels (w.sample k)) := by
  unfold rows samples
  rw [List.getElem?_map, List.getElem?_map, List.getElem?_range hk]
  rfl

/-- The samples of a wave are two runs. -/
theorem samples_eq (w : Wave) :
    w.samples = List.replicate (w.period / 2) w.level ++
      List.replicate (w.period - w.period / 2) (-w.level) := by
  have hsplit : w.period = w.period / 2 + (w.period - w.period / 2) := by omega
  have hhigh : (List.range (w.period / 2)).map w.sample =
      List.replicate (w.period / 2) w.level := by
    refine List.eq_replicate_iff.mpr ⟨by simp, fun n hn => ?_⟩
    obtain ⟨k, hk, rfl⟩ := List.mem_map.mp hn
    exact if_pos (List.mem_range.mp hk)
  have hlow : (List.range (w.period - w.period / 2)).map (w.sample ∘ (w.period / 2 + ·)) =
      List.replicate (w.period - w.period / 2) (-w.level) := by
    refine List.eq_replicate_iff.mpr ⟨by simp, fun n hn => ?_⟩
    obtain ⟨k, -, rfl⟩ := List.mem_map.mp hn
    exact if_neg (Nat.le_add_right ..).not_gt
  unfold samples
  conv_lhs => rw [hsplit, List.range_add, List.map_append, List.map_map, hhigh, hlow]

/-- Of an odd number of samples there is one more at the opposite level. -/
theorem sum_samples (w : Wave) : w.samples.sum = if w.period % 2 = 0 then 0 else -w.level := by
  rw [samples_eq, List.sum_append, List.sum_replicate, List.sum_replicate, smul_neg]
  have hparity := Nat.mod_two_eq_zero_or_one w.period
  rcases hparity with heven | hodd
  · have hhalf : w.period - w.period / 2 = w.period / 2 := by omega
    rw [if_pos heven, hhalf, add_neg_cancel]
  · have hhalf : w.period - w.period / 2 = w.period / 2 + 1 := by omega
    rw [if_neg (by omega), hhalf, succ_nsmul]
    omega

theorem flatMap_runs (w : Wave) :
    (w.runs.flatMap fun (n, count) => List.replicate count n) = w.samples := by
  rw [samples_eq]
  unfold runs
  simp only
  split
  · rename_i hlevel
    rw [hlevel, neg_zero, ← List.replicate_add, Nat.add_sub_cancel' (Nat.div_le_self ..)]
    exact List.append_nil _
  · rw [List.flatMap_cons, List.flatMap_cons, List.flatMap_nil, List.append_nil]

/-- A wave whose levels are samples is a square wave. -/
theorem isSquare_of_level {w : Wave} (hperiod : 2 ≤ w.period) (hlow : -32767 ≤ w.level)
    (hhigh : w.level ≤ 32767) : w.IsSquare w.period w.channels w.level where
  length := by
    unfold rows samples
    rw [List.length_map, List.length_map, List.length_range]
  high := by
    intro k hk
    rw [rows_getElem? (by omega), sample, if_pos hk]
  low := by
    intro k hk hlater
    rw [rows_getElem? hk, sample, if_neg hlater.not_gt]
  both := by
    simp only [samples_eq, List.mem_append, List.mem_replicate]
    exact ⟨Or.inl ⟨by omega, trivial⟩, Or.inr ⟨by omega, trivial⟩⟩
  inRange := by
    intro n hn
    simp only [samples_eq, List.mem_append, List.mem_replicate] at hn
    omega
  sum := sum_samples w
  runs := flatMap_runs w

/-! ## Levels -/

/-- The level of an amplitude and the opposite one are samples exactly if the
amplitude is at most 255 in either direction. -/
theorem checkLevel_eq (amplitude : Int) :
    checkLevel (amplitude * 128) = if -255 ≤ amplitude ∧ amplitude ≤ 255 then .ok ()
      else .error (.notASample (misfit amplitude)) := by
  have hlevel : isSample (amplitude * 128) = decide (-256 ≤ amplitude ∧ amplitude ≤ 255) := by
    unfold isSample
    rw [← Bool.decide_and, decide_eq_decide]
    omega
  have hopposite : isSample (-(amplitude * 128)) = decide (-255 ≤ amplitude ∧ amplitude ≤ 256) := by
    unfold isSample
    rw [← Bool.decide_and, decide_eq_decide]
    omega
  unfold checkLevel misfit
  simp only [hlevel, hopposite, Bool.not_eq_true', decide_eq_false_iff_not, decide_eq_true_iff]
  split_ifs <;> first | rfl | omega

/-- The level that is refused is named, as long as it has sixty-four bits. -/
theorem message_misfit (amplitude : Int) :
    (WaveError.notASample (misfit amplitude)).message =
      if -2 ^ 56 < amplitude ∧ amplitude ≤ 2 ^ 56 then
        "Python integer " ++ toString (misfit amplitude) ++ " out of bounds for int16"
      else Number.tooLongText := by
  have hword : ((Number.twoTo 63 : Nat) : Int) = 2 ^ 63 := by decide +kernel
  have hfits : Number.fitsLong (misfit amplitude) = true ↔
      -2 ^ 56 < amplitude ∧ amplitude ≤ 2 ^ 56 := by
    simp only [Number.fitsLong, misfit, isSample, hword, Bool.and_eq_true, decide_eq_true_iff]
    split <;> omega
  show Number.misfitText "int16" (misfit amplitude) = _
  unfold Number.misfitText
  have hkind : " out of bounds for int16" = " out of bounds for " ++ "int16" := by decide
  simp only [hfits]
  rw [hkind, ← String.append_assoc]
  rfl

/-! ## The wave of a tone -/

/-- A level that is a sample is not refused, whatever else is. -/
theorem square_ne_notASample {amplitude : Int} (hlow : 0 ≤ amplitude) (hhigh : amplitude ≤ 255)
    (memory : Number.Room) (rate frequency channels n : Int) :
    square memory rate frequency amplitude channels ≠ .error (.notASample n) := by
  by_cases hzero : frequency = 0
  · rw [square, if_pos hzero]
    exact nofun
  cases hquotient : Number.Binary64.ofQuotient? rate frequency with
  | none =>
    rw [square, if_neg hzero, hquotient]
    exact nofun
  | some quotient =>
    unfold square
    rw [if_neg hzero, hquotient]
    simp only [checkLevel_level hlow hhigh]
    cases Number.allocate memory (max 2 quotient.nearest) 2 "int16" with
    | error s => exact nofun
    | ok period =>
      show ((Number.allocateRows memory period channels 2 "int16").mapError
        WaveError.noRoom >>= _) ≠ _
      cases Number.allocateRows memory period channels 2 "int16" <;> exact nofun

section Square

variable {rate frequency amplitude channels : Int} {memory : Number.Room}

theorem two_le_periodOf (rate frequency : Int) : 2 ≤ periodOf rate frequency := le_max_left ..

variable (positive : 0 < rate) (bounded : rate < 2 ^ 31) (audible : 0 < frequency)

include bounded audible in
/-- A period is no longer than a second. -/
theorem periodOf_lt : (periodOf rate frequency : Int) < 2 ^ 31 := by
  have hfrequency : 0 < frequency.toNat := by omega
  have hrounded := Number.roundHalfEven_le hfrequency
    (Nat.le_mul_of_pos_right rate.toNat hfrequency)
  unfold periodOf
  omega

include positive bounded audible

/-- Building a wave is making room for a period, checking the level and making
room for the channels. -/
theorem square_eq (memory : Number.Room) (amplitude channels : Int) :
    square memory rate frequency amplitude channels = do
      let period ← (Number.allocate memory (periodOf rate frequency) 2 "int16").mapError .noRoom
      checkLevel (amplitude * 128)
      let channels ← (Number.allocateRows memory period channels 2 "int16").mapError .noRoom
      return { period, level := amplitude * 128, channels } := by
  unfold periodOf
  lift rate to Nat using positive.le
  lift frequency to Nat using audible.le
  have hrate : 0 < rate := by omega
  have hfrequency : 0 < frequency := by omega
  obtain ⟨quotient, hquotient, hnearest⟩ :=
    Number.Binary64.nearest_ofQuotient_eq hrate (by omega) hfrequency
  unfold square
  rw [if_neg audible.ne', hquotient]
  simp only [hnearest, Int.toNat_natCast, Nat.cast_max, Nat.cast_ofNat]

/-- With memory for a period, the level is looked at before the channels. -/
theorem square_of_period (granted : memory.grants (periodOf rate frequency * 2) = true)
    (amplitude channels : Int) :
    square memory rate frequency amplitude channels = do
      checkLevel (amplitude * 128)
      let channels ← (Number.allocateRows memory (periodOf rate frequency) channels 2
        "int16").mapError .noRoom
      return { period := periodOf rate frequency, level := amplitude * 128, channels } := by
  have hlength := periodOf_lt bounded audible
  have holds : memory.Holds ((periodOf rate frequency : Int) * (2 : Nat)) :=
    ⟨(Number.fitsLong_iff (by omega)).mpr (by omega), granted⟩
  rw [square_eq positive bounded audible,
    Number.allocate_of_holds (Int.natCast_nonneg _) Nat.two_pos holds]
  rfl

theorem square_of_misfit (granted : memory.grants (periodOf rate frequency * 2) = true)
    (outside : ¬(-255 ≤ amplitude ∧ amplitude ≤ 255)) (channels : Int) :
    square memory rate frequency amplitude channels =
      .error (.notASample (misfit amplitude)) := by
  rw [square_of_period positive bounded audible granted, checkLevel_eq, if_neg outside]
  rfl

/-- With memory for the channels too, there is a wave if the level is a sample. -/
theorem square_of_level (granted : memory.grants (periodOf rate frequency * 2) = true)
    (hchannels : 1 ≤ channels) (inside : -255 ≤ amplitude ∧ amplitude ≤ 255)
    (counted : periodOf rate frequency * channels * 2 < 2 ^ 63)
    (all : memory.grants (periodOf rate frequency * channels.toNat * 2) = true) :
    square memory rate frequency amplitude channels =
      .ok ⟨periodOf rate frequency, amplitude * 128, channels.toNat⟩ := by
  have htwo := two_le_periodOf rate frequency
  lift channels to Nat using by omega
  have holds : memory.Holds (periodOf rate frequency * max 1 (channels : Int) * (2 : Nat)) := by
    rw [max_eq_right hchannels]
    exact ⟨(Number.fitsLong_iff (Int.natCast_nonneg _)).mpr counted, all⟩
  rw [square_of_period positive bounded audible granted, checkLevel_eq, if_pos inside]
  show ((Number.allocateRows memory _ channels 2 "int16").mapError WaveError.noRoom >>= _) = _
  rw [Number.allocateRows_of_holds (by omega) Nat.two_pos holds, max_eq_right hchannels]
  rfl

/-- More channels than a machine word counts bytes for are refused, and more
than it counts are refused for that. -/
theorem square_of_uncountable (granted : memory.grants (periodOf rate frequency * 2) = true)
    (hchannels : 1 ≤ channels) (inside : -255 ≤ amplitude ∧ amplitude ≤ 255)
    (uncounted : 2 ^ 63 ≤ periodOf rate frequency * channels * 2) :
    square memory rate frequency amplitude channels =
      .error (.noRoom (if channels < 2 ^ 63 then .uncountable else .notAWidth)) := by
  have hlength := periodOf_lt bounded audible
  have hseveral : ¬channels ≤ 1 := by
    intro hsingle
    obtain rfl : channels = 1 := le_antisymm hsingle hchannels
    omega
  have hword := Number.fitsLong_iff (n := channels) (by omega)
  have hbytes : Number.fitsLong (periodOf rate frequency * channels * (2 : Nat)) = false := by
    rw [← Bool.not_eq_true, Number.fitsLong_iff (by push_cast; omega)]
    exact not_lt.mpr uncounted
  rw [square_of_period positive bounded audible granted, checkLevel_eq, if_pos inside]
  show ((Number.allocateRows memory _ channels 2 "int16").mapError WaveError.noRoom >>= _) = _
  unfold Number.allocateRows
  simp only [hseveral, if_false, hbytes]
  by_cases hfits : channels < 2 ^ 63
  · rw [hword.mpr hfits, if_pos hfits]
    rfl
  · rw [Bool.eq_false_iff.mpr (mt hword.mp hfits), if_neg hfits]
    rfl

end Square

/-! ## The statement -/

/-- **A tone is a square wave in sixteen bits, or its amplitude is refused.** A
period has as many samples as the rounded quotient of rate and frequency, and
the host is assumed to grant the memory for them, and for those of all the
channels. With an amplitude of at most 255 in either direction, and channels
whose bytes can be counted, the first half of the period is at the level and the
other at the opposite level. Any other amplitude is refused for a level that is
no sample, which is named if it has sixty-four bits. The amplitudes of accepted
settings are never refused. -/
theorem square_shape :
    (∀ (memory : Number.Room) (rate frequency amplitude channels : Int), 0 < rate →
      rate < 2 ^ 31 → 0 < frequency → 1 ≤ channels →
      memory.grants (periodOf rate frequency * 2) = true →
      (-255 ≤ amplitude ∧ amplitude ≤ 255 →
        (periodOf rate frequency * channels * 2 < 2 ^ 63 →
          memory.grants (periodOf rate frequency * channels.toNat * 2) = true →
          ∃ w, square memory rate frequency amplitude channels = .ok w ∧
            w.IsSquare (periodOf rate frequency) channels.toNat (amplitude * 128)) ∧
        (2 ^ 63 ≤ periodOf rate frequency * channels * 2 →
          square memory rate frequency amplitude channels =
            .error (.noRoom (if channels < 2 ^ 63 then .uncountable else .notAWidth)))) ∧
      (¬(-255 ≤ amplitude ∧ amplitude ≤ 255) →
        ∃ e, square memory rate frequency amplitude channels = .error e ∧
          e = .notASample (misfit amplitude) ∧ e.kind = "OverflowError" ∧
          e.message = if -2 ^ 56 < amplitude ∧ amplitude ≤ 2 ^ 56 then
            "Python integer " ++ toString (misfit amplitude) ++ " out of bounds for int16"
          else "Python int too large to convert to C long")) ∧
    ∀ table settings, Settings.check table = .ok settings →
      ∀ (memory : Number.Room) (rate frequency channels n : Int),
        square memory rate frequency settings.amplitude channels ≠ .error (.notASample n) := by
  refine ⟨fun memory rate frequency amplitude channels positive bounded audible hchannels granted =>
    ⟨fun inside => ⟨fun counted all => ?_, ?_⟩, fun outside => ?_⟩, ?_⟩
  · refine ⟨_, square_of_level positive bounded audible granted hchannels inside counted all, ?_⟩
    exact isSquare_of_level (two_le_periodOf rate frequency) (by dsimp only; omega)
      (by dsimp only; omega)
  · exact square_of_uncountable positive bounded audible granted hchannels inside
  · exact ⟨_, square_of_misfit positive bounded audible granted outside channels, rfl, rfl,
      message_misfit amplitude⟩
  · intro table settings accepted memory rate frequency channels n
    have hbounds := Settings.inBounds_of_check accepted
    exact square_ne_notASample hbounds.amplitude_nonneg hbounds.amplitude_le _ _ _ _ _

/-- Three samples in two channels, the middle one at the opposite level: the
samples of a channel add up to that level. Twelve bytes are memory enough. -/
theorem square_shape_three_samples :
    (∃ w, square (.upTo 12) 9 3 (-255) 2 = .ok w ∧
      w.rows = [[-32640, -32640], [32640, 32640], [32640, 32640]] ∧ w.samples.sum = 32640) ∧
    (∃ e, square (.upTo 12) 9 3 256 2 = .error e ∧
      e.message = "Python integer 32768 out of bounds for int16") ∧
    square (.upTo 12) 9 3 1 (2 ^ 61) = .error (.noRoom .uncountable) ∧
    ∃ settings, Settings.check Settings.defaults = .ok settings ∧
      ∀ n, square .ample 44100 440 settings.amplitude 1 ≠ .error (.notASample n) := by
  obtain ⟨hshape, haccepted⟩ := square_shape
  have hperiod : periodOf 9 3 = 3 := by decide
  have hgranted : (Number.Room.upTo 12).grants (periodOf 9 3 * 2) = true := by decide
  refine ⟨?_, ?_, ?_, ?_⟩
  · obtain ⟨hinside, -⟩ :=
      hshape (.upTo 12) 9 3 (-255) 2 (by decide) (by decide) (by decide) (by decide) hgranted
    obtain ⟨w, hw, hsquare⟩ := (hinside (by decide)).1 (by decide) (by decide)
    rw [hperiod] at hsquare
    refine ⟨w, hw, ?_, hsquare.sum⟩
    obtain ⟨first, second, third, hrows⟩ := List.length_eq_three.mp hsquare.length
    have hfirst := hsquare.high 0 (by decide)
    have hsecond := hsquare.low 1 (by decide) (by decide)
    have hthird := hsquare.low 2 (by decide) (by decide)
    rw [hrows] at hfirst hsecond hthird ⊢
    rw [Option.some.inj hfirst, Option.some.inj hsecond, Option.some.inj hthird]
    rfl
  · obtain ⟨-, houtside⟩ :=
      hshape (.upTo 12) 9 3 256 2 (by decide) (by decide) (by decide) (by decide) hgranted
    obtain ⟨e, hrefused, rfl, -, hmessage⟩ := houtside (by decide)
    exact ⟨_, hrefused, hmessage⟩
  · obtain ⟨hinside, -⟩ :=
      hshape (.upTo 12) 9 3 1 (2 ^ 61) (by decide) (by decide) (by decide) (by decide) hgranted
    exact (hinside (by decide)).2 (by decide)
  · obtain ⟨settings, accepted⟩ := Settings.check_defaults
    exact ⟨settings, accepted, haccepted _ settings accepted .ample 44100 440 1⟩

/-- Even with memory for everything, a level of more than sixty-four bits is
refused without a name, and channels whose bytes are more than a machine word
counts are refused though their level is a sample. -/
theorem square_beyond_words :
    (∃ e, square .ample 44100 441 (10 ^ 18) 1 = .error e ∧
      e = .notASample (-(10 ^ 18 * 128)) ∧ e.message = "Python int too large to convert to C long" ∧
      e.message ≠ "Python integer -128000000000000000000 out of bounds for int16") ∧
    square .ample 8 4 1 (2 ^ 63) = .error (.noRoom .notAWidth) ∧
    square .ample 8 4 1 (2 ^ 61) = .error (.noRoom .uncountable) := by
  refine ⟨⟨.notASample (-(10 ^ 18 * 128)), ?_, rfl, ?_, ?_⟩, ?_, ?_⟩
  · rfl
  · rfl
  · decide
  · decide +kernel
  · decide +kernel

end Wave

end Chip8
