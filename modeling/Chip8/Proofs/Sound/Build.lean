/-
Chip8.Proofs.Sound.Build — when a beeper can be built.

A wave of a positive frequency and an amplitude that is a byte has levels
that are samples (`isSample_level`), so all that it needs is room for its
arrays: their bytes are counted in machine words, and the memory of the host
grants them (`Number.Room.Holds`, `AudioDevice.HasRoom`). With room the wave is
built, and without it that is the only thing there is against it
(`square_of_room`, `square_of_no_room`). Nothing is asked of the memory but
what it says to the arrays. A device whose numbers have thirty-two bits has
room for any frequency on a host that grants a second of its samples
(`hasRoom_of_modest`): a period is never longer.

Building a beeper then goes in one of six ways (`Beeper.Making`). Without a
device, and with one that does not take the wave for a sound, it is as silent
as one that is switched off.
-/
import Chip8.Proofs.Number.Rounding
import Chip8.Proofs.Sound.Tone

namespace Chip8

/-! ## Room for an array -/

namespace Number

/-- So many bytes can be counted in a machine word, and are granted. -/
structure Room.Holds (memory : Room) (bytes : Int) : Prop where
  counted : fitsLong bytes = true
  granted : memory.grants bytes.toNat = true

theorem fitsLong_iff {n : Int} (h : 0 ≤ n) : fitsLong n = true ↔ n < 2 ^ 63 := by
  have hword : ((twoTo 63 : Nat) : Int) = 2 ^ 63 := by decide +kernel
  unfold fitsLong
  rw [hword, Bool.and_eq_true, decide_eq_true_iff, decide_eq_true_iff]
  omega

theorem fitsLong_of_le {n bytes : Int} (hn : 0 ≤ n) (hle : n ≤ bytes)
    (h : fitsLong bytes = true) : fitsLong n = true := by
  rw [fitsLong_iff (hn.trans hle)] at h
  exact (fitsLong_iff hn).mpr (hle.trans_lt h)

section Arrays

variable {memory : Room} {cell : Nat}

theorem allocate_of_holds {length : Int} (hlength : 0 ≤ length) (hcell : 0 < cell)
    (holds : memory.Holds (length * cell)) (kind : String) :
    allocate memory length cell kind = .ok length.toNat := by
  have hgrows : length ≤ length * cell := le_mul_of_one_le_right hlength (by exact_mod_cast hcell)
  unfold allocate
  simp only
  rw [fitsLong_of_le hlength hgrows holds.counted, holds.counted, holds.granted,
    if_neg hlength.not_gt]
  rfl

/-- An array that is allocated was counted and granted. -/
theorem holds_of_allocate {length : Int} {kind : String} {n : Nat}
    (h : allocate memory length cell kind = .ok n) : memory.Holds (length * cell) := by
  unfold allocate at h
  simp only at h
  split_ifs at h with _ _ hcounted hgranted
  exact ⟨by simpa using hcounted, by simpa using hgranted⟩

theorem allocate_of_not_holds {length : Int} (full : ¬memory.Holds (length * cell))
    (kind : String) : ∃ s, allocate memory length cell kind = .error s := by
  cases h : allocate memory length cell kind with
  | ok n => exact absurd (holds_of_allocate h) full
  | error s => exact ⟨s, rfl⟩

/-- There is room for the columns of a table if there is for all its cells. One
column takes no more than the rows did. -/
theorem allocateRows_of_holds {rows : Nat} (hrows : 0 < rows) (hcell : 0 < cell) {columns : Int}
    (holds : memory.Holds (rows * max 1 columns * cell)) (kind : String) :
    allocateRows memory rows columns cell kind = .ok (max 1 columns).toNat := by
  unfold allocateRows
  simp only
  by_cases hsingle : columns ≤ 1
  · rw [if_pos hsingle, max_eq_left hsingle]
    rfl
  · rw [max_eq_right (by omega)] at holds ⊢
    have hwidth : columns ≤ rows * columns * cell := calc
      columns ≤ rows * columns := le_mul_of_one_le_left (by omega) (by exact_mod_cast hrows)
      _ ≤ rows * columns * cell :=
        le_mul_of_one_le_right (mul_nonneg (by omega) (by omega)) (by exact_mod_cast hcell)
    rw [if_neg hsingle, fitsLong_of_le (by omega) hwidth holds.counted, holds.counted,
      holds.granted]
    rfl

/-- A table that is allocated was counted and granted, or has one column. -/
theorem holds_of_allocateRows {rows : Nat} {columns : Int} {kind : String} {n : Nat}
    (h : allocateRows memory rows columns cell kind = .ok n) (several : 1 < columns) :
    memory.Holds (rows * columns * cell) := by
  unfold allocateRows at h
  simp only [several.not_ge, if_false] at h
  split_ifs at h with _ hcounted hgranted
  exact ⟨by simpa using hcounted, by simpa using hgranted⟩

theorem allocateRows_of_not_holds {rows : Nat} (hfirst : memory.Holds (rows * cell))
    {columns : Int} (full : ¬memory.Holds (rows * max 1 columns * cell)) (kind : String) :
    ∃ s, allocateRows memory rows columns cell kind = .error s := by
  by_cases hsingle : columns ≤ 1
  · rw [max_eq_left hsingle, mul_one] at full
    exact absurd hfirst full
  · rw [max_eq_right (by omega)] at full
    cases h : allocateRows memory rows columns cell kind with
    | ok n => exact absurd (holds_of_allocateRows h (not_le.mp hsingle)) full
    | error s => exact ⟨s, rfl⟩

end Arrays

end Number

/-! ## The wave -/

/-- There is room for a period of a tone in the samples of a device: for its
first channel, and for all of them. -/
def AudioDevice.HasRoom (d : AudioDevice) (memory : Number.Room) (frequency : Int) : Prop :=
  ∃ quotient, Number.Binary64.ofQuotient? d.rate frequency = some quotient ∧
    memory.Holds (max 2 quotient.nearest * 2) ∧
    memory.Holds (max 2 quotient.nearest * max 1 d.channels * 2)

/-- A device with a positive rate whose numbers have thirty-two bits, on a host
that grants it a second of samples and all that is less. -/
structure AudioDevice.Modest (d : AudioDevice) (memory : Number.Room) : Prop where
  rate_pos : 0 < d.rate
  rate_lt : d.rate < 2 ^ 31
  channels_lt : d.channels < 2 ^ 31
  granted : ∀ period : Int, 0 ≤ period → period ≤ max 2 d.rate →
    memory.grants (period * 2).toNat = true ∧
    memory.grants (period * max 1 d.channels * 2).toNat = true

theorem AudioDevice.hasRoom_of_modest {d : AudioDevice} {memory : Number.Room}
    (h : d.Modest memory) {frequency : Int} (positive : 0 < frequency) :
    d.HasRoom memory frequency := by
  have hfast := h.rate_lt
  have hwide := h.channels_lt
  obtain ⟨quotient, hquotient, -, hle⟩ :=
    Number.Binary64.nearest_ofQuotient h.rate_pos (by omega) positive
  have hperiod : 0 ≤ max 2 quotient.nearest := by omega
  obtain ⟨hfirst, hall⟩ := h.granted _ hperiod (max_le_max le_rfl hle)
  have hbytes : max 2 quotient.nearest * max 1 d.channels * 2 < 2 ^ 63 := by
    have hproduct : max 2 quotient.nearest * max 1 d.channels ≤ (2 ^ 31 - 1) * (2 ^ 31 - 1) :=
      mul_le_mul (by omega) (by omega) (by omega) (by norm_num)
    omega
  refine ⟨quotient, hquotient, ⟨(Number.fitsLong_iff (by omega)).mpr (by omega), hfirst⟩,
    (Number.fitsLong_iff ?_).mpr hbytes, hall⟩
  exact mul_nonneg (mul_nonneg hperiod (by omega)) (by norm_num)

namespace Wave

/-- The level of an amplitude that is a byte is a sample, and so is its
negative. -/
theorem isSample_level {amplitude : Int} (hlow : 0 ≤ amplitude) (hhigh : amplitude ≤ 255) :
    isSample (amplitude * 128) = true ∧ isSample (-(amplitude * 128)) = true := by
  simp only [isSample, Bool.and_eq_true, decide_eq_true_iff]
  omega

theorem checkLevel_level {amplitude : Int} (hlow : 0 ≤ amplitude) (hhigh : amplitude ≤ 255) :
    checkLevel (amplitude * 128) = .ok () := by
  obtain ⟨hpos, hneg⟩ := isSample_level hlow hhigh
  unfold checkLevel
  rw [hpos, hneg]
  rfl

theorem isSample_of_mem_samples {w : Wave} (hpos : isSample w.level = true)
    (hneg : isSample (-w.level) = true) : ∀ n ∈ w.samples, isSample n = true := by
  intro n hn
  obtain ⟨k, -, rfl⟩ := List.mem_map.mp hn
  unfold sample
  split
  · exact hpos
  · exact hneg

section Square

variable {device : AudioDevice} {memory : Number.Room} {frequency amplitude : Int}

/-- With a level that is a sample, building a wave is making room for it. -/
theorem square_of_quotient {quotient : Number.Binary64} (positive : 0 < frequency)
    (hlow : 0 ≤ amplitude) (hhigh : amplitude ≤ 255)
    (hquotient : Number.Binary64.ofQuotient? device.rate frequency = some quotient) :
    square memory device.rate frequency amplitude device.channels = do
      let period ←
        (Number.allocate memory (max 2 quotient.nearest) 2 "int16").mapError WaveError.noRoom
      let channels ← (Number.allocateRows memory period device.channels 2 "int16").mapError .noRoom
      return { period, level := amplitude * 128, channels } := by
  unfold square
  rw [if_neg positive.ne', hquotient]
  simp only [checkLevel_level hlow hhigh]
  rfl

/-- The wave of a tone, where there is room for it. -/
theorem square_of_room (positive : 0 < frequency) (hlow : 0 ≤ amplitude) (hhigh : amplitude ≤ 255)
    (room : device.HasRoom memory frequency) :
    ∃ w, square memory device.rate frequency amplitude device.channels = .ok w ∧
      w.level = amplitude * 128 := by
  obtain ⟨quotient, hquotient, hfirst, hall⟩ := room
  obtain ⟨period, hperiod⟩ := Int.eq_ofNat_of_zero_le (by omega : 0 ≤ max 2 quotient.nearest)
  rw [square_of_quotient positive hlow hhigh hquotient]
  rw [hperiod] at hfirst hall ⊢
  rw [Number.allocate_of_holds (by omega) Nat.two_pos hfirst, Int.toNat_natCast]
  refine ⟨⟨period, amplitude * 128, (max 1 device.channels).toNat⟩, ?_, rfl⟩
  show ((Number.allocateRows memory _ device.channels 2 "int16").mapError
    WaveError.noRoom >>= _) = _
  rw [Number.allocateRows_of_holds (by omega) Nat.two_pos hall]
  rfl

/-- Where there is no room for the wave of a tone, that is the only thing
there is against it. -/
theorem square_of_no_room (positive : 0 < frequency) (hlow : 0 ≤ amplitude)
    (hhigh : amplitude ≤ 255) (full : ¬device.HasRoom memory frequency) :
    square memory device.rate frequency amplitude device.channels = .error .quotientOutOfRange ∨
      ∃ s, square memory device.rate frequency amplitude device.channels = .error (.noRoom s) := by
  cases hquotient : Number.Binary64.ofQuotient? device.rate frequency with
  | none =>
    left
    unfold square
    rw [if_neg positive.ne', hquotient]
  | some quotient =>
    right
    obtain ⟨period, hperiod⟩ := Int.eq_ofNat_of_zero_le (by omega : 0 ≤ max 2 quotient.nearest)
    rw [square_of_quotient positive hlow hhigh hquotient, hperiod]
    by_cases hfirst : memory.Holds ((period : Int) * (2 : Nat))
    · have hfull : ¬memory.Holds ((period : Int) * max 1 device.channels * (2 : Nat)) :=
        fun hall => full ⟨quotient, hquotient, by rw [hperiod]; exact hfirst, by
          rw [hperiod]; exact hall⟩
      obtain ⟨s, hs⟩ := Number.allocateRows_of_not_holds hfirst hfull "int16"
      refine ⟨s, ?_⟩
      rw [Number.allocate_of_holds (by omega) Nat.two_pos hfirst, Int.toNat_natCast]
      show ((Number.allocateRows memory _ device.channels 2 "int16").mapError
        WaveError.noRoom >>= _) = _
      rw [hs]
      rfl
    · obtain ⟨s, hs⟩ := Number.allocate_of_not_holds hfirst "int16"
      refine ⟨s, ?_⟩
      rw [hs]
      rfl

end Square

end Wave

/-! ## The beeper -/

/-- The audio of a host takes a tone for a sound: there is a device, and it
takes the wave. -/
def Audio.Sounds (audio : Audio) (memory : Number.Room) (frequency amplitude : Int) : Prop :=
  ∃ d w, audio.device = .ok d ∧
    Wave.square memory d.rate frequency amplitude d.channels = .ok w ∧ audio.sound w = .ok ()

/-- The audio of a host fails on a tone: there is no device, or the one there is
does not take the wave for a sound. -/
def Audio.Fails (audio : Audio) (memory : Number.Room) (frequency amplitude : Int)
    (reason : String) : Prop :=
  audio.device = .error reason ∨ ∃ d w, audio.device = .ok d ∧
    Wave.square memory d.rate frequency amplitude d.channels = .ok w ∧ audio.sound w = .error reason

namespace Beeper

/-- How building a beeper goes. -/
inductive Making (frequency amplitude : Int) (enable : Bool) (memory : Number.Room)
    (audio : Audio) : Except WaveError Beeper → Prop where
  /-- It is switched off. -/
  | off (disabled : enable = false) :
      Making frequency amplitude enable memory audio (.ok { frequency, amplitude })
  /-- Its frequency is too long to be told. -/
  | unwritable (enabled : enable = true) (long : Number.isWritable frequency = false) :
      Making frequency amplitude enable memory audio (.error .unwritable)
  /-- There is no device. -/
  | mute (reason : String) (enabled : enable = true)
      (writable : Number.isWritable frequency = true) (missing : audio.device = .error reason) :
      Making frequency amplitude enable memory audio (.ok { frequency, amplitude })
  /-- There is a device with room for the wave, and it takes it for a sound. -/
  | heard (d : AudioDevice) (w : Wave) (enabled : enable = true)
      (writable : Number.isWritable frequency = true) (opened : audio.device = .ok d)
      (room : d.HasRoom memory frequency)
      (built : Wave.square memory d.rate frequency amplitude d.channels = .ok w)
      (taken : audio.sound w = .ok ()) (level : w.level = amplitude * 128) :
      Making frequency amplitude enable memory audio
        (.ok { frequency, amplitude, wave := some w })
  /-- There is a device with room for the wave, but the wave is no sound to it. -/
  | unheard (d : AudioDevice) (w : Wave) (reason : String) (enabled : enable = true)
      (writable : Number.isWritable frequency = true) (opened : audio.device = .ok d)
      (room : d.HasRoom memory frequency)
      (built : Wave.square memory d.rate frequency amplitude d.channels = .ok w)
      (refused : audio.sound w = .error reason) :
      Making frequency amplitude enable memory audio (.ok { frequency, amplitude })
  /-- There is a device without room for the wave. -/
  | full (d : AudioDevice) (e : WaveError) (enabled : enable = true)
      (writable : Number.isWritable frequency = true) (opened : audio.device = .ok d)
      (full : ¬d.HasRoom memory frequency)
      (said : e = .quotientOutOfRange ∨ ∃ s, e = .noRoom s) :
      Making frequency amplitude enable memory audio (.error e)

theorem isWritable_byte {n : Int} (hlow : 0 ≤ n) (hhigh : n ≤ 255) :
    Number.isWritable n = true :=
  Number.isWritable_of_small (by omega)

/-- **Building a beeper with a positive frequency and an amplitude that is a
byte goes in one of six ways.** -/
theorem making_make {frequency amplitude : Int} (positive : 0 < frequency) (hlow : 0 ≤ amplitude)
    (hhigh : amplitude ≤ 255) (enable : Bool) (memory : Number.Room) (audio : Audio) :
    Making frequency amplitude enable memory audio
      (make frequency amplitude enable memory audio).1 := by
  cases enable with
  | false => exact .off rfl
  | true =>
    unfold make
    rw [isWritable_byte hlow hhigh]
    cases hwritable : Number.isWritable frequency with
    | false => exact .unwritable rfl hwritable
    | true =>
      simp only [Bool.not_true, Bool.and_self, Bool.false_eq_true, if_false]
      cases hdevice : audio.device with
      | error reason => exact .mute reason rfl hwritable hdevice
      | ok d =>
        by_cases hroom : d.HasRoom memory frequency
        · obtain ⟨w, hw, hlevel⟩ := Wave.square_of_room positive hlow hhigh hroom
          simp only [hw]
          cases hsound : audio.sound w with
          | error reason => exact .unheard d w reason rfl hwritable hdevice hroom hw hsound
          | ok _ => exact .heard d w rfl hwritable hdevice hroom hw hsound hlevel
        · rcases Wave.square_of_no_room positive hlow hhigh hroom with he | ⟨s, he⟩
          · simp only [he]
            exact .full d _ rfl hwritable hdevice hroom (Or.inl rfl)
          · simp only [he]
            exact .full d _ rfl hwritable hdevice hroom (Or.inr ⟨s, rfl⟩)

/-- **A failure of the audio leaves a beeper silent**, and is told. -/
theorem make_of_fails {frequency amplitude : Int} {memory : Number.Room} {audio : Audio}
    {reason : String} (writable : Number.isWritable frequency = true)
    (writable' : Number.isWritable amplitude = true)
    (fails : audio.Fails memory frequency amplitude reason) :
    (make frequency amplitude true memory audio).1 = .ok { frequency, amplitude } ∧
      (make frequency amplitude true memory audio).2.getLast? = some (silencedRecord reason) := by
  unfold make
  rw [writable, writable']
  simp only [Bool.not_true, Bool.and_self, Bool.false_eq_true, if_false]
  rcases fails with missing | ⟨d, w, opened, built, refused⟩
  · simp only [missing]
    exact ⟨trivial, rfl⟩
  · simp only [opened, built, refused]
    exact ⟨trivial, rfl⟩

section Reading

variable {frequency amplitude : Int} {enable : Bool} {memory : Number.Room} {audio : Audio}
  {made : Except WaveError Beeper} {b : Beeper}

/-- There is a beeper unless one is wanted whose frequency cannot be told, or
whose wave has no room on the device. -/
theorem Making.built_iff (h : Making frequency amplitude enable memory audio made) :
    (∃ b, made = .ok b) ↔ (enable = true → Number.isWritable frequency = true ∧
      ∀ d, audio.device = .ok d → d.HasRoom memory frequency) := by
  cases h with
  | off disabled => exact ⟨fun _ enabled => by simp [disabled] at enabled, fun _ => ⟨_, rfl⟩⟩
  | unwritable enabled long =>
    refine ⟨fun ⟨b, hb⟩ => (nomatch hb), fun h => ?_⟩
    have writable := (h enabled).1
    rw [long] at writable
    cases writable
  | mute reason enabled writable missing =>
    refine ⟨fun _ _ => ⟨writable, fun d opened => ?_⟩, fun _ => ⟨_, rfl⟩⟩
    rw [missing] at opened
    cases opened
  | heard d _ enabled writable opened room | unheard d _ _ enabled writable opened room =>
    refine ⟨fun _ _ => ⟨writable, fun d' opened' => ?_⟩, fun _ => ⟨_, rfl⟩⟩
    rw [opened] at opened'
    injection opened' with hd
    exact hd ▸ room
  | full d e enabled writable opened full =>
    exact ⟨fun ⟨b, hb⟩ => (nomatch hb), fun h => absurd ((h enabled).2 d opened) full⟩

/-- A beeper has the numbers it was asked for. It is heard if it is wanted and
the audio takes its tone for a sound, and is silent otherwise. -/
theorem Making.of_ok (h : Making frequency amplitude enable memory audio (.ok b)) :
    b.frequency = frequency ∧ b.amplitude = amplitude ∧
      (b.available = true ↔ enable = true ∧ audio.Sounds memory frequency amplitude) ∧
      ∀ w, b.wave = some w → w.level = amplitude * 128 := by
  cases h with
  | off disabled =>
    refine ⟨rfl, rfl, ⟨fun h => (nomatch h), fun h => ?_⟩, fun w hw => (nomatch hw)⟩
    rw [disabled] at h
    exact nomatch h.1
  | mute reason enabled writable missing =>
    refine ⟨rfl, rfl, ⟨fun h => (nomatch h), fun h => ?_⟩, fun w hw => (nomatch hw)⟩
    obtain ⟨-, d, w, opened, -⟩ := h
    rw [missing] at opened
    cases opened
  | heard d w enabled writable opened room built taken level =>
    refine ⟨rfl, rfl, ⟨fun _ => ⟨enabled, d, w, opened, built, taken⟩, fun _ => rfl⟩,
      fun w' hw => ?_⟩
    have hwave : w = w' := Option.some.inj hw
    rw [← hwave]
    exact level
  | unheard d w reason enabled writable opened room built refused =>
    refine ⟨rfl, rfl, ⟨fun h => (nomatch h), fun h => ?_⟩, fun w hw => (nomatch hw)⟩
    obtain ⟨-, d', w', opened', built', taken⟩ := h
    rw [opened] at opened'
    obtain rfl := Except.ok.inj opened'
    rw [built] at built'
    obtain rfl := Except.ok.inj built'
    rw [refused] at taken
    cases taken

theorem Making.unwritable_of_long (h : Making frequency amplitude enable memory audio made)
    (enabled : enable = true) (long : Number.isWritable frequency = false) :
    made = .error .unwritable := by
  cases h with
  | off disabled => simp [disabled] at enabled
  | unwritable => rfl
  | mute _ _ writable | heard _ _ _ writable | unheard _ _ _ _ writable | full _ _ _ writable =>
    simp [long] at writable

theorem Making.full_of_no_room (h : Making frequency amplitude enable memory audio made)
    (enabled : enable = true) (writable : Number.isWritable frequency = true) {d : AudioDevice}
    (opened : audio.device = .ok d) (full : ¬d.HasRoom memory frequency) :
    made = .error .quotientOutOfRange ∨ ∃ s, made = .error (.noRoom s) := by
  cases h with
  | off disabled => simp [disabled] at enabled
  | unwritable _ long => simp [long] at writable
  | mute _ _ _ missing => simp [missing] at opened
  | heard d' _ _ _ opened' room | unheard d' _ _ _ _ opened' room =>
    rw [opened'] at opened
    injection opened with hd
    exact absurd (hd ▸ room) full
  | full _ e _ _ _ _ said =>
    rcases said with rfl | ⟨s, rfl⟩
    · exact Or.inl rfl
    · exact Or.inr ⟨s, rfl⟩

end Reading

end Beeper

end Chip8
