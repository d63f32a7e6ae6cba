/-
Chip8.Proofs.Settings.Accepted — what is known of settings that were
accepted.

Settings are accepted exactly if they are read from the entries of the table
and are within their bounds (`check_eq_ok_iff`): frequencies are positive and
have no upper bound, and the amplitude is a byte. Every table that is returned
for a file is one over the defaults that has been accepted
(`overDefaults_of_load`).
-/
import Chip8.Proofs.Settings.Outcome

namespace Chip8

namespace Settings

/-- The numbers of settings are what the check asks of them. -/
structure InBounds (s : Settings) : Prop where
  scale : 0 < s.scale
  cpuHz : 0 < s.cpuHz
  timerHz : 0 < s.timerHz
  frequency : 0 < s.frequency
  amplitude_nonneg : 0 ≤ s.amplitude
  amplitude_le : s.amplitude ≤ 255

end Settings

/-- A section of a table has a value under a key. -/
def Table.Holds (t : Table) (name key : String) (v : Value) : Prop :=
  ∃ sub : Table, t.get? name = some (.table sub) ∧ sub.get? key = some v

namespace Settings

/-- The entries of a table that settings are read from, the keyboard apart. -/
structure ReadFrom (t : Table) (s : Settings) : Prop where
  scale : t.Holds "general" "scale" (.int s.scale)
  cpuHz : t.Holds "general" "cpu_hz" (.int s.cpuHz)
  timerHz : t.Holds "general" "timer_hz" (.int s.timerHz)
  enable : t.Holds "audio" "enable" (.bool s.enable)
  frequency : t.Holds "audio" "frequency" (.int s.frequency)
  amplitude : t.Holds "audio" "amplitude" (.int s.amplitude)

variable {t : Table} {name key : String} {v : Value}

/-! ## The check, entry by entry -/

theorem entryOf_eq_ok_iff {w : Value} :
    entryOf w key = .ok v ↔ ∃ sub : Table, w = .table sub ∧ sub.get? key = some v := by
  unfold entryOf
  cases w <;> simp [entry_eq_ok_iff]

theorem positive_eq_ok_iff {n : Int} : positive name v = .ok n ↔ v = .int n ∧ 0 < n := by
  unfold positive
  cases v with
  | int m => by_cases h : m > 0 <;> grind
  | _ => simp

theorem boolean_eq_ok_iff {b : Bool} : boolean v = .ok b ↔ v = .bool b := by
  unfold boolean
  cases v <;> simp

theorem byteRange_eq_ok_iff {n : Int} :
    byteRange v = .ok n ↔ v = .int n ∧ 0 ≤ n ∧ n ≤ 255 := by
  unfold byteRange
  cases v with
  | int m => by_cases h : 0 ≤ m ∧ m ≤ 255 <;> grind
  | _ => simp

/-- The check of one entry of a section. -/
def setting {α : Type} (t : Table) (name key : String) (f : Value → Except Problem α) :
    Except Problem α := do
  f (← entryOf (← entry t name) key)

theorem setting_eq_ok_iff {α : Type} {f : Value → Except Problem α} {a : α} :
    setting t name key f = .ok a ↔ ∃ v, t.Holds name key v ∧ f v = .ok a := by
  simp only [setting, Toml.bind_eq_ok, entry_eq_ok_iff, entryOf_eq_ok_iff, Table.Holds]
  constructor
  · rintro ⟨_, hsection, v, ⟨sub, rfl, hentry⟩, hf⟩
    exact ⟨v, ⟨sub, hsection, hentry⟩, hf⟩
  · rintro ⟨v, ⟨sub, hsection, hentry⟩, hf⟩
    exact ⟨_, hsection, v, ⟨sub, rfl, hentry⟩, hf⟩

theorem check_eq_settings (t : Table) :
    check t = do
      let scale ← setting t "general" "scale" (positive "general.scale")
      let cpuHz ← setting t "general" "cpu_hz" (positive "general.cpu_hz")
      let timerHz ← setting t "general" "timer_hz" (positive "general.timer_hz")
      let enable ← setting t "audio" "enable" boolean
      let frequency ← setting t "audio" "frequency" (positive "audio.frequency")
      let amplitude ← setting t "audio" "amplitude" byteRange
      let keyboard ← keyboardSection t
      return { scale, cpuHz, timerHz, enable, frequency, amplitude, keyboard } := by
  simp only [check, setting, keyboardSection, bind_assoc]

/-- **Settings are accepted exactly if they are what the table says and within
their bounds.** -/
theorem check_eq_ok_iff {s : Settings} :
    check t = .ok s ↔ s.ReadFrom t ∧ s.InBounds ∧ keyboardSection t = .ok s.keyboard := by
  simp only [check_eq_settings, Toml.bind_eq_ok, setting_eq_ok_iff, positive_eq_ok_iff,
    boolean_eq_ok_iff, byteRange_eq_ok_iff]
  constructor
  · rintro ⟨scale, ⟨_, hscale, rfl, hpos₁⟩, cpuHz, ⟨_, hcpuHz, rfl, hpos₂⟩,
      timerHz, ⟨_, htimerHz, rfl, hpos₃⟩, enable, ⟨_, henable, rfl⟩,
      frequency, ⟨_, hfrequency, rfl, hpos₄⟩, amplitude, ⟨_, hamplitude, rfl, hlow, hhigh⟩,
      keyboard, hkeyboard, h⟩
    injection h with h
    subst h
    exact ⟨⟨hscale, hcpuHz, htimerHz, henable, hfrequency, hamplitude⟩,
      ⟨hpos₁, hpos₂, hpos₃, hpos₄, hlow, hhigh⟩, hkeyboard⟩
  · rintro ⟨h, hbounds, hkeyboard⟩
    exact ⟨_, ⟨_, h.scale, rfl, hbounds.scale⟩, _, ⟨_, h.cpuHz, rfl, hbounds.cpuHz⟩,
      _, ⟨_, h.timerHz, rfl, hbounds.timerHz⟩, _, ⟨_, h.enable, rfl⟩,
      _, ⟨_, h.frequency, rfl, hbounds.frequency⟩,
      _, ⟨_, h.amplitude, rfl, hbounds.amplitude_nonneg, hbounds.amplitude_le⟩,
      _, hkeyboard, rfl⟩

theorem inBounds_of_check {s : Settings} (h : check t = .ok s) : s.InBounds :=
  (check_eq_ok_iff.mp h).2.1

/-! ## What is returned for a file -/

theorem check_defaults : ∃ s, check defaults = .ok s := by
  have hpasses : (check defaults).isOk = true := by decide +kernel
  cases h : check defaults with
  | error problem =>
    rw [h] at hpasses
    cases hpasses
  | ok s => exact ⟨s, rfl⟩

theorem overDefaults_nil : overDefaults [] = defaults := by
  simp [overDefaults, normalised, Table.get?, Table.merge]

/-- A table that is returned for a settings file is that of a file over the
defaults, and it checks. The defaults are what comes of an empty file. -/
theorem overDefaults_of_load {depth : Nat} {path : String} {source : Source} {config : Table}
    (h : (load depth path source).1 = .ok config) :
    ∃ t : Table, t.Distinct ∧ config = overDefaults t ∧ ∃ s, check config = .ok s := by
  have hkept : defaults = config →
      ∃ t : Table, t.Distinct ∧ config = overDefaults t ∧ ∃ s, check config = .ok s := by
    rintro rfl
    exact ⟨[], Table.distinct_nil, overDefaults_nil.symm, check_defaults⟩
  cases source with
  | absent | directory =>
    injection h with h
    exact hkept h
  | content bytes =>
    unfold load at h
    cases hread : document depth bytes with
    | ok t =>
      simp only [hread] at h
      rcases settle_cases t with ⟨s, hcheck, hsettle⟩ | ⟨f, -, hsettle⟩ | ⟨b, -, hsettle⟩
      · rw [hsettle] at h
        injection h with h
        exact ⟨t, distinct_document hread, h.symm, s, h ▸ hcheck⟩
      · rw [hsettle] at h
        injection h with h
        exact hkept h
      · rw [hsettle] at h
        cases h
    | error broken =>
      simp only [hread] at h
      cases broken with
      | malformed | tooManyDigits =>
        injection h with h
        exact hkept h
      | tooDeep => cases h

theorem check_of_load {depth : Nat} {path : String} {source : Source} {t : Table}
    (h : (load depth path source).1 = .ok t) : ∃ s, check t = .ok s := by
  obtain ⟨-, -, -, hcheck⟩ := overDefaults_of_load h
  exact hcheck

/-- What is told of the settings of a file by computing them. -/
def told {α : Type} (f : Table → Settings → α) (depth : Nat) (path : String) (source : Source) :
    Option α :=
  match (load depth path source).1 with
  | .error _ => none
  | .ok t => (check t).toOption.map (f t)

theorem exists_of_told {α : Type} {f : Table → Settings → α} {depth : Nat} {path : String}
    {source : Source} {a : α} (h : told f depth path source = some a) :
    ∃ t s, (load depth path source).1 = .ok t ∧ check t = .ok s ∧ f t s = a := by
  unfold told at h
  split at h
  · cases h
  · rename_i t hload
    obtain ⟨s, hs, hf⟩ := Option.map_eq_some_iff.mp h
    refine ⟨t, s, hload, ?_, hf⟩
    cases hcheck : check t with
    | error problem =>
      rw [hcheck] at hs
      cases hs
    | ok s' =>
      rw [hcheck] at hs
      injection hs with hs
      rw [hs]

end Settings

end Chip8
