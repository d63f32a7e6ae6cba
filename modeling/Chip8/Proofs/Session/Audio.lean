/-
Chip8.Proofs.Session.Audio — which accepted audio tables give a beeper.

The check of settings looks at three entries of the audio table and lets all
others through; a beeper knows these three and no others. So a table that is
accepted may still have an entry that no beeper knows, and a session breaks
off on it with its image loaded and its window open. Apart from that a beeper
that is wanted can fail on a frequency that is too long to be told and on
memory that the host does not have for the wave, and on nothing else: not on
a device that cannot be opened or does not take the wave, which only leaves
the beeper silent, and not on the level of the wave (`toneBy_of_check`,
`accepted_audio`, `accepted_audio_breaks_off`).
-/
import Chip8.Proofs.Session.Frequency
import Chip8.Proofs.Sound.Build

namespace Chip8.Session

/-- The audio table has no entry but those that a beeper knows. -/
def AudioKnown (table : Table) : Prop :=
  ∀ audio, table.get? "audio" = some (.table audio) → ∀ key ∈ Table.keys audio, key ∈ audioKeys

theorem unknownAudioKey?_eq_none_iff {table : Table} :
    unknownAudioKey? table = none ↔ AudioKnown table := by
  unfold unknownAudioKey? AudioKnown
  split
  · rename_i audio haudio
    simp [List.find?_eq_none, haudio]
  · rename_i hother
    exact ⟨fun _ audio haudio => absurd haudio (hother audio), fun _ => rfl⟩

theorem unknown_of_unknownAudioKey? {table : Table} {key : String}
    (h : unknownAudioKey? table = some key) :
    ∃ audio, table.get? "audio" = some (.table audio) ∧ key ∈ Table.keys audio ∧
      key ∉ audioKeys := by
  unfold unknownAudioKey? at h
  split at h
  · rename_i audio haudio
    have hunknown := List.find?_some h
    exact ⟨audio, haudio, List.mem_of_find?_eq_some h, by simpa using hunknown⟩
  · cases h

/-- What becomes of the tone that a table asks for, by the memory and the audio
of a host. -/
structure ToneBy (memory : Number.Room) (audio : Audio) (table : Table) (settings : Settings) :
    Prop where
  /-- There is a beeper unless there is an unknown entry, or one is wanted
  whose frequency cannot be told or whose wave has no room on the device. -/
  built : (∃ beeper, tone memory audio table settings = .ok beeper) ↔
    AudioKnown table ∧ (settings.enable = true →
      Number.isWritable settings.frequency = true ∧
      ∀ d, audio.device = .ok d → d.HasRoom memory settings.frequency)
  /-- The beeper is silent at first, and for good unless the audio takes its
  wave for a sound. -/
  silent : ∀ beeper, tone memory audio table settings = .ok beeper →
    beeper.frequency = settings.frequency ∧ beeper.amplitude = settings.amplitude ∧
    beeper.playing = false ∧
    (beeper.available = true ↔
      settings.enable = true ∧ audio.Sounds memory settings.frequency settings.amplitude)
  /-- A failure of the audio is told, and leaves a silent beeper. -/
  failing : AudioKnown table → settings.enable = true →
    Number.isWritable settings.frequency = true →
    ∀ reason, audio.Fails memory settings.frequency settings.amplitude reason →
    tone memory audio table settings =
        .ok { frequency := settings.frequency, amplitude := settings.amplitude } ∧
      (Beeper.make settings.frequency settings.amplitude true memory audio).2.getLast? =
        some (Beeper.silencedRecord reason)
  /-- What is played are samples. -/
  samples : ∀ beeper wave, tone memory audio table settings = .ok beeper →
    beeper.wave = some wave → ∀ n ∈ wave.samples, Wave.isSample n = true
  /-- An unknown entry is named. -/
  unknown : ¬AudioKnown table → ∃ audioTable key, table.get? "audio" = some (.table audioTable) ∧
    key ∈ Table.keys audioTable ∧ key ∉ audioKeys ∧
    tone memory audio table settings = .error (.unknownAudioKey key)
  /-- A frequency that is too long to be told is refused, with a device or
  without. -/
  unwritable : AudioKnown table → settings.enable = true →
    Number.isWritable settings.frequency = false →
    tone memory audio table settings = .error (.wave .unwritable)
  /-- Otherwise only room can be lacking. -/
  full : AudioKnown table → settings.enable = true →
    Number.isWritable settings.frequency = true →
    ∀ d, audio.device = .ok d → ¬d.HasRoom memory settings.frequency →
    tone memory audio table settings = .error (.wave .quotientOutOfRange) ∨
      ∃ s, tone memory audio table settings = .error (.wave (.noRoom s))

section Tone

variable {memory : Number.Room} {audio : Audio} {table : Table} {settings : Settings}

/-- Where all entries are known, the tone is how building the beeper went. -/
theorem exists_making (accepted : Settings.check table = .ok settings)
    (known : AudioKnown table) (memory : Number.Room) (audio : Audio) :
    ∃ made, Beeper.Making settings.frequency settings.amplitude settings.enable memory audio made ∧
      (∀ b, made = .ok b → b.playing = false) ∧
      tone memory audio table settings = made.mapError .wave := by
  have hbounds := Settings.inBounds_of_check accepted
  exact ⟨_, Beeper.making_make hbounds.frequency hbounds.amplitude_nonneg hbounds.amplitude_le
      settings.enable memory audio,
    fun b hb => Beeper.playing_of_make hb, tone_of_known (unknownAudioKey?_eq_none_iff.mpr known)⟩

theorem tone_of_unknown (unknown : ¬AudioKnown table) (memory : Number.Room) (audio : Audio)
    (settings : Settings) :
    ∃ key, unknownAudioKey? table = some key ∧
      tone memory audio table settings = .error (.unknownAudioKey key) := by
  obtain ⟨key, hkey⟩ := Option.ne_none_iff_exists'.mp
    (unknownAudioKey?_eq_none_iff.not.mpr unknown)
  refine ⟨key, hkey, ?_⟩
  unfold tone
  rw [hkey]

theorem known_of_tone {beeper : Beeper} (h : tone memory audio table settings = .ok beeper) :
    AudioKnown table := by
  by_contra unknown
  obtain ⟨key, -, htone⟩ := tone_of_unknown unknown memory audio settings
  rw [htone] at h
  cases h

theorem mapError_eq_ok {ε ε' α : Type} {f : ε → ε'} {x : Except ε α} {a : α} :
    x.mapError f = .ok a ↔ x = .ok a := by
  cases x <;> simp [Except.mapError]

/-- **What becomes of the tone of accepted settings.** -/
theorem toneBy_of_check (accepted : Settings.check table = .ok settings)
    (memory : Number.Room) (audio : Audio) : ToneBy memory audio table settings where
  built := by
    by_cases known : AudioKnown table
    · obtain ⟨made, hmaking, -, htone⟩ := exists_making accepted known memory audio
      simp only [htone, mapError_eq_ok, hmaking.built_iff, known, true_and]
    · exact ⟨fun ⟨_, h⟩ => absurd (known_of_tone h) known, fun h => absurd h.1 known⟩
  silent := by
    intro beeper h
    obtain ⟨made, hmaking, hplaying, htone⟩ :=
      exists_making accepted (known_of_tone h) memory audio
    rw [htone, mapError_eq_ok] at h
    subst h
    obtain ⟨hfrequency, hamplitude, havailable, -⟩ := hmaking.of_ok
    exact ⟨hfrequency, hamplitude, hplaying beeper rfl, havailable⟩
  failing := by
    intro known enabled writable reason fails
    have hbounds := Settings.inBounds_of_check accepted
    obtain ⟨hmade, htold⟩ := Beeper.make_of_fails writable
      (Beeper.isWritable_byte hbounds.amplitude_nonneg hbounds.amplitude_le) fails
    refine ⟨?_, htold⟩
    rw [tone_of_known (unknownAudioKey?_eq_none_iff.mpr known), enabled, hmade]
    rfl
  samples := by
    intro beeper wave h hwave
    have hbounds := Settings.inBounds_of_check accepted
    obtain ⟨hpos, hneg⟩ := Wave.isSample_level hbounds.amplitude_nonneg hbounds.amplitude_le
    obtain ⟨made, hmaking, -, htone⟩ := exists_making accepted (known_of_tone h) memory audio
    rw [htone, mapError_eq_ok] at h
    subst h
    have hlevel := hmaking.of_ok.2.2.2 wave hwave
    rw [← hlevel] at hpos hneg
    exact Wave.isSample_of_mem_samples hpos hneg
  unknown := by
    intro hunknown
    obtain ⟨key, hkey, htone⟩ := tone_of_unknown hunknown memory audio settings
    obtain ⟨audioTable, haudio, hmem, hforeign⟩ := unknown_of_unknownAudioKey? hkey
    exact ⟨audioTable, key, haudio, hmem, hforeign, htone⟩
  unwritable := by
    intro known enabled long
    obtain ⟨made, hmaking, -, htone⟩ := exists_making accepted known memory audio
    rw [htone, hmaking.unwritable_of_long enabled long]
    rfl
  full := by
    intro known enabled writable d opened full
    obtain ⟨made, hmaking, -, htone⟩ := exists_making accepted known memory audio
    rw [htone]
    rcases hmaking.full_of_no_room enabled writable opened full with rfl | ⟨s, rfl⟩
    · exact Or.inl rfl
    · exact Or.inr ⟨s, rfl⟩

end Tone

/-! ## The statement -/

/-- **Accepted audio tables give a beeper, up to unknown entries and numbers
that are too long.** A table that is returned for a settings file is accepted,
and its tone is as `ToneBy` has it for every memory and every audio. Memory
for a second of samples of a device has room for any wave. With image and
window, and whatever events come, a session breaks off on its tone exactly if
there is none, and is left to its frequencies otherwise. -/
theorem accepted_audio {depth : Nat} {path : String} {source : Settings.Source} {table : Table}
    (loaded : (Settings.load depth path source).1 = .ok table) :
    ∃ settings, Settings.check table = .ok settings ∧
      (∀ memory audio, ToneBy memory audio table settings) ∧
      (∀ (memory : Number.Room) (d : AudioDevice), d.Modest memory →
        d.HasRoom memory settings.frequency) ∧
      ∀ (host : Host) (argv : List String) (rom : Rom) (display : Display),
        Opened host argv table settings rom display →
        ∀ (batches : List (List Event)) (clock : Clock),
          (∀ e, tone host.memory host.audio table settings = .error e →
            (run host argv batches clock).result = .error e) ∧
          ∀ beeper, tone host.memory host.audio table settings = .ok beeper →
            RunBy settings host argv batches clock := by
  obtain ⟨settings, accepted⟩ := Settings.check_of_load loaded
  have hbounds := Settings.inBounds_of_check accepted
  refine ⟨settings, accepted, toneBy_of_check accepted,
    fun memory d modest => AudioDevice.hasRoom_of_modest modest hbounds.frequency,
    fun host argv rom display opened batches clock => ⟨fun e failed => ?_,
      fun beeper toned => runBy_of_opened opened toned batches clock⟩⟩
  obtain ⟨told, hbegin⟩ := begin_of_no_tone opened failed
  exact run_of_begin_error hbegin batches clock

/-- Without a settings file, every device that the memory has a second of
samples for gives a beeper. It can be heard if the device takes every wave for
a sound, and is silent if it takes none. -/
theorem accepted_audio_defaults :
    (Settings.load 0 "/w/config.toml" .absent).1 = .ok Settings.defaults ∧
      ∃ settings, Settings.check Settings.defaults = .ok settings ∧
        ∀ (memory : Number.Room) (d : AudioDevice), d.Modest memory →
          (∃ beeper, tone memory { device := .ok d } Settings.defaults settings = .ok beeper ∧
            beeper.available = true) ∧
          ∃ beeper, tone memory { device := .ok d, sound := fun _ => .error "mono" }
            Settings.defaults settings = .ok beeper ∧ beeper.available = false := by
  have loaded : (Settings.load 0 "/w/config.toml" .absent).1 = .ok Settings.defaults := rfl
  obtain ⟨settings, accepted, htone, hroom, -⟩ := accepted_audio loaded
  have hsettings : settings = ⟨20, 500, 60, true, 440, 128, Settings.defaultKeyboard⟩ := by
    have hcheck : Settings.check Settings.defaults =
        .ok ⟨20, 500, 60, true, 440, 128, Settings.defaultKeyboard⟩ := rfl
    rw [accepted] at hcheck
    injection hcheck
  have henabled : settings.enable = true := by rw [hsettings]
  have hwritable : Number.isWritable settings.frequency = true := by
    rw [hsettings]
    decide +kernel
  have hknown : AudioKnown Settings.defaults :=
    unknownAudioKey?_eq_none_iff.mp (by decide +kernel)
  refine ⟨loaded, settings, accepted, fun memory d modest => ?_⟩
  have hbounds := Settings.inBounds_of_check accepted
  have hbuilds : ∀ sound, ∃ beeper,
      tone memory { device := .ok d, sound } Settings.defaults settings = .ok beeper :=
    fun sound => (htone memory _).built.mpr ⟨hknown, fun _ => ⟨hwritable,
      fun d' hd => Except.ok.inj hd ▸ hroom memory d modest⟩⟩
  obtain ⟨w, hw, -⟩ := Wave.square_of_room hbounds.frequency hbounds.amplitude_nonneg
    hbounds.amplitude_le (hroom memory d modest)
  refine ⟨?_, ?_⟩
  · obtain ⟨beeper, hbeeper⟩ := hbuilds fun _ => .ok ()
    exact ⟨beeper, hbeeper,
      ((htone memory _).silent beeper hbeeper).2.2.2.mpr ⟨henabled, d, w, rfl, hw, rfl⟩⟩
  · have hsilent := (htone memory { device := .ok d, sound := fun _ => .error "mono" }).failing
      hknown henabled hwritable "mono" (Or.inr ⟨d, w, rfl, hw, rfl⟩)
    exact ⟨_, hsilent.1, rfl⟩

/-- A settings file with an entry for the volume of the tone. -/
def volumeFile : Settings.Source :=
  .content "[general]\nscale = 1\n[audio]\nvolume = 3\n".toUTF8.toList

/-- The table of that file is accepted, no audio gives a beeper for it, and
the session breaks off. -/
theorem accepted_audio_breaks_off :
    ∃ table settings, (Settings.load (Toml.maxDepth - 1) (Location.join "/w" "config.toml").text
        volumeFile).1 = .ok table ∧
      Settings.check table = .ok settings ∧
      ∀ memory audio, tone memory audio table settings = .error (.unknownAudioKey "volume") ∧
        ∀ batches clock,
          (run (smallHost volumeFile memory audio) smallArguments batches clock).result =
            .error (.unknownAudioKey "volume") := by
  obtain ⟨table, settings, loaded, checked, hvalues⟩ := Settings.exists_of_told
    (f := fun t s => (s.scale, unknownAudioKey? t))
    (show Settings.told _ (Toml.maxDepth - 1) (Location.join "/w" "config.toml").text volumeFile =
      some (1, some "volume") by decide +kernel)
  obtain ⟨hscale, hkey⟩ := Prod.mk.inj hvalues
  refine ⟨table, settings, loaded, checked, fun memory audio => ?_⟩
  have failed : tone memory audio table settings = .error (.unknownAudioKey "volume") := by
    unfold tone
    rw [hkey]
  obtain ⟨display, opened⟩ := opened_small memory audio loaded checked
    (by rw [hscale]; decide +kernel)
  obtain ⟨told, hbegin⟩ := begin_of_no_tone opened failed
  exact ⟨failed, run_of_begin_error hbegin⟩

end Chip8.Session
