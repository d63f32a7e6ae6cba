/-
Chip8.Proofs.Settings.Outcome — what comes of a settings file.

The check of settings goes through three sections (`check_eq_error_iff`).
Laid over the defaults, a section of a file is either found as the file has
it, because it is no table, or it is a table with every entry that is looked
for (`section_cases`). So the check of a section breaks off on a section
that is no table and on nothing else (`section_breach_iff`), and the check
of a file where the file stumbles (`Stumble`, `check_breach_iff`): over the
first such section, if no flaw comes before it. `load_outcome` says for
every content of the file what is returned, and exactly when nothing is.
-/
import Chip8.Proofs.Toml.Tidy
import Chip8.Settings.Load

namespace Chip8.Settings

variable {t sub : Table} {key : String} {v : Value}

/-! ## The three sections of the check -/

/-- The check of the first section. -/
def generalSection (t : Table) : Except Problem (Int × Int × Int) := do
  let scale ← positive "general.scale" (← entryOf (← entry t "general") "scale")
  let cpuHz ← positive "general.cpu_hz" (← entryOf (← entry t "general") "cpu_hz")
  let timerHz ← positive "general.timer_hz" (← entryOf (← entry t "general") "timer_hz")
  return (scale, cpuHz, timerHz)

/-- The check of the second section. -/
def audioSection (t : Table) : Except Problem (Bool × Int × Int) := do
  let enable ← boolean (← entryOf (← entry t "audio") "enable")
  let frequency ← positive "audio.frequency" (← entryOf (← entry t "audio") "frequency")
  let amplitude ← byteRange (← entryOf (← entry t "audio") "amplitude")
  return (enable, frequency, amplitude)

/-- The check of the third section. -/
def keyboardSection (t : Table) : Except Problem (List (String × String)) := do
  keyEntries (← entriesOf (← entry t "keyboard"))

theorem check_eq (t : Table) :
    check t = do
      let (scale, cpuHz, timerHz) ← generalSection t
      let (enable, frequency, amplitude) ← audioSection t
      let keyboard ← keyboardSection t
      return { scale, cpuHz, timerHz, enable, frequency, amplitude, keyboard } := by
  simp only [check, generalSection, audioSection, keyboardSection, bind_assoc, pure_bind]

theorem check_eq_error_iff {e : Problem} :
    check t = .error e ↔
      generalSection t = .error e ∨
        ∃ g, generalSection t = .ok g ∧
          (audioSection t = .error e ∨ ∃ a, audioSection t = .ok a ∧ keyboardSection t = .error e) := by
  rw [check_eq]
  cases generalSection t with
  | error f => simp [bind, Except.bind]
  | ok g =>
    cases audioSection t with
    | error f => simp [bind, Except.bind]
    | ok a =>
      cases keyboardSection t <;> simp [bind, Except.bind, pure, Except.pure]

/-! ## Entries that are looked for -/

theorem ok_bind {ε α β : Type} (a : α) (f : α → Except ε β) : (Except.ok a >>= f) = f a := rfl

theorem error_bind {ε α β : Type} (e : ε) (f : α → Except ε β) :
    (Except.error e >>= f) = .error e := rfl

theorem entry_eq_ok_iff : entry t key = .ok v ↔ t.get? key = some v := by
  unfold entry Table.demand
  cases t.get? key <;> simp [Except.mapError]

theorem entry_of_get? (h : t.get? key = some v) : entry t key = .ok v := entry_eq_ok_iff.mpr h

/-- Nothing can be looked up in what is no table. -/
theorem entryOf_of_stray (h : v.isTable = false) (key : String) :
    entryOf v key = .error (.breach (.ofLookup v)) := by
  cases v with
  | table entries => cases h
  | _ => rfl

theorem entriesOf_of_stray (h : v.isTable = false) :
    entriesOf v = .error (.breach (.noItems v.kind)) := by
  cases v with
  | table entries => cases h
  | _ => rfl

/-! ## Checks that meet no breach -/

/-- A check passes, or fails with a flaw. -/
def NoBreach {α : Type} (r : Except Problem α) : Prop := ∀ b, r ≠ .error (.breach b)

theorem noBreach_ok {α : Type} (a : α) : NoBreach (.ok a) := by
  intro b h
  cases h

theorem noBreach_flaw {α : Type} (f : Flaw) : NoBreach (.error (.flaw f) : Except Problem α) := by
  intro b h
  cases h

theorem NoBreach.bind {α β : Type} {r : Except Problem α} {f : α → Except Problem β}
    (h : NoBreach r) (hf : ∀ a, NoBreach (f a)) : NoBreach (r >>= f) := by
  cases r with
  | error e =>
    intro b hb
    rw [error_bind] at hb
    injection hb with hb
    exact h b (congrArg _ hb)
  | ok a => exact hf a

theorem noBreach_positive (name : String) (v : Value) : NoBreach (positive name v) := by
  unfold positive
  split
  · split
    · exact noBreach_ok _
    · exact noBreach_flaw _
  · exact noBreach_flaw _

theorem noBreach_boolean (v : Value) : NoBreach (boolean v) := by
  unfold boolean
  split
  · exact noBreach_ok _
  · exact noBreach_flaw _

theorem noBreach_byteRange (v : Value) : NoBreach (byteRange v) := by
  unfold byteRange
  split
  · split
    · exact noBreach_ok _
    · exact noBreach_flaw _
  · exact noBreach_flaw _

theorem noBreach_keyEntry (key : String) (v : Value) : NoBreach (keyEntry key v) := by
  unfold keyEntry
  split
  · exact noBreach_flaw _
  · split
    · split
      · exact noBreach_flaw _
      · exact noBreach_ok _
    · exact noBreach_flaw _

theorem noBreach_keyEntries (entries : Table) : NoBreach (keyEntries entries) := by
  induction entries with
  | nil => exact noBreach_ok []
  | cons e rest ih =>
    obtain ⟨key, v⟩ := e
    exact (noBreach_keyEntry key v).bind fun _ => ih.bind fun _ => noBreach_ok _

/-! ## Sections that are no table, and sections that are -/

theorem generalSection_of_stray (h : t.get? "general" = some v) (stray : v.isTable = false) :
    generalSection t = .error (.breach (.ofLookup v)) := by
  simp only [generalSection, entry_of_get? h, ok_bind, entryOf_of_stray stray, error_bind]

theorem audioSection_of_stray (h : t.get? "audio" = some v) (stray : v.isTable = false) :
    audioSection t = .error (.breach (.ofLookup v)) := by
  simp only [audioSection, entry_of_get? h, ok_bind, entryOf_of_stray stray, error_bind]

theorem keyboardSection_of_stray (h : t.get? "keyboard" = some v) (stray : v.isTable = false) :
    keyboardSection t = .error (.breach (.noItems v.kind)) := by
  simp only [keyboardSection, entry_of_get? h, ok_bind, entriesOf_of_stray stray, error_bind]

theorem noBreach_generalSection (h : t.get? "general" = some (.table sub))
    (full : ∀ key ∈ ["scale", "cpu_hz", "timer_hz"], (sub.get? key).isSome = true) :
    NoBreach (generalSection t) := by
  obtain ⟨scale, hscale⟩ := Option.isSome_iff_exists.mp (full "scale" (by simp))
  obtain ⟨cpuHz, hcpuHz⟩ := Option.isSome_iff_exists.mp (full "cpu_hz" (by simp))
  obtain ⟨timerHz, htimerHz⟩ := Option.isSome_iff_exists.mp (full "timer_hz" (by simp))
  simp only [generalSection, entry_of_get? h, ok_bind, entryOf, entry_of_get? hscale,
    entry_of_get? hcpuHz, entry_of_get? htimerHz]
  exact (noBreach_positive _ scale).bind fun _ => (noBreach_positive _ cpuHz).bind fun _ =>
    (noBreach_positive _ timerHz).bind fun _ => noBreach_ok _

theorem noBreach_audioSection (h : t.get? "audio" = some (.table sub))
    (full : ∀ key ∈ ["enable", "frequency", "amplitude"], (sub.get? key).isSome = true) :
    NoBreach (audioSection t) := by
  obtain ⟨enable, henable⟩ := Option.isSome_iff_exists.mp (full "enable" (by simp))
  obtain ⟨frequency, hfrequency⟩ := Option.isSome_iff_exists.mp (full "frequency" (by simp))
  obtain ⟨amplitude, hamplitude⟩ := Option.isSome_iff_exists.mp (full "amplitude" (by simp))
  simp only [audioSection, entry_of_get? h, ok_bind, entryOf, entry_of_get? henable,
    entry_of_get? hfrequency, entry_of_get? hamplitude]
  exact (noBreach_boolean enable).bind fun _ => (noBreach_positive _ frequency).bind fun _ =>
    (noBreach_byteRange amplitude).bind fun _ => noBreach_ok _

theorem noBreach_keyboardSection (h : t.get? "keyboard" = some (.table sub)) :
    NoBreach (keyboardSection t) := by
  simp only [keyboardSection, entry_of_get? h, ok_bind, entriesOf]
  exact noBreach_keyEntries sub

/-! ## A file laid over the defaults -/

/-- The table of a file laid over the defaults. -/
def overDefaults (t : Table) : Table := Table.merge defaults (normalised t)

theorem distinct_normalised (h : t.Distinct) : (normalised t).Distinct := by
  unfold normalised
  split
  · exact h.insert "keyboard" _
  · exact h

/-- Upper case reaches the names of keys only: a table stays a table, and
what is none stays what it is. -/
theorem normalised_cases (t : Table) (key : String) :
    (normalised t).get? key = t.get? key ∨
      ∃ before after, t.get? key = some (.table before) ∧
        (normalised t).get? key = some (.table after) := by
  unfold normalised
  split
  · rename_i keys hkeys
    by_cases h : key = "keyboard"
    · subst h
      exact Or.inr ⟨keys, _, hkeys, (Table.get?_insert ..).trans (if_pos rfl)⟩
    · refine Or.inl ?_
      rw [Table.get?_insert, if_neg h]
  · exact Or.inl rfl

/-- A section that the defaults have is either found as the file has it,
because that is no table, or it is a table with every key of the defaults. -/
theorem section_cases {d : Table} (h : t.Distinct) (hd : Table.get? defaults key = some (.table d)) :
    (∃ v, t.get? key = some v ∧ v.isTable = false ∧ (overDefaults t).get? key = some v) ∨
      (∀ v, t.get? key = some v → v.isTable = true) ∧
        ∃ sub : Table, (overDefaults t).get? key = some (.table sub) ∧
          ∀ k, (d.get? k).isSome = true → (sub.get? k).isSome = true := by
  have hmerge := Table.get?_merge defaults (distinct_normalised h) key
  have htable : ∀ after : Table, (normalised t).get? key = some (.table after) →
      ∃ sub : Table, (overDefaults t).get? key = some (.table sub) ∧
        ∀ k, (d.get? k).isSome = true → (sub.get? k).isSome = true := by
    intro after hafter
    rw [hafter, hd] at hmerge
    refine ⟨Table.merge d after, ?_, fun k hk => Table.isSome_get?_merge after hk⟩
    rw [← Value.over_table]
    exact hmerge
  rcases normalised_cases t key with hsame | ⟨before, after, hbefore, hafter⟩
  · cases hget : t.get? key with
    | none =>
      refine Or.inr ⟨?_, d, ?_, fun k hk => hk⟩
      · intro v hv
        cases hv
      · rw [hsame, hget] at hmerge
        rw [← hd]
        exact hmerge
    | some v =>
      cases hv : v.isTable with
      | false =>
        refine Or.inl ⟨v, rfl, hv, ?_⟩
        rw [hsame, hget] at hmerge
        rw [← Value.over_of_not_table hv (Table.get? defaults key)]
        exact hmerge
      | true =>
        obtain ⟨entries, rfl⟩ := Value.eq_table_of_isTable hv
        refine Or.inr ⟨?_, htable entries (hsame.trans hget)⟩
        intro v hv
        injection hv with hv
        rw [← hv]
        rfl
  · refine Or.inr ⟨?_, htable after hafter⟩
    intro v hv
    rw [hbefore] at hv
    injection hv with hv
    rw [← hv]
    rfl

/-! ## What a file can cause -/

/-- A table has something else than a table under a key. -/
def Stray (t : Table) (key : String) (v : Value) : Prop :=
  t.get? key = some v ∧ v.isTable = false

/-- The table of a file has a section that is no table, and what is checked
before it passes. -/
inductive Stumble (t : Table) : Breach → Prop
  | general (v : Value) (stray : Stray t "general" v) : Stumble t (.ofLookup v)
  | audio (v : Value) (g : Int × Int × Int) (passed : generalSection (overDefaults t) = .ok g)
      (stray : Stray t "audio" v) : Stumble t (.ofLookup v)
  | keyboard (v : Value) (g : Int × Int × Int) (a : Bool × Int × Int)
      (passed : generalSection (overDefaults t) = .ok g)
      (passed' : audioSection (overDefaults t) = .ok a)
      (stray : Stray t "keyboard" v) : Stumble t (.noItems v.kind)

/-- The check of a section breaks off exactly if the file has something else
than a table there, when it breaks off on that and on nothing else. -/
theorem section_breach_iff {α : Type} {r : Except Problem α} {d : Table} {told : Value → Breach}
    {b : Breach} (h : t.Distinct) (hd : Table.get? defaults key = some (.table d))
    (stray : ∀ v, (overDefaults t).get? key = some v → v.isTable = false →
      r = .error (.breach (told v)))
    (full : ∀ sub : Table, (overDefaults t).get? key = some (.table sub) →
      (∀ k, (d.get? k).isSome = true → (sub.get? k).isSome = true) → NoBreach r) :
    r = .error (.breach b) ↔ ∃ v, Stray t key v ∧ b = told v := by
  rcases section_cases h hd with ⟨v, given, hv, hover⟩ | ⟨htables, sub, hover, hkeys⟩
  · have hr := stray v hover hv
    constructor
    · intro hb
      rw [hr] at hb
      injection hb with hb
      injection hb with hb
      exact ⟨v, ⟨given, hv⟩, hb.symm⟩
    · rintro ⟨w, ⟨hw, -⟩, rfl⟩
      rw [given] at hw
      injection hw with hw
      rw [hr, hw]
  · constructor
    · intro hb
      exact absurd hb (full sub hover hkeys b)
    · rintro ⟨w, ⟨hw, hnot⟩, -⟩
      rw [htables w hw] at hnot
      cases hnot

theorem generalSection_breach_iff (h : t.Distinct) {b : Breach} :
    generalSection (overDefaults t) = .error (.breach b) ↔
      ∃ v, Stray t "general" v ∧ b = .ofLookup v :=
  section_breach_iff h rfl (fun _ => generalSection_of_stray) fun _ hsub full =>
    noBreach_generalSection hsub
      (by simp [full "scale" rfl, full "cpu_hz" rfl, full "timer_hz" rfl])

theorem audioSection_breach_iff (h : t.Distinct) {b : Breach} :
    audioSection (overDefaults t) = .error (.breach b) ↔
      ∃ v, Stray t "audio" v ∧ b = .ofLookup v :=
  section_breach_iff h rfl (fun _ => audioSection_of_stray) fun _ hsub full =>
    noBreach_audioSection hsub
      (by simp [full "enable" rfl, full "frequency" rfl, full "amplitude" rfl])

theorem keyboardSection_breach_iff (h : t.Distinct) {b : Breach} :
    keyboardSection (overDefaults t) = .error (.breach b) ↔
      ∃ v, Stray t "keyboard" v ∧ b = .noItems v.kind :=
  section_breach_iff h rfl (fun _ => keyboardSection_of_stray) fun _ hsub _ =>
    noBreach_keyboardSection hsub

/-- The check of a file over the defaults breaks off exactly where the file
stumbles. -/
theorem check_breach_iff (h : t.Distinct) {b : Breach} :
    check (overDefaults t) = .error (.breach b) ↔ Stumble t b := by
  rw [check_eq_error_iff, generalSection_breach_iff h, audioSection_breach_iff h,
    keyboardSection_breach_iff h]
  constructor
  · rintro (⟨v, stray, rfl⟩ | ⟨g, hg, ⟨v, stray, rfl⟩ | ⟨a, ha, v, stray, rfl⟩⟩)
    · exact .general v stray
    · exact .audio v g hg stray
    · exact .keyboard v g a hg ha stray
  · intro hstumble
    cases hstumble with
    | general v stray => exact Or.inl ⟨v, stray, rfl⟩
    | audio v g passed stray => exact Or.inr ⟨g, passed, Or.inl ⟨v, stray, rfl⟩⟩
    | keyboard v g a passed passed' stray =>
      exact Or.inr ⟨g, passed, Or.inr ⟨a, passed', v, stray, rfl⟩⟩

/-! ## The statement -/

theorem tidy_document {depth : Nat} {bytes : List UInt8}
    (h : document depth bytes = .ok t) : t.Tidy := by
  unfold document at h
  split at h
  · exact Toml.tidy_parse h
  · cases h

theorem distinct_document {depth : Nat} {bytes : List UInt8}
    (h : document depth bytes = .ok t) : t.Distinct :=
  (tidy_document h).distinct

/-- The three things that can come of a table, by its check. -/
theorem settle_cases (t : Table) :
    (∃ s, check (overDefaults t) = .ok s ∧ settle t = (.ok (overDefaults t), [])) ∨
      (∃ f, check (overDefaults t) = .error (.flaw f) ∧
        settle t = (.ok defaults, [failureRecord f.message])) ∨
      ∃ b, check (overDefaults t) = .error (.breach b) ∧ settle t = (.error b, []) := by
  have hlaid : Table.merge defaults (normalised t) = overDefaults t := rfl
  unfold settle
  simp only [hlaid]
  cases check (overDefaults t) with
  | ok s => exact Or.inl ⟨s, rfl, rfl⟩
  | error problem =>
    cases problem with
    | flaw f => exact Or.inr (Or.inl ⟨f, rfl, rfl⟩)
    | breach b => exact Or.inr (Or.inr ⟨b, rfl, rfl⟩)

/-- What is no document is logged, unless it is nested too deep. -/
theorem load_of_broken {depth : Nat} {bytes : List UInt8} {broken : Toml.Broken}
    (h : document depth bytes = .error broken) (shallow : ∀ level, broken ≠ .tooDeep level)
    (path : String) :
    ∃ reason, load depth path (.content bytes) = (.ok defaults, [failureRecord reason]) := by
  unfold load
  simp only [h]
  cases broken with
  | malformed => exact ⟨_, rfl⟩
  | tooManyDigits digits => exact ⟨_, rfl⟩
  | tooDeep level => exact absurd rfl (shallow level)

/-- What is returned for a file: its table over the defaults, if that checks,
with nothing said; or else the defaults, with one error logged. -/
inductive Returned (read : Except Toml.Broken Table) (config : Table) : List Log.Record → Prop
  | merged (t : Table) (s : Settings) (file : read = .ok t) (laid : config = overDefaults t)
      (checked : check config = .ok s) : Returned read config []
  | kept (reason : String) (untouched : config = defaults)
      (unusable : ∀ t s, read = .ok t → check (overDefaults t) ≠ .ok s) :
      Returned read config [failureRecord reason]

/-- **What comes of a settings file**, for every content that is not nested
too deep. What is returned is as `Returned` says, and nothing is returned
exactly when the table of the file stumbles: over a section that is no table
and stands before every flaw. -/
theorem load_outcome (depth : Nat) (path : String) (bytes : List UInt8)
    (shallow : ∀ level, document depth bytes ≠ .error (.tooDeep level)) :
    (∀ config, (load depth path (.content bytes)).1 = .ok config →
      Returned (document depth bytes) config (load depth path (.content bytes)).2) ∧
    ∀ b, (load depth path (.content bytes)).1 = .error b ↔
      ∃ t, document depth bytes = .ok t ∧ Stumble t b := by
  cases hread : document depth bytes with
  | error broken =>
    have hbroken : ∀ level, broken ≠ .tooDeep level := by
      rintro level rfl
      exact shallow level hread
    obtain ⟨reason, hload⟩ := load_of_broken hread hbroken path
    rw [hload]
    constructor
    · intro config hconfig
      injection hconfig with hconfig
      refine .kept reason hconfig.symm ?_
      intro t s hfile
      cases hfile
    · intro b
      simp
  | ok t =>
    have hload : load depth path (.content bytes) = settle t := by
      unfold load
      simp only [hread]
    have hstumble : ∀ b, (∃ t', Except.ok t = (Except.ok t' : Except Toml.Broken Table) ∧
        Stumble t' b) ↔ check (overDefaults t) = .error (.breach b) := by
      intro b
      rw [check_breach_iff (distinct_document hread)]
      simp
    simp only [hload, hstumble]
    rcases settle_cases t with ⟨s, hcheck, hsettle⟩ | ⟨f, hcheck, hsettle⟩ | ⟨b, hcheck, hsettle⟩
    · rw [hsettle, hcheck]
      constructor
      · intro config hconfig
        injection hconfig with hconfig
        subst hconfig
        exact .merged t s rfl rfl hcheck
      · intro b
        simp
    · rw [hsettle, hcheck]
      constructor
      · intro config hconfig
        injection hconfig with hconfig
        refine .kept _ hconfig.symm ?_
        intro t' s hfile
        injection hfile with hfile
        rw [← hfile, hcheck]
        simp
      · intro b
        simp
    · rw [hsettle, hcheck]
      constructor
      · intro config hconfig
        cases hconfig
      · intro b'
        simp

/-- A number where the first section belongs makes the file stumble. -/
theorem load_outcome_number_for_section :
    ∃ t, document Toml.maxDepth "general = 5".toUTF8.toList = .ok t ∧
      Stumble t (.noEntries "int") := by
  have hread : (document Toml.maxDepth "general = 5".toUTF8.toList).isOk = true := by
    decide +kernel
  have hraised : (load Toml.maxDepth "config.toml" (.content "general = 5".toUTF8.toList)).1.map
      (fun _ => ()) = .error (.noEntries "int") := by decide +kernel
  obtain ⟨-, hstumble⟩ := load_outcome Toml.maxDepth "config.toml" "general = 5".toUTF8.toList (by
    intro level hdeep
    rw [hdeep] at hread
    cases hread)
  refine (hstumble _).mp ?_
  generalize (load _ _ _).1 = result at hraised
  cases result with
  | ok config => cases hraised
  | error b =>
    injection hraised with hraised
    rw [hraised]

/-- The same file is a document, and nothing is returned for it: the error is
passed on, and neither logged nor answered with the defaults. -/
theorem load_passes_on_number_for_section :
    (document Toml.maxDepth "general = 5".toUTF8.toList).isOk = true ∧
      (load Toml.maxDepth "config.toml" (.content "general = 5".toUTF8.toList)).1.isOk = false ∧
      (load Toml.maxDepth "config.toml" (.content "general = 5".toUTF8.toList)).2 = [] := by
  decide +kernel

end Chip8.Settings
