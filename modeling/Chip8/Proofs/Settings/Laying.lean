/-
Chip8.Proofs.Settings.Laying — what a settings file and the defaults make
together.

`Laid` tells entry by entry what is found in a file laid over the defaults: in
the three sections the value of the file where it gives one and the default
elsewhere, and everything that the defaults do not know as the file has it. In
the keyboard section the entry of the file is the last one whose name is the
key in upper case (`lastSpelling`). `Gives` tells which tables are settings.

`load_merged_or_defaults` is the statement: the file over the defaults is
returned if it is settings, and the defaults are returned if it is not. There
is nothing in between.
-/
import Chip8.Proofs.Settings.Keyboard

namespace Chip8.Settings

variable {t sub keys : Table} {name k : String}

/-! ## What settings are -/

/-- A table is settings: what it holds is within bounds, and its keyboard has
texts for keys of the keypad. -/
structure Gives (config : Table) (s : Settings) : Prop where
  entries : s.ReadFrom config
  bounds : s.InBounds
  keyboard : config.get? "keyboard" = some (.table (asTable s.keyboard))
  keys : ∀ e ∈ s.keyboard, e.1 ∈ hexKeys ∧ e.2 ≠ ""

theorem good_asTable_iff {keyboard : List (String × String)} :
    (∀ e ∈ asTable keyboard, GoodEntry e) ↔ ∀ e ∈ keyboard, e.1 ∈ hexKeys ∧ e.2 ≠ "" := by
  unfold asTable
  rw [List.forall_mem_map]
  refine forall₂_congr fun e _ => ?_
  simp [GoodEntry]

/-- The check accepts what is settings. -/
theorem check_eq_ok_iff_gives {s : Settings} : check t = .ok s ↔ Gives t s := by
  rw [check_eq_ok_iff, keyboardSection_eq_ok_iff, good_asTable_iff]
  constructor
  · rintro ⟨hentries, hbounds, hkeyboard, hkeys⟩
    exact ⟨hentries, hbounds, hkeyboard, hkeys⟩
  · rintro ⟨hentries, hbounds, hkeyboard, hkeys⟩
    exact ⟨hentries, hbounds, hkeyboard, hkeys⟩

/-! ## A section over the defaults -/

/-- The last entry of a keyboard table whose name is a key in upper case. -/
def lastSpelling (keys : Table) (k : String) : Option Value :=
  (keys.reverse.find? fun e => Text.Case.upper e.1 = k).map Prod.snd

/-- The entries of a section that the defaults have. -/
def defaultSection (name : String) : Table :=
  match Table.get? defaults name with
  | some (.table d) => d
  | _ => []

/-- A section of a file laid over a section `d` of the defaults, where `found`
looks up what the file gives. -/
inductive SectionLaid (d : Table) (found : Table → String → Option Value) :
    Option Value → Option Value → Prop
  | absent : SectionLaid d found none (some (.table d))
  | laid (sub m : Table) (distinct : m.Distinct)
      (entry : ∀ k, m.get? k = (found sub k).or (d.get? k)) :
      SectionLaid d found (some (.table sub)) (some (.table m))
  | stray (v : Value) (noTable : v.isTable = false) : SectionLaid d found (some v) (some v)

/-- The table `t` of a file laid over the defaults is `m`. -/
structure Laid (t m : Table) : Prop where
  general :
    SectionLaid (defaultSection "general") Table.get? (t.get? "general") (m.get? "general")
  audio : SectionLaid (defaultSection "audio") Table.get? (t.get? "audio") (m.get? "audio")
  keyboard :
    SectionLaid (defaultSection "keyboard") lastSpelling (t.get? "keyboard") (m.get? "keyboard")
  unknown : ∀ name, Table.get? defaults name = none → m.get? name = t.get? name
  distinct : m.Distinct

theorem get?_upperKeys (keys : Table) (k : String) :
    (upperKeys keys).get? k = (keys.find? fun e => Text.Case.upper e.1 = k).map Prod.snd := by
  induction keys with
  | nil => rfl
  | cons e rest ih =>
    obtain ⟨key, v⟩ := e
    show Table.get? ((Text.Case.upper key, v) :: upperKeys rest) k = _
    rw [Table.get?_cons, List.find?_cons]
    by_cases h : k = Text.Case.upper key
    · simp [h]
    · simp [h, Ne.symm h, ih]

/-- Of several spellings of a key the last one holds. -/
theorem get?_ofList_upperKeys (keys : Table) (k : String) :
    (Table.ofList (upperKeys keys)).get? k = lastSpelling keys k := by
  have hreverse : (upperKeys keys).reverse = upperKeys keys.reverse := List.map_reverse.symm
  rw [Table.get?_ofList_last, hreverse, get?_upperKeys]
  rfl

/-- The names of keys are changed in the keyboard section and nowhere else. -/
theorem get?_normalised_of_ne (t : Table) (h : name ≠ "keyboard") :
    (normalised t).get? name = t.get? name := by
  unfold normalised
  split
  · rw [Table.get?_insert, if_neg h]
  · rfl

theorem get?_normalised_keyboard (h : t.get? "keyboard" = some (.table keys)) :
    (normalised t).get? "keyboard" = some (.table (Table.ofList (upperKeys keys))) := by
  unfold normalised
  rw [h, Table.get?_insert, if_pos rfl]
  rfl

theorem get?_ne_table {d : Table} (hd : d.Distinct) (plain : ∀ e ∈ d, e.2.isTable = false)
    (k : String) (sub : Table) : d.get? k ≠ some (.table sub) := by
  intro h
  have htable := plain _ ((Table.get?_eq_some_iff hd).mp h)
  cases htable

/-- The sections of the defaults hold no tables. -/
theorem flat_defaults {d : Table} (hd : Table.get? defaults name = some (.table d)) :
    d.Distinct ∧ ∀ k sub, d.get? k ≠ some (.table sub) := by
  have hmember := (Table.get?_eq_some_iff distinct_defaults).mp hd
  simp only [defaults, List.mem_cons, List.not_mem_nil, or_false, Prod.mk.injEq,
    Value.table.injEq] at hmember
  have hsection : d.keys.Nodup ∧ ∀ e ∈ d, e.2.isTable = false := by
    rcases hmember with ⟨-, rfl⟩ | ⟨-, rfl⟩ | ⟨-, rfl⟩ <;> decide
  exact ⟨hsection.1, get?_ne_table hsection.1 hsection.2⟩

/-- A section that the defaults have is laid over theirs. -/
theorem sectionLaid_overDefaults {d : Table} {found : Table → String → Option Value}
    (ht : t.Distinct) (hd : Table.get? defaults name = some (.table d))
    (given : ∀ sub, t.get? name = some (.table sub) → ∃ upper : Table,
      (normalised t).get? name = some (.table upper) ∧ upper.Distinct ∧
        ∀ k, upper.get? k = found sub k) :
    SectionLaid d found (t.get? name) ((overDefaults t).get? name) := by
  have hmerge := Table.get?_merge defaults (distinct_normalised ht) name
  have hsame : (∀ sub, t.get? name ≠ some (.table sub)) →
      (normalised t).get? name = t.get? name := by
    intro hnot
    rcases normalised_cases t name with h | ⟨before, -, h, -⟩
    · exact h
    · exact absurd h (hnot before)
  cases hget : t.get? name with
  | none =>
    rw [hsame (by simp [hget]), hget, hd] at hmerge
    unfold overDefaults
    rw [hmerge]
    exact .absent
  | some v =>
    cases htable : v.isTable with
    | false =>
      have hnot : ∀ sub, t.get? name ≠ some (.table sub) := by
        intro sub h
        rw [hget] at h
        injection h with h
        rw [h] at htable
        cases htable
      rw [hsame hnot, hget] at hmerge
      have hover := Value.over_of_not_table htable (Table.get? defaults name)
      simp only [hover] at hmerge
      unfold overDefaults
      rw [hmerge]
      exact .stray v htable
    | true =>
      obtain ⟨sub, rfl⟩ := Value.eq_table_of_isTable htable
      obtain ⟨upper, hupper, hupperDistinct, hfound⟩ := given sub hget
      obtain ⟨hdistinct, flat⟩ := flat_defaults hd
      rw [hupper, hd] at hmerge
      simp only [Value.over_table] at hmerge
      have hentry : ∀ k, (Table.merge d upper).get? k = (found sub k).or (d.get? k) := by
        intro k
        rw [Table.get?_merge_of_flat hupperDistinct (flat k), hfound]
      unfold overDefaults
      rw [hmerge]
      exact .laid sub _ (hdistinct.merge upper) hentry

/-- A file is laid over the defaults as `Laid` has it. -/
theorem laid_overDefaults (ht : t.Tidy) : Laid t (overDefaults t) := by
  have hplain : ∀ name, name ≠ "keyboard" → ∀ sub : Table, t.get? name = some (.table sub) →
      ∃ upper : Table, (normalised t).get? name = some (.table upper) ∧ upper.Distinct ∧
        ∀ k, upper.get? k = sub.get? k := by
    intro name hname sub hsub
    have htidy : sub.Tidy := ht.of_get? hsub
    exact ⟨sub, (get?_normalised_of_ne t hname).trans hsub, htidy.distinct, fun _ => rfl⟩
  constructor
  case general => exact sectionLaid_overDefaults ht.distinct rfl (hplain _ (by decide))
  case audio => exact sectionLaid_overDefaults ht.distinct rfl (hplain _ (by decide))
  case keyboard =>
    refine sectionLaid_overDefaults ht.distinct rfl fun keys hkeys => ?_
    exact ⟨_, get?_normalised_keyboard hkeys, Table.distinct_ofList _, get?_ofList_upperKeys keys⟩
  case unknown =>
    intro name hname
    have hmerge := Table.get?_merge defaults (distinct_normalised ht.distinct) name
    have hkeyboard : name ≠ "keyboard" := by
      rintro rfl
      cases hname
    rw [get?_normalised_of_ne t hkeyboard, hname] at hmerge
    unfold overDefaults
    rw [hmerge]
    cases t.get? name with
    | none => rfl
    | some v => exact congrArg some (Value.over_of_flat (by simp) v)
  case distinct => exact distinct_defaults.merge _

/-! ## The statement -/

/-- **What is returned for a settings file**, whatever is found in its place.
The table that is returned is settings, with a physical key for each of the
sixteen keys of the keypad. If the file is a document, its table is laid over
the defaults, and that is returned, with nothing logged, if it is settings; if
it is not, the defaults are, with one error logged. -/
theorem load_merged_or_defaults {depth : Nat} {path : String} {source : Source} {config : Table}
    (loaded : (load depth path source).1 = .ok config) :
    (∃ s name, Gives config s ∧ s.keyboard = keyboardOf name) ∧
    ∀ bytes t, source = .content bytes → document depth bytes = .ok t →
      ∃ m, Laid t m ∧
        ((∃ s, Gives m s) ∧ load depth path source = (.ok m, []) ∨
          (¬∃ s, Gives m s) ∧
            ∃ reason, load depth path source = (.ok defaults, [failureRecord reason])) := by
  constructor
  · obtain ⟨s, accepted⟩ := check_of_load loaded
    obtain ⟨name, hname, -⟩ := keyboard_of_load loaded accepted
    exact ⟨s, name, check_eq_ok_iff_gives.mp accepted, hname⟩
  · rintro bytes t rfl hread
    have hload : load depth path (.content bytes) = settle t := by
      unfold load
      simp only [hread]
    refine ⟨overDefaults t, laid_overDefaults (tidy_document hread), ?_⟩
    rw [hload] at loaded ⊢
    rcases settle_cases t with ⟨s, hcheck, hsettle⟩ | ⟨f, hcheck, hsettle⟩ | ⟨b, -, hsettle⟩
    · exact Or.inl ⟨⟨s, check_eq_ok_iff_gives.mp hcheck⟩, hsettle⟩
    · refine Or.inr ⟨?_, _, hsettle⟩
      rintro ⟨s, gives⟩
      rw [check_eq_ok_iff_gives.mpr gives] at hcheck
      cases hcheck
    · rw [hsettle] at loaded
      cases loaded

/-- A file that spells a key in both cases: the later spelling holds, and where
the file is silent the defaults hold. -/
theorem load_merged_or_defaults_spellings :
    ∃ config s, (load Toml.maxDepth "config.toml" (.content
        "general.scale = 7\n[keyboard]\nA = \"J\"\na = \"K\"".toUTF8.toList)).1 = .ok config ∧
      Gives config s ∧ s.scale = 7 ∧ s.cpuHz = 500 ∧ ("A", "K") ∈ s.keyboard := by
  obtain ⟨config, s, loaded, accepted, hvalues⟩ := exists_of_told
    (f := fun _ s => (s.scale, s.cpuHz, decide (("A", "K") ∈ s.keyboard)))
    (show told _ Toml.maxDepth "config.toml" (.content
        "general.scale = 7\n[keyboard]\nA = \"J\"\na = \"K\"".toUTF8.toList) =
      some (7, 500, true) by decide +kernel)
  simp only [Prod.mk.injEq, decide_eq_true_eq] at hvalues
  obtain ⟨⟨s', name, gives, -⟩, -⟩ := load_merged_or_defaults loaded
  obtain rfl : s' = s := Except.ok.inj ((check_eq_ok_iff_gives.mpr gives).symm.trans accepted)
  exact ⟨config, s', loaded, gives, hvalues⟩

end Chip8.Settings
