/-
Chip8.Proofs.Settings.Keyboard — the keyboard table of accepted settings.

Laid over the defaults, a keyboard table has the sixteen keys of the keypad
in their order, and behind them whatever other keys the file has. Other keys
are not accepted. So the keyboard of accepted settings names a physical key
for each of the sixteen, in order (`keyboard_of_load`).

The order in which the file has its entries is gone by then: as long as no
two of them name the same key of the keypad, it is of no importance for what
is returned (`load_of_reordered`).
-/
import Chip8.Proofs.Settings.Accepted

namespace Chip8.Settings

/-- The name of a key of the keypad. -/
def hexName (d : Fin 16) : String := String.singleton (Text.Hex.digit d.val)

theorem hexKeys_eq : hexKeys = (List.finRange 16).map hexName := by
  decide

/-- The keyboard table with a physical key for each key of the keypad. -/
def keyboardOf (name : Fin 16 → String) : List (String × String) :=
  (List.finRange 16).map fun d => (hexName d, name d)

/-! ## The check of the keyboard -/

/-- The values of keyboard entries are texts. -/
def asTable (keyboard : List (String × String)) : Table :=
  keyboard.map fun (key, name) => (key, .text name)

/-- Whether an entry is one for a key of the keypad. -/
def GoodEntry (e : String × Value) : Prop := e.1 ∈ hexKeys ∧ ∃ name ≠ "", e.2 = .text name

theorem good_of_keyEntry {key : String} {v : Value} {e : String × String}
    (h : keyEntry key v = .ok e) : (key, v) = (e.1, .text e.2) ∧ GoodEntry (key, v) := by
  unfold keyEntry at h
  split at h
  · cases h
  · rename_i hkey
    have hmem : key ∈ hexKeys := by simpa using hkey
    cases v with
    | text name =>
      simp only at h
      split at h
      · cases h
      · rename_i hname
        injection h with h
        subst h
        exact ⟨rfl, hmem, name, hname, rfl⟩
    | _ => cases h

/-- Keyboard entries that pass are taken as they are. -/
theorem good_of_keyEntries {entries : Table} {keyboard : List (String × String)}
    (h : keyEntries entries = .ok keyboard) :
    entries = asTable keyboard ∧ ∀ e ∈ entries, GoodEntry e := by
  induction entries generalizing keyboard with
  | nil =>
    injection h with h
    subst h
    exact ⟨rfl, fun e he => nomatch he⟩
  | cons entry rest ih =>
    obtain ⟨key, v⟩ := entry
    simp only [keyEntries, Toml.bind_eq_ok] at h
    obtain ⟨first, hfirst, others, hothers, h⟩ := h
    injection h with h
    subst h
    obtain ⟨hentry, hgood⟩ := good_of_keyEntry hfirst
    obtain ⟨hrest, hgoods⟩ := ih hothers
    exact ⟨congrArg₂ List.cons hentry hrest, List.forall_mem_cons.mpr ⟨hgood, hgoods⟩⟩

theorem keyEntries_of_good {keyboard : List (String × String)}
    (h : ∀ e ∈ asTable keyboard, GoodEntry e) : keyEntries (asTable keyboard) = .ok keyboard := by
  induction keyboard with
  | nil => rfl
  | cons entry rest ih =>
    obtain ⟨key, name⟩ := entry
    obtain ⟨⟨hkey, _, hname, hv⟩, hrest⟩ := List.forall_mem_cons.mp h
    injection hv with hv
    subst hv
    have hmem : hexKeys.contains key = true := List.contains_iff_mem.mpr hkey
    have hfirst : keyEntry key (.text name) = .ok (key, name) := by
      unfold keyEntry
      rw [hmem]
      exact if_neg hname
    show keyEntries ((key, .text name) :: asTable rest) = _
    rw [keyEntries, hfirst, ok_bind, ih hrest]
    rfl

/-- An entry that is not good is a flaw. -/
theorem keyEntries_of_bad {entries : Table} (h : ¬∀ e ∈ entries, GoodEntry e) :
    ∃ f, keyEntries entries = .error (.flaw f) := by
  cases hresult : keyEntries entries with
  | ok keyboard => exact absurd (good_of_keyEntries hresult).2 h
  | error problem =>
    cases problem with
    | flaw f => exact ⟨f, rfl⟩
    | breach b => exact absurd hresult (noBreach_keyEntries entries b)

theorem keys_asTable (keyboard : List (String × String)) :
    (asTable keyboard).keys = keyboard.map Prod.fst := by
  unfold asTable Table.keys
  rw [List.map_map]
  rfl

/-! ## The keyboard over the defaults -/

/-- The keyboard table of the defaults. -/
def defaultKeys : Table := asTable defaultKeyboard

theorem keys_defaultKeys : defaultKeys.keys = hexKeys := by
  decide

theorem distinct_defaultKeys : defaultKeys.Distinct := by
  unfold Table.Distinct
  rw [keys_defaultKeys]
  decide

theorem distinct_defaults : defaults.Distinct := by
  show (["general", "audio", "keyboard"] : List String).Nodup
  decide

theorem get?_defaults_keyboard : Table.get? defaults "keyboard" = some (.table defaultKeys) := rfl

/-- The keyboard table of a file laid over the defaults is a table over the one
of the defaults. -/
theorem keyboard_overDefaults {t sub : Table} (ht : t.Distinct)
    (h : (overDefaults t).get? "keyboard" = some (.table sub)) :
    ∃ upper, sub = Table.merge defaultKeys upper := by
  have hmerge := Table.get?_merge defaults (distinct_normalised ht) "keyboard"
  rw [get?_defaults_keyboard] at hmerge
  unfold overDefaults at h
  rw [h] at hmerge
  cases hupper : (normalised t).get? "keyboard" with
  | none =>
    rw [hupper] at hmerge
    injection hmerge with hmerge
    injection hmerge with hmerge
    exact ⟨[], by rw [Table.merge]; exact hmerge⟩
  | some v =>
    rw [hupper] at hmerge
    injection hmerge with hmerge
    cases v with
    | table upper =>
      rw [Value.over_table] at hmerge
      injection hmerge with hmerge
      exact ⟨upper, hmerge⟩
    | _ =>
      rw [Value.over_of_not_table rfl] at hmerge
      cases hmerge

/-- The keys of a good keyboard over the defaults are those of the keypad, in
order. -/
theorem keys_of_good {upper : Table}
    (hgood : ∀ e ∈ Table.merge defaultKeys upper, GoodEntry e) :
    (Table.merge defaultKeys upper).keys = hexKeys := by
  obtain ⟨more, hmore⟩ := Table.prefix_foldl_addKey hexKeys upper.keys
  have hdistinct := distinct_defaultKeys.merge upper
  unfold Table.Distinct at hdistinct
  rw [Table.keys_merge, keys_defaultKeys, ← hmore] at hdistinct ⊢
  -- a further key would be one of the sixteen, which are there already
  cases more with
  | nil => exact List.append_nil _
  | cons k more =>
    have hk : k ∈ (Table.merge defaultKeys upper).keys := by
      rw [Table.keys_merge, keys_defaultKeys, ← hmore]
      simp
    obtain ⟨e, he, rfl⟩ := List.mem_map.mp hk
    exact absurd rfl ((List.nodup_append.mp hdistinct).2.2 e.1 (hgood e he).1 e.1 (by simp))

/-- A list of texts for the keys of the keypad, in order. -/
theorem eq_keyboardOf {keyboard : List (String × String)}
    (h : keyboard.map Prod.fst = hexKeys) : ∃ name, keyboard = keyboardOf name := by
  have hlen : keyboard.length = 16 := by
    have := congrArg List.length h
    rwa [List.length_map] at this
  refine ⟨fun d => (keyboard.get (d.cast hlen.symm)).2, List.ext_getElem ?_ fun i hi hi' => ?_⟩
  · simp [keyboardOf, hlen]
  · have hkey : keyboard[i].1 = hexName ⟨i, by omega⟩ := by
      have hget := congrArg (·[i]?) (h.trans hexKeys_eq)
      simpa [hi, show i < 16 by omega] using hget
    simp [keyboardOf, ← hkey]

/-- The keyboard of settings is the keyboard table, if all of that is good. -/
theorem keyboardSection_eq_ok_iff {t : Table} {keyboard : List (String × String)} :
    keyboardSection t = .ok keyboard ↔ t.get? "keyboard" = some (.table (asTable keyboard)) ∧
      ∀ e ∈ asTable keyboard, GoodEntry e := by
  simp only [keyboardSection, Toml.bind_eq_ok, entry_eq_ok_iff]
  constructor
  · rintro ⟨v, hv, sub, hsub, hkeys⟩
    obtain ⟨hentries, hgood⟩ := good_of_keyEntries hkeys
    cases v with
    | table entries =>
      obtain rfl : entries = sub := Except.ok.inj hsub
      exact ⟨hentries ▸ hv, hentries ▸ hgood⟩
    | _ => cases hsub
  · rintro ⟨htable, hgood⟩
    exact ⟨_, htable, _, rfl, keyEntries_of_good hgood⟩

/-- **The keyboard of settings that are returned names a physical key for each
key of the keypad, in their order.** -/
theorem keyboard_of_load {depth : Nat} {path : String} {source : Source} {config : Table}
    {s : Settings} (h : (load depth path source).1 = .ok config) (accepted : check config = .ok s) :
    ∃ name, s.keyboard = keyboardOf name ∧
      config.get? "keyboard" = some (.table (asTable s.keyboard)) := by
  obtain ⟨t, ht, rfl, -⟩ := overDefaults_of_load h
  obtain ⟨-, -, hkeyboard⟩ := check_eq_ok_iff.mp accepted
  obtain ⟨htable, hgood⟩ := keyboardSection_eq_ok_iff.mp hkeyboard
  obtain ⟨upper, hupper⟩ := keyboard_overDefaults ht htable
  have hkeys : s.keyboard.map Prod.fst = hexKeys := by
    rw [← keys_asTable, hupper]
    exact keys_of_good (hupper ▸ hgood)
  obtain ⟨name, hname⟩ := eq_keyboardOf hkeys
  exact ⟨name, hname, htable⟩

/-! ## The order of the entries -/

/-- A table with a keyboard table in it, laid over the defaults. -/
def withKeyboard (t keys : Table) : Table :=
  Table.merge defaults (t.insert "keyboard" (.table keys))

/-- The keyboard table of a file with the names of its keys in upper case. -/
def upperKeys (keys : Table) : Table := keys.map fun (k, v) => (Text.Case.upper k, v)

theorem overDefaults_insert (t keys : Table) :
    overDefaults (t.insert "keyboard" (.table keys)) =
      withKeyboard t (Table.ofList (upperKeys keys)) := by
  unfold overDefaults normalised
  rw [Table.get?_insert, if_pos rfl]
  exact congrArg (Table.merge defaults) (t.insert_insert "keyboard" _ _)

theorem overDefaults_of_get? {t keys : Table} (h : t.get? "keyboard" = some (.table keys)) :
    overDefaults t = withKeyboard t (Table.ofList (upperKeys keys)) := by
  unfold overDefaults normalised
  rw [h]
  rfl

section Reordered

variable {t keys keys' : Table} (ht : t.Distinct)

include ht

theorem get?_withKeyboard (keys : Table) :
    (withKeyboard t keys).get? "keyboard" = some (.table (Table.merge defaultKeys keys)) := by
  have hmerge := Table.get?_merge defaults (ht.insert "keyboard" (.table keys)) "keyboard"
  rw [Table.get?_insert, if_pos rfl] at hmerge
  rw [← Value.over_table]
  exact hmerge

/-- The other sections do not depend on the keyboard. -/
theorem get?_withKeyboard_of_ne {key : String} (h : key ≠ "keyboard") (keys keys' : Table) :
    (withKeyboard t keys').get? key = (withKeyboard t keys).get? key := by
  unfold withKeyboard
  rw [Table.get?_merge _ (ht.insert ..), Table.get?_merge _ (ht.insert ..), Table.get?_insert,
    Table.get?_insert, if_neg h, if_neg h]

theorem keyboardSection_withKeyboard (keys : Table) :
    keyboardSection (withKeyboard t keys) = keyEntries (Table.merge defaultKeys keys) := by
  unfold keyboardSection
  rw [entry_of_get? (get?_withKeyboard ht keys)]
  rfl

/-- Keyboard tables with the same values pass or fail together. If they pass,
they give the same table: over the defaults, the keys stand in the order of
the keypad. -/
theorem withKeyboard_cases (hkeys : keys.Distinct) (hkeys' : keys'.Distinct)
    (same : ∀ key, keys'.get? key = keys.get? key) :
    withKeyboard t keys' = withKeyboard t keys ∨
      ∃ f f', keyboardSection (withKeyboard t keys') = .error (.flaw f') ∧
        keyboardSection (withKeyboard t keys) = .error (.flaw f) := by
  have hdistinct := distinct_defaultKeys.merge keys
  have hdistinct' := distinct_defaultKeys.merge keys'
  have hvalues : ∀ key, (Table.merge defaultKeys keys').get? key =
      (Table.merge defaultKeys keys).get? key := by
    intro key
    rw [Table.get?_merge _ hkeys', Table.get?_merge _ hkeys, same]
  have hentries : ∀ e, e ∈ Table.merge defaultKeys keys' ↔ e ∈ Table.merge defaultKeys keys := by
    rintro ⟨k, v⟩
    rw [← Table.get?_eq_some_iff hdistinct', ← Table.get?_eq_some_iff hdistinct, hvalues]
  rw [keyboardSection_withKeyboard ht, keyboardSection_withKeyboard ht]
  by_cases hgood : ∀ e ∈ Table.merge defaultKeys keys, GoodEntry e
  · left
    have hgood' : ∀ e ∈ Table.merge defaultKeys keys', GoodEntry e :=
      fun e he => hgood e ((hentries e).mp he)
    have hsub : Table.merge defaultKeys keys' = Table.merge defaultKeys keys :=
      Table.ext_get? hdistinct' ((keys_of_good hgood').trans (keys_of_good hgood).symm) hvalues
    refine Table.ext_get? (distinct_defaults.merge _) ?_ fun key => ?_
    · unfold withKeyboard
      rw [Table.keys_merge, Table.keys_merge, Table.keys_insert, Table.keys_insert]
    · by_cases hkey : key = "keyboard"
      · rw [hkey, get?_withKeyboard ht, get?_withKeyboard ht, hsub]
      · exact get?_withKeyboard_of_ne ht hkey keys keys'
  · right
    obtain ⟨f, hf⟩ := keyEntries_of_bad hgood
    obtain ⟨f', hf'⟩ := keyEntries_of_bad fun hgood' =>
      hgood fun e he => hgood' e ((hentries e).mpr he)
    exact ⟨f, f', hf', hf⟩

end Reordered

theorem settle_eq (t : Table) :
    settle t = match check (overDefaults t) with
      | .ok _ => (.ok (overDefaults t), [])
      | .error (.flaw f) => (.ok defaults, [failureRecord f.message])
      | .error (.breach b) => (.error b, []) := rfl

/-- The first two sections of the check read their own entries only. -/
theorem sections_congr {t t' : Table} (hgeneral : t'.get? "general" = t.get? "general")
    (haudio : t'.get? "audio" = t.get? "audio") :
    generalSection t' = generalSection t ∧ audioSection t' = audioSection t := by
  constructor
  · simp only [generalSection, entry, Table.demand, hgeneral]
  · simp only [audioSection, entry, Table.demand, haudio]

/-- **The order of the entries of a keyboard table is of no importance** for the
settings, as long as they are for different keys of the keypad. -/
theorem settle_of_reordered {t keys keys' : Table} (ht : t.Distinct)
    (given : t.get? "keyboard" = some (.table keys)) (reordered : keys'.Perm keys)
    (distinct : (upperKeys keys).Distinct) :
    (settle (t.insert "keyboard" (.table keys'))).1 = (settle t).1 := by
  have hperm : (upperKeys keys').Perm (upperKeys keys) := reordered.map _
  have hdistinct' : (upperKeys keys').Distinct := (hperm.map Prod.fst).nodup_iff.mpr distinct
  have hsame : ∀ key, (Table.ofList (upperKeys keys')).get? key =
      (Table.ofList (upperKeys keys)).get? key := by
    intro key
    rw [Table.get?_ofList hdistinct', Table.get?_ofList distinct, Table.get?_of_perm distinct hperm]
  rw [settle_eq, settle_eq, overDefaults_insert, overDefaults_of_get? given]
  rcases withKeyboard_cases ht (Table.distinct_ofList _) (Table.distinct_ofList _) hsame with
    hlaid | ⟨f, f', hflaw', hflaw⟩
  · rw [hlaid]
  · -- what is wrong may be told of another entry, but the defaults hold in any case
    have hother : ∀ key, key ≠ "keyboard" →
        (withKeyboard t (Table.ofList (upperKeys keys'))).get? key =
          (withKeyboard t (Table.ofList (upperKeys keys))).get? key :=
      fun key hkey => get?_withKeyboard_of_ne ht hkey _ _
    obtain ⟨hgeneral, haudio⟩ :=
      sections_congr (hother "general" (by decide)) (hother "audio" (by decide))
    rw [check_eq, check_eq, hgeneral, haudio, hflaw, hflaw']
    cases generalSection (withKeyboard t (Table.ofList (upperKeys keys))) with
    | error problem => cases problem <;> rfl
    | ok g =>
      cases audioSection (withKeyboard t (Table.ofList (upperKeys keys))) with
      | error problem => cases problem <;> rfl
      | ok a => rfl

/-- Two files that differ in the order of the keyboard entries only. -/
theorem load_of_reordered {depth : Nat} {bytes bytes' : List UInt8} {t keys keys' : Table}
    (read : document depth bytes = .ok t)
    (read' : document depth bytes' = .ok (t.insert "keyboard" (.table keys')))
    (given : t.get? "keyboard" = some (.table keys)) (reordered : keys'.Perm keys)
    (distinct : (upperKeys keys).Distinct) (path : String) :
    (load depth path (.content bytes')).1 = (load depth path (.content bytes)).1 := by
  unfold load
  simp only [read, read']
  exact settle_of_reordered (distinct_document read) given reordered distinct

end Chip8.Settings
