/-
Chip8.Proofs.Keypad.Mapping — which physical key drives which key of the
keypad.

The keyboard table is gone through once, and a code that comes a second time
goes over to the later key (`mem_bind`). As the table of accepted settings has
the keys of the keypad in ascending order, a code ends up with the greatest
key whose name stands for it (`Drives`, `mem_addEntries`).

Names of physical keys are looked up by a function `code?` that can be any
function: nothing is asked of it.
-/
import Chip8.Keypad.Control
import Chip8.Proofs.Settings.Keyboard

namespace Chip8.Control

open Settings (hexName keyboardOf)

variable {code? : String → Option Nat} {name : Fin 16 → String}

/-! ## One entry -/

theorem hexKey?_hexName : ∀ d : Fin 16, hexKey? (hexName d) = some d := by
  decide

theorem mem_bind {mapping : List (Int × Index)} {code p : Int} {key d : Index} :
    (p, d) ∈ bind mapping code key ↔ (p ≠ code ∧ (p, d) ∈ mapping) ∨ p = code ∧ d = key := by
  simp [bind, and_comm]

/-- Every code is mapped to one key at most. -/
theorem nodup_bind {mapping : List (Int × Index)} (h : (mapping.map Prod.fst).Nodup) (code : Int)
    (key : Index) : ((bind mapping code key).map Prod.fst).Nodup := by
  unfold bind
  rw [List.map_append, List.nodup_append]
  refine ⟨(List.filter_sublist.map Prod.fst).nodup h, List.nodup_singleton code, ?_⟩
  intro p hp q hq hpq
  obtain ⟨e, he, rfl⟩ := List.mem_map.mp hp
  rw [List.map_singleton, List.mem_singleton] at hq
  simp [hpq, hq] at he

/-- The code of the physical key that is named for a key. -/
def codeFor (code? : String → Option Nat) (name : Fin 16 → String) (d : Index) : Option Int :=
  (code? (name d)).map Int.ofNat

/-- What is said of a name that stands for no key. -/
def unknownName (name : Fin 16 → String) (d : Index) : Log.Record :=
  Log.warning s!"Invalid key '{name d}' in config for {hexName d}"

/-- An entry of the keyboard table binds the code, if the name has one, and is
warned of otherwise. -/
theorem addEntry_hexName (mapping : List (Int × Index)) (d : Index) :
    addEntry code? mapping (hexName d) (name d) =
      match codeFor code? name d with
      | some code => (bind mapping code d, [])
      | none => (mapping, [unknownName name d]) := by
  unfold addEntry codeFor
  rw [hexKey?_hexName]
  cases code? (name d) <;> rfl

/-! ## All entries -/

/-- A code drives a key if the key is the greatest of those given whose name
stands for the code. -/
def Drives (codes : Index → Option Int) (given : List Index) (p : Int) (d : Index) : Prop :=
  d ∈ given ∧ codes d = some p ∧ ∀ d' ∈ given, d < d' → codes d' ≠ some p

/-- A key before the given ones drives what none of them does. -/
theorem drives_cons {codes : Index → Option Int} {given : List Index} {e : Index}
    (later : ∀ d ∈ given, e < d) (p : Int) (d : Index) :
    Drives codes (e :: given) p d ↔
      Drives codes given p d ∨ d = e ∧ codes e = some p ∧ ∀ d' ∈ given, codes d' ≠ some p := by
  constructor
  · rintro ⟨hmem, hcode, hlast⟩
    rcases List.mem_cons.mp hmem with rfl | hd
    · exact Or.inr ⟨rfl, hcode, fun d' hd' => hlast d' (List.mem_cons_of_mem d hd') (later d' hd')⟩
    · exact Or.inl ⟨hd, hcode, fun d' hd' => hlast d' (List.mem_cons_of_mem e hd')⟩
  · rintro (⟨hd, hcode, hlast⟩ | ⟨rfl, hcode, hnone⟩)
    · refine ⟨List.mem_cons_of_mem e hd, hcode, fun d' hd' hlt => ?_⟩
      rcases List.mem_cons.mp hd' with rfl | hd'
      · exact absurd hlt (lt_asymm (later d hd))
      · exact hlast d' hd' hlt
    · refine ⟨List.mem_cons_self, hcode, fun d' hd' hlt => ?_⟩
      rcases List.mem_cons.mp hd' with rfl | hd'
      · exact absurd hlt (lt_irrefl d')
      · exact hnone d' hd'

/-- What the mapping has after entries in ascending order: the codes that drive
a key, and those it had before that no entry has taken over. -/
theorem mem_addEntries {given : List Index} (ascending : given.Pairwise (· < ·))
    (mapping : List (Int × Index)) (p : Int) (d : Index) :
    (p, d) ∈ (addEntries code? mapping (given.map fun d => (hexName d, name d))).1 ↔
      Drives (codeFor code? name) given p d ∨
        (p, d) ∈ mapping ∧ ∀ d' ∈ given, codeFor code? name d' ≠ some p := by
  induction given generalizing mapping with
  | nil => simp [addEntries, Drives]
  | cons e given ih =>
    obtain ⟨hlater, hrest⟩ := List.pairwise_cons.mp ascending
    simp only [List.map_cons, addEntries, addEntry_hexName, ih hrest, drives_cons hlater,
      List.forall_mem_cons]
    cases hcode : codeFor code? name e with
    | none => simp
    | some code =>
      rw [mem_bind]
      by_cases hp : p = code
      · subst hp
        simp
      · simp [hp, Ne.symm hp]

theorem nodup_addEntries {mapping : List (Int × Index)} (h : (mapping.map Prod.fst).Nodup)
    (given : List Index) :
    ((addEntries code? mapping (given.map fun d => (hexName d, name d))).1.map Prod.fst).Nodup := by
  induction given generalizing mapping with
  | nil => exact h
  | cons e given ih =>
    simp only [List.map_cons, addEntries, addEntry_hexName]
    cases codeFor code? name e with
    | none => exact ih h
    | some code => exact ih (nodup_bind h code e)

/-- What is said of the entries: one warning for each name that stands for no
key. -/
theorem warnings_addEntries (mapping : List (Int × Index)) (given : List Index) :
    (addEntries code? mapping (given.map fun d => (hexName d, name d))).2 =
      (given.filter fun d => (code? (name d)).isNone).map (unknownName name) := by
  induction given generalizing mapping with
  | nil => rfl
  | cons e given ih =>
    simp only [List.map_cons, addEntries, addEntry_hexName, codeFor]
    cases hcode : code? (name e) with
    | none =>
      rw [List.filter_cons_of_pos (by simp [hcode])]
      exact congrArg (_ :: ·) (ih mapping)
    | some code =>
      rw [List.filter_cons_of_neg (by simp [hcode])]
      exact ih _

/-- A warning about a name is none about a key of the keypad. -/
theorem unknownName_ne (name : Fin 16 → String) (d : Index) (hexKey : String) :
    unknownName name d ≠ Log.warning s!"Invalid hex key '{hexKey}' in config" := by
  intro h
  -- the two texts part at their ninth character
  have hchar := congrArg (fun record => record.text.toList[8]?) h
  have htoString : ∀ s : String, toString s = s := fun _ => rfl
  simp [unknownName, Log.warning, htoString] at hchar

/-- A key has no code to drive it if its name has none, or a greater key takes
the code over. -/
theorem undriven_iff (name : Fin 16 → String) (d : Index) :
    (∀ p, ¬(codeFor code? name d = some p ∧ ∀ d' > d, codeFor code? name d' ≠ some p)) ↔
      code? (name d) = none ∨ ∃ d' > d, code? (name d') = code? (name d) := by
  have hsame : ∀ d', codeFor code? name d' = codeFor code? name d ↔
      code? (name d') = code? (name d) :=
    fun d' => (Option.map_injective Int.ofNat_injective).eq_iff
  have hnone : codeFor code? name d = none ↔ code? (name d) = none := Option.map_eq_none_iff
  simp only [← hsame, ← hnone]
  cases codeFor code? name d with
  | none => simp
  | some code => simp

/-! ## The statement -/

/-- **A physical key drives the greatest key of the keypad whose configured name
stands for it**, for all settings that are returned and whatever the names
stand for: what is returned has a keyboard to make the mapping of. Nothing else
is in the mapping, and no code twice. A key is driven by nothing exactly if its
name stands for nothing or a greater key has the same code. There is one
warning for each name that stands for nothing, and none about keys of the
keypad. A file with the same keyboard entries in another order has
the same settings, if they are for different keys. -/
theorem mappingOf_greatest (code? : String → Option Nat) {depth : Nat} {path : String}
    {source : Settings.Source} {config : Table}
    (loaded : (Settings.load depth path source).1 = .ok config) :
    ∃ s name, Settings.check config = .ok s ∧ s.keyboard = keyboardOf name ∧
      config.get? "keyboard" = some (.table (Settings.asTable s.keyboard)) ∧
      (∀ p d, (p, d) ∈ (mappingOf code? s.keyboard).1 ↔
        codeFor code? name d = some p ∧ ∀ d' > d, codeFor code? name d' ≠ some p) ∧
      ((mappingOf code? s.keyboard).1.map Prod.fst).Nodup ∧
      (∀ d, (∀ p, (p, d) ∉ (mappingOf code? s.keyboard).1) ↔
        code? (name d) = none ∨ ∃ d' > d, code? (name d') = code? (name d)) ∧
      (mappingOf code? s.keyboard).2 =
        ((List.finRange 16).filter fun d => (code? (name d)).isNone).map (unknownName name) ∧
      (∀ w ∈ (mappingOf code? s.keyboard).2, ∀ hexKey : String,
        w ≠ Log.warning s!"Invalid hex key '{hexKey}' in config") ∧
      ∀ bytes bytes' t keys keys', source = .content bytes →
        Settings.document depth bytes = .ok t →
        Settings.document depth bytes' = .ok (t.insert "keyboard" (.table keys')) →
        t.get? "keyboard" = some (.table keys) → keys'.Perm keys →
        (Settings.upperKeys keys).Distinct →
        (Settings.load depth path (.content bytes')).1 = .ok config := by
  obtain ⟨s, accepted⟩ := Settings.check_of_load loaded
  obtain ⟨name, hname, hconfig⟩ := Settings.keyboard_of_load loaded accepted
  have ascending : (List.finRange 16).Pairwise (· < ·) := by decide
  have hmem : ∀ p d, (p, d) ∈ (mappingOf code? s.keyboard).1 ↔
      codeFor code? name d = some p ∧ ∀ d' > d, codeFor code? name d' ≠ some p := by
    intro p d
    rw [hname]
    exact (mem_addEntries ascending [] p d).trans (by simp [Drives])
  have hwarnings : (mappingOf code? s.keyboard).2 =
      ((List.finRange 16).filter fun d => (code? (name d)).isNone).map (unknownName name) := by
    rw [hname]
    exact warnings_addEntries [] (List.finRange 16)
  refine ⟨s, name, accepted, hname, hconfig, hmem, ?_, ?_, hwarnings, ?_, ?_⟩
  · have hempty : (([] : List (Int × Index)).map Prod.fst).Nodup := List.nodup_nil
    rw [hname]
    exact nodup_addEntries hempty (List.finRange 16)
  · intro d
    simp only [hmem]
    exact undriven_iff name d
  · intro w hw hexKey
    rw [hwarnings] at hw
    obtain ⟨d, -, rfl⟩ := List.mem_map.mp hw
    exact unknownName_ne name d hexKey
  · rintro bytes bytes' t keys keys' rfl read read' given reordered distinct
    rw [← loaded]
    exact Settings.load_of_reordered read read' given reordered distinct path

/-- A settings file that names the key X for the key 1 of the keypad. The default
for 0 is the same, so X goes over to 1 and nothing drives 0. -/
theorem mappingOf_greatest_taken_over :
    ∃ config s, (Settings.load Toml.maxDepth "config.toml"
        (.content "[keyboard]\n1 = \"X\"\n".toUTF8.toList)).1 = .ok config ∧
      Settings.check config = .ok s ∧
      (120, 1) ∈ (mappingOf KeyName.code? s.keyboard).1 ∧
      (∀ p, (p, 0) ∉ (mappingOf KeyName.code? s.keyboard).1) ∧
      (mappingOf KeyName.code? s.keyboard).2 = [] := by
  obtain ⟨config, s, loaded, accepted, hkeyboard⟩ := Settings.exists_of_told
    (f := fun _ s => s.keyboard.map Prod.snd)
    (show Settings.told _ Toml.maxDepth "config.toml"
        (.content "[keyboard]\n1 = \"X\"\n".toUTF8.toList) =
      some ["X", "X", "3", "4", "W", "E", "R", "A", "S", "D", "Z", "C", "5", "T", "F", "V"] by
        decide +kernel)
  obtain ⟨s', name, accepted', hname, -, hmem, -, habsent, hwarnings, -⟩ :=
    mappingOf_greatest KeyName.code? loaded
  obtain rfl : s = s' := Except.ok.inj (accepted.symm.trans accepted')
  have hnames : (List.finRange 16).map name =
      ["X", "X", "3", "4", "W", "E", "R", "A", "S", "D", "Z", "C", "5", "T", "F", "V"] := by
    rw [hname, keyboardOf, List.map_map] at hkeyboard
    exact hkeyboard
  have hcodes : ∀ d : Fin 16, KeyName.code? (name d) =
      ["X", "X", "3", "4", "W", "E", "R", "A", "S", "D", "Z", "C", "5", "T", "F", "V"][d.val]?.bind
        KeyName.code? := by
    intro d
    rw [← hnames]
    simp
  refine ⟨config, s, loaded, accepted, (hmem 120 1).mpr ?_, (habsent 0).mpr (Or.inr ⟨1, ?_⟩), ?_⟩
  · simp only [codeFor, hcodes]
    decide +kernel
  · simp only [hcodes]
    decide +kernel
  · simp only [hwarnings, hcodes]
    rw [List.map_eq_nil_iff]
    decide +kernel

end Chip8.Control
