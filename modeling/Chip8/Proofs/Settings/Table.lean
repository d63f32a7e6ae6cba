/-
Chip8.Proofs.Settings.Table — tables whose entries are set, and tables laid
over one another.

* `get?_insert` — what is found after an entry was set.
* `Distinct` — the keys of a table stand there once. Setting an entry keeps
  a table so (`Distinct.insert`).
* `get?_ofList_last` — of several entries for a key the last one is found in
  the table that they make.
* `get?_merge` — what is found in a table laid over another: the value of
  the upper one laid over the value of the lower one. Keys of the lower one
  are found in any case (`isSome_get?_merge`).
-/
import Mathlib.Tactic
import Chip8.Settings.Merge

namespace Chip8

namespace Table

/-! ## Entries -/

theorem get?_cons (k : String) (v : Value) (t : Table) (key : String) :
    get? ((k, v) :: t) key = if key = k then some v else t.get? key := by
  unfold get?
  rw [List.lookup_cons]
  by_cases h : key = k
  · simp [h]
  · rw [if_neg h, beq_false_of_ne h]

theorem get?_insert (t : Table) (k : String) (v : Value) (key : String) :
    (t.insert k v).get? key = if key = k then some v else t.get? key := by
  induction t with
  | nil => rw [insert, get?_cons]
  | cons entry rest ih =>
    obtain ⟨k', old⟩ := entry
    unfold insert
    by_cases h : k' = k
    · subst h
      by_cases hk : key = k' <;> simp [get?_cons, hk]
    · rw [if_neg h, get?_cons, get?_cons, ih]
      by_cases hk : key = k
      · subst hk
        simp [Ne.symm h]
      · simp [hk]

theorem get?_eq_none_iff {t : Table} {key : String} : t.get? key = none ↔ key ∉ t.keys := by
  induction t with
  | nil => simp [get?, keys]
  | cons entry rest ih =>
    obtain ⟨k', old⟩ := entry
    rw [get?_cons]
    by_cases h : key = k'
    · simp [h, keys]
    · rw [if_neg h, ih]
      simp [h, keys]

/-! ## Distinct keys -/

/-- The keys of a table stand there once. -/
def Distinct (t : Table) : Prop := t.keys.Nodup

theorem distinct_nil : Distinct [] := List.nodup_nil

theorem distinct_cons {k : String} {v : Value} {t : Table} :
    Distinct ((k, v) :: t) ↔ t.get? k = none ∧ t.Distinct := by
  rw [get?_eq_none_iff]
  exact List.nodup_cons

theorem Distinct.insert {t : Table} (h : t.Distinct) (k : String) (v : Value) :
    (t.insert k v).Distinct := by
  induction t with
  | nil => exact List.nodup_singleton k
  | cons entry rest ih =>
    obtain ⟨k', old⟩ := entry
    obtain ⟨hnew, hrest⟩ := distinct_cons.mp h
    unfold Table.insert
    by_cases hk : k' = k
    · subst hk
      rw [if_pos rfl]
      exact distinct_cons.mpr ⟨hnew, hrest⟩
    · rw [if_neg hk]
      refine distinct_cons.mpr ⟨?_, ih hrest⟩
      rw [get?_insert, if_neg hk, hnew]

/-- In a table with distinct keys an entry is found if it is there. -/
theorem get?_eq_some_iff {t : Table} (h : t.Distinct) {k : String} {v : Value} :
    t.get? k = some v ↔ (k, v) ∈ t := by
  induction t with
  | nil => simp [get?]
  | cons entry rest ih =>
    obtain ⟨k', old⟩ := entry
    obtain ⟨hnew, hrest⟩ := distinct_cons.mp h
    rw [get?_cons, List.mem_cons, Prod.mk.injEq]
    by_cases hk : k = k'
    · subst hk
      rw [if_pos rfl, ← ih hrest, hnew]
      simp [eq_comm]
    · simp [hk, ih hrest]

/-- Two tables with the same keys in the same order that have the same values
are one. -/
theorem ext_get? {t t' : Table} (h : t.Distinct) (keys : t.keys = t'.keys)
    (values : ∀ k, t.get? k = t'.get? k) : t = t' := by
  induction t generalizing t' with
  | nil =>
    cases t' with
    | nil => rfl
    | cons => cases keys
  | cons entry rest ih =>
    obtain ⟨k, v⟩ := entry
    cases t' with
    | nil => cases keys
    | cons entry' rest' =>
      obtain ⟨k', v'⟩ := entry'
      injection keys with hk hkeys
      have hk : k = k' := hk
      subst hk
      have hv := values k
      rw [get?_cons, get?_cons, if_pos rfl, if_pos rfl] at hv
      injection hv with hv
      obtain ⟨hnew, hrest⟩ := distinct_cons.mp h
      have hnew' : get? rest' k = none := by
        rw [get?_eq_none_iff] at hnew ⊢
        exact fun hmem => hnew ((congrArg (k ∈ ·) hkeys).mpr hmem)
      refine congrArg₂ List.cons (by rw [hv]) (ih hrest hkeys fun key => ?_)
      by_cases hkey : key = k
      · rw [hkey, hnew, hnew']
      · have hvalue := values key
        rwa [get?_cons, get?_cons, if_neg hkey, if_neg hkey] at hvalue

/-- The order of entries with distinct keys is of no importance for what is
found. -/
theorem get?_of_perm {t t' : Table} (h : t.Distinct) (perm : t'.Perm t) (k : String) :
    t'.get? k = t.get? k := by
  have h' : t'.Distinct := (perm.map Prod.fst).nodup_iff.mpr h
  refine Option.ext fun v => ?_
  rw [get?_eq_some_iff h, get?_eq_some_iff h', perm.mem_iff]

/-- A key that is set a second time. -/
theorem insert_insert (t : Table) (k : String) (v w : Value) :
    (t.insert k v).insert k w = t.insert k w := by
  induction t with
  | nil => simp [insert]
  | cons entry rest ih =>
    obtain ⟨k', old⟩ := entry
    by_cases h : k' = k <;> simp [insert, h, ih]

/-- The keys of a table after one of them was set. -/
def addKey (keys : List String) (k : String) : List String := if k ∈ keys then keys else keys ++ [k]

theorem keys_insert (t : Table) (k : String) (v : Value) : (t.insert k v).keys = addKey t.keys k := by
  induction t with
  | nil => simp [insert, keys, addKey]
  | cons entry rest ih =>
    obtain ⟨k', old⟩ := entry
    have hcons : ∀ entries : Table, keys ((k', old) :: entries) = k' :: keys entries := fun _ => rfl
    unfold addKey at ih ⊢
    unfold insert
    by_cases h : k' = k
    · rw [if_pos h, hcons, if_pos (by simp [h])]
      exact congrArg (· :: _) h.symm
    · rw [if_neg h, hcons, hcons, ih]
      by_cases hmem : k ∈ keys rest <;> simp [hmem, Ne.symm h]

/-- Of entries that are set one after the other, the last one for a key is
found. -/
theorem get?_foldl_insert (t entries : Table) (key : String) :
    (entries.foldl (fun t (k, v) => insert t k v) t).get? key =
      (get? entries.reverse key).or (t.get? key) := by
  induction entries generalizing t with
  | nil => rfl
  | cons entry rest ih =>
    obtain ⟨k, v⟩ := entry
    have hlast : get? ((k, v) :: rest).reverse key =
        (get? rest.reverse key).or (get? [(k, v)] key) := by
      unfold get?
      rw [List.reverse_cons, List.lookup_append]
    rw [List.foldl_cons, ih, hlast, get?_insert, get?_cons, Option.or_assoc]
    by_cases hk : key = k <;> simp [hk, get?]

theorem get?_ofList_last (entries : Table) (key : String) :
    (ofList entries).get? key = get? entries.reverse key := by
  rw [ofList, get?_foldl_insert]
  exact Option.or_none

/-- Of entries with distinct keys, each is found in the table that they make. -/
theorem get?_ofList {entries : Table} (h : entries.Distinct) (key : String) :
    (ofList entries).get? key = entries.get? key := by
  rw [get?_ofList_last, get?_of_perm h entries.reverse_perm]

theorem distinct_foldl_insert {t : Table} (h : t.Distinct) (entries : Table) :
    (entries.foldl (fun t (k, v) => insert t k v) t).Distinct := by
  induction entries generalizing t with
  | nil => exact h
  | cons entry rest ih => exact ih (h.insert entry.1 entry.2)

theorem distinct_ofList (entries : Table) : (ofList entries).Distinct :=
  distinct_foldl_insert distinct_nil entries

/-! ## One table over another -/

theorem merge_cons (target : Table) (k : String) (v : Value) (rest : Table) :
    merge target ((k, v) :: rest) =
      merge (target.insert k (Value.over (target.get? k) v)) rest := by
  rw [merge]

/-- Every key of the upper table gets its value laid over the lower one's,
and every other key keeps what it has. -/
theorem get?_merge (target : Table) {t : Table} (h : t.Distinct) (key : String) :
    (merge target t).get? key =
      match t.get? key with
      | some v => some (Value.over (target.get? key) v)
      | none => target.get? key := by
  induction t generalizing target with
  | nil => rw [merge]; rfl
  | cons entry rest ih =>
    obtain ⟨k, v⟩ := entry
    obtain ⟨hnew, hrest⟩ := distinct_cons.mp h
    rw [merge_cons, ih _ hrest, get?_insert, get?_cons]
    by_cases hk : key = k
    · subst hk
      simp [hnew]
    · simp [hk]

/-- Laying a table over another removes no key. -/
theorem isSome_get?_merge {target : Table} {key : String} (t : Table)
    (h : (target.get? key).isSome = true) : ((merge target t).get? key).isSome = true := by
  induction t generalizing target with
  | nil => rwa [merge]
  | cons entry rest ih =>
    obtain ⟨k, v⟩ := entry
    rw [merge_cons]
    refine ih ?_
    rw [get?_insert]
    by_cases hk : key = k <;> simp [hk, h]

theorem Distinct.merge {target : Table} (h : target.Distinct) (t : Table) :
    (Table.merge target t).Distinct := by
  induction t generalizing target with
  | nil => rwa [Table.merge]
  | cons entry rest ih =>
    obtain ⟨k, v⟩ := entry
    rw [merge_cons]
    exact ih (h.insert k _)

/-- The keys of a table over another: those of the lower one, and then the
new ones of the upper one, as they come. -/
theorem keys_merge (target t : Table) :
    (merge target t).keys = t.keys.foldl addKey target.keys := by
  induction t generalizing target with
  | nil => rw [merge]; rfl
  | cons entry rest ih =>
    obtain ⟨k, v⟩ := entry
    rw [merge_cons, ih, keys_insert]
    rfl

theorem prefix_foldl_addKey (keys ks : List String) : keys <+: ks.foldl addKey keys := by
  induction ks generalizing keys with
  | nil => exact List.prefix_rfl
  | cons k ks ih =>
    refine List.IsPrefix.trans ?_ (ih (addKey keys k))
    unfold addKey
    split
    · exact List.prefix_rfl
    · exact List.prefix_append keys [k]

end Table

namespace Value

/-- What is no table takes the place of whatever was there. -/
theorem over_of_not_table {v : Value} (h : v.isTable = false) (old : Option Value) :
    Value.over old v = v := by
  cases v with
  | table entries => cases h
  | _ => simp [Value.over]

/-- What is laid over something else than a table takes its place. -/
theorem over_of_flat {old : Option Value} (flat : ∀ sub, old ≠ some (.table sub)) (v : Value) :
    Value.over old v = v := by
  cases v with
  | table entries =>
    rw [Value.over]
    exact flat
  | _ => simp [Value.over]

theorem over_table (target overrides : Table) :
    Value.over (some (.table target)) (.table overrides) = .table (Table.merge target overrides) := by
  rw [Value.over]

theorem eq_table_of_isTable {v : Value} (h : v.isTable = true) : ∃ t, v = .table t := by
  cases v with
  | table t => exact ⟨t, rfl⟩
  | _ => cases h

end Value

/-- Over a table that holds no table under a key, the upper entry is found if
there is one. -/
theorem Table.get?_merge_of_flat {target t : Table} (h : t.Distinct) {key : String}
    (flat : ∀ sub, target.get? key ≠ some (.table sub)) :
    (Table.merge target t).get? key = (t.get? key).or (target.get? key) := by
  rw [Table.get?_merge target h]
  cases t.get? key with
  | none => rfl
  | some v => exact congrArg some (Value.over_of_flat flat v)

end Chip8
