/-
Chip8.Proofs.Settings.Merge — the laws of laying one table over another.

What a path of keys leads to (`Value.at?`) is the view of nested tables under
which the laws are stated. One step of it in a merged table is `at?_merge_cons`,
and every law about paths is an induction on the path from there: what the
upper table says of a path holds (`at?_merge_of_upper`), what it says nothing
of is kept (`at?_merge_of_lower`), and nothing else appears
(`isSome_at?_of_merge`). The keys of every level come in order
(`keys_at?_merge`).

That a table laid over a second time changes nothing takes the same of the
values under its keys. A value that went in unchanged is then laid over itself,
so that comes first (`Value.over_self`, then `Value.over_over`). Both are
inductions on the upper value, where keys stand once at every level.
-/
import Chip8.Proofs.Toml.Tidy

namespace Chip8

/-! ## Paths -/

namespace Value

/-- What a path of keys leads to. The empty path leads to the value itself. -/
def at? : Value → List String → Option Value
  | v, [] => some v
  | .table t, k :: path => (Table.get? t k).bind fun v => v.at? path
  | _, _ :: _ => none

/-- Nothing lies below what is no table. -/
theorem at?_cons_of_not_table {v : Value} (h : v.isTable = false) (k : String)
    (path : List String) : v.at? (k :: path) = none := by
  cases v with
  | table t => cases h
  | _ => rfl

/-- Two tables are merged, and everything else takes the place of what was
there. -/
theorem over_cases (old : Option Value) (v : Value) :
    (∃ a b, old = some (.table a) ∧ v = .table b ∧ Value.over old v = .table (Table.merge a b)) ∨
      ((∀ a, old ≠ some (.table a)) ∨ v.isTable = false) ∧ Value.over old v = v := by
  by_cases flat : ∀ a, old ≠ some (.table a)
  · exact .inr ⟨.inl flat, over_of_flat flat v⟩
  · cases hv : v.isTable with
    | false => exact .inr ⟨.inr rfl, over_of_not_table hv old⟩
    | true =>
      obtain ⟨a, ha⟩ := not_forall.mp flat
      have ha : old = some (.table a) := not_not.mp ha
      obtain ⟨b, rfl⟩ := eq_table_of_isTable hv
      exact .inl ⟨a, b, ha, rfl, by rw [ha, over_table]⟩

end Value

namespace Table

variable {t o m sub : Table} {k : String} {path : List String} {v : Value}

def at? (t : Table) (path : List String) : Option Value := Value.at? (.table t) path

/-- The keys of the table that a path leads to; none if it leads to no table. -/
def keysAt (t : Table) (path : List String) : List String :=
  match t.at? path with
  | some (.table sub) => keys sub
  | _ => []

theorem at?_cons (t : Table) (k : String) (path : List String) :
    t.at? (k :: path) = (t.get? k).bind fun v => v.at? path := rfl

theorem keysAt_of_table (h : t.at? path = some (.table sub)) : t.keysAt path = sub.keys := by
  unfold keysAt
  rw [h]

theorem keysAt_cons_of_table (h : t.get? k = some (.table sub)) (path : List String) :
    t.keysAt (k :: path) = sub.keysAt path := by
  unfold keysAt
  rw [at?_cons, h]
  rfl

/-- A path that does not go through a table leads to no keys. -/
theorem keysAt_cons_of_flat (flat : ∀ sub, t.get? k ≠ some (.table sub)) (path : List String) :
    t.keysAt (k :: path) = [] := by
  unfold keysAt
  rw [at?_cons]
  cases hget : t.get? k with
  | none => rfl
  | some v =>
    cases v with
    | table sub => exact absurd hget (flat sub)
    | _ => cases path <;> rfl

/-- One step down a table laid over another. -/
theorem at?_merge_cons (t : Table) (ho : o.Distinct) (k : String) (path : List String) :
    (merge t o).at? (k :: path) =
      match o.get? k with
      | some v => (Value.over (t.get? k) v).at? path
      | none => t.at? (k :: path) := by
  rw [at?_cons, get?_merge t ho k]
  cases o.get? k with
  | none => rfl
  | some v => rfl

/-! ## What a path leads to in a merged table -/

/-- **What the upper table gives is found, unless it is a table.** -/
theorem at?_merge_of_upper (t : Table) (ho : o.Tidy) (given : o.at? path = some v)
    (leaf : v.isTable = false) : (merge t o).at? path = some v := by
  induction path generalizing t o with
  | nil =>
    injection given with given
    rw [← given] at leaf
    cases leaf
  | cons k path ih =>
    obtain ⟨w, hw, hv⟩ := Option.bind_eq_some_iff.mp given
    rw [at?_merge_cons t ho.distinct, hw]
    rcases Value.over_cases (t.get? k) w with ⟨a, b, -, rfl, hmerged⟩ | ⟨-, hplaced⟩
    · simp only [hmerged]
      exact ih a (ho.of_get? hw) hv
    · simp only [hplaced]
      exact hv

/-- **What the upper table leaves alone is kept.** Where it has a table for a
table, the two are merged. -/
theorem at?_merge_of_lower (ho : o.Tidy) (found : t.at? path = some v)
    (unset : ∀ front w, front <+: path → o.at? front = some w → w.isTable = true)
    (unmet : ∀ front u w, front <+: path → t.at? front = some u → o.at? front = some w →
      w.isTable = true → u.isTable = true) :
    o.at? path = none ∧ (merge t o).at? path = some v ∨
      ∃ a b, v = .table a ∧ o.at? path = some (.table b) ∧
        (merge t o).at? path = some (.table (merge a b)) := by
  induction path generalizing t o with
  | nil =>
    injection found with found
    exact .inr ⟨t, o, found.symm, rfl, rfl⟩
  | cons k path ih =>
    obtain ⟨u, hu, hv⟩ := Option.bind_eq_some_iff.mp found
    rw [at?_merge_cons t ho.distinct]
    cases hw : o.get? k with
    | none =>
      left
      rw [at?_cons, hw]
      exact ⟨rfl, found⟩
    | some w =>
      have hfirst : [k] <+: k :: path := ⟨path, rfl⟩
      have hw' : o.at? [k] = some w := by rw [at?_cons, hw]; rfl
      have hu' : t.at? [k] = some u := by rw [at?_cons, hu]; rfl
      obtain ⟨b, rfl⟩ := Value.eq_table_of_isTable (unset [k] w hfirst hw')
      obtain ⟨a, rfl⟩ := Value.eq_table_of_isTable (unmet [k] u _ hfirst hu' hw' rfl)
      have hsteps : ∀ front, t.at? (k :: front) = at? a front ∧ o.at? (k :: front) = at? b front :=
        fun front => by rw [at?_cons, at?_cons, hu, hw]; exact ⟨rfl, rfl⟩
      simp only [hu, Value.over_table]
      rw [(hsteps path).2]
      refine ih (ho.of_get? hw) hv (fun front w hfront hgiven => ?_)
        (fun front u w hfront hfound hgiven => ?_)
      · exact unset (k :: front) w (List.cons_prefix_cons.mpr ⟨rfl, hfront⟩)
          ((hsteps front).2.trans hgiven)
      · exact unmet (k :: front) u w (List.cons_prefix_cons.mpr ⟨rfl, hfront⟩)
          ((hsteps front).1.trans hfound) ((hsteps front).2.trans hgiven)

/-- **Nothing appears that is in neither table.** -/
theorem isSome_at?_of_merge (ho : o.Tidy) (found : ((merge t o).at? path).isSome = true) :
    (t.at? path).isSome = true ∨ (o.at? path).isSome = true := by
  induction path generalizing t o with
  | nil => exact .inl rfl
  | cons k path ih =>
    rw [at?_merge_cons t ho.distinct] at found
    cases hw : o.get? k with
    | none =>
      rw [hw] at found
      exact .inl found
    | some w =>
      simp only [hw] at found
      rcases Value.over_cases (t.get? k) w with ⟨a, b, ha, rfl, hmerged⟩ | ⟨-, hplaced⟩
      · rw [hmerged] at found
        rw [at?_cons, at?_cons, ha, hw]
        exact ih (ho.of_get? hw) found
      · rw [hplaced] at found
        right
        rw [at?_cons, hw]
        exact found

/-! ## Keys -/

theorem foldl_addKey (keys : List String) {ks : List String} (distinct : ks.Nodup) :
    ks.foldl addKey keys = keys ++ ks.filter (· ∉ keys) := by
  induction ks generalizing keys with
  | nil => exact (List.append_nil keys).symm
  | cons k ks ih =>
    obtain ⟨hnew, hrest⟩ := List.nodup_cons.mp distinct
    rw [List.foldl_cons, ih _ hrest, addKey]
    by_cases h : k ∈ keys
    · simp [h]
    · -- the key that was added is none of those to come
      have hsame : ks.filter (· ∉ keys ++ [k]) = ks.filter (· ∉ keys) := by
        refine List.filter_congr fun k' hk' => ?_
        have hne : k' ≠ k := fun heq => hnew (heq ▸ hk')
        simp [hne]
      rw [if_neg h, hsame]
      simp [h]

/-- **The keys of every level are those of the lower table in their order, and
then the new ones of the upper table in theirs.** -/
theorem keys_at?_merge (ho : o.Tidy) (found : (merge t o).at? path = some (.table sub)) :
    sub.keys = t.keysAt path ++ (o.keysAt path).filter (· ∉ t.keysAt path) := by
  induction path generalizing t o with
  | nil =>
    injection found with found
    injection found with found
    rw [← found, keys_merge, foldl_addKey _ ho.distinct]
    rfl
  | cons k path ih =>
    rw [at?_merge_cons t ho.distinct] at found
    cases hw : o.get? k with
    | none =>
      rw [hw] at found
      have hnone : o.keysAt (k :: path) = [] := keysAt_cons_of_flat (by simp [hw]) path
      rw [keysAt_of_table found, hnone, List.filter_nil, List.append_nil]
    | some w =>
      simp only [hw] at found
      rcases Value.over_cases (t.get? k) w with ⟨a, b, ha, rfl, hmerged⟩ | ⟨happly, hplaced⟩
      · rw [hmerged] at found
        rw [keysAt_cons_of_table ha, keysAt_cons_of_table hw]
        exact ih (ho.of_get? hw) found
      · rw [hplaced] at found
        have hupper : o.at? (k :: path) = some (.table sub) := by rw [at?_cons, hw]; exact found
        have hlower : t.keysAt (k :: path) = [] := by
          rcases happly with flat | hleaf
          · exact keysAt_cons_of_flat flat path
          · -- below a value that is no table there is none either
            cases path with
            | nil =>
              injection found with found
              rw [found] at hleaf
              cases hleaf
            | cons k' path =>
              rw [Value.at?_cons_of_not_table hleaf] at found
              cases found
        rw [keysAt_of_table hupper, hlower]
        simp

/-! ## Laying over a second time -/

/-- A table that changes no value under its keys changes nothing. -/
theorem merge_eq_left (hm : m.Distinct) (ho : o.Distinct)
    (same : ∀ k w, o.get? k = some w → ∃ v, m.get? k = some v ∧ Value.over (some v) w = v) :
    merge m o = m := by
  refine ext_get? (hm.merge o) ?_ fun k => ?_
  · have hknown : o.keys.filter (· ∉ m.keys) = [] := by
      refine List.filter_eq_nil_iff.mpr fun k hk => ?_
      obtain ⟨w, hw⟩ := Option.ne_none_iff_exists'.mp (mt get?_eq_none_iff.mp (not_not.mpr hk))
      obtain ⟨v, hv, -⟩ := same k w hw
      have hmem : k ∈ m.keys := not_not.mp fun hnot => by
        rw [get?_eq_none_iff.mpr hnot] at hv
        cases hv
      simpa using hmem
    rw [keys_merge, foldl_addKey _ ho, hknown, List.append_nil]
  · rw [get?_merge m ho]
    cases hw : o.get? k with
    | none => rfl
    | some w =>
      obtain ⟨v, hv, hover⟩ := same k w hw
      simp only [hv, hover]

end Table

namespace Value

/-- A value that is laid over itself. -/
theorem over_self {v : Value} (h : v.Tidy) : Value.over (some v) v = v := by
  induction h with
  | @scalar v plain => exact over_of_not_table (by cases v <;> first | rfl | cases plain) _
  | list => exact over_of_not_table rfl _
  | @table t distinct each ih =>
    rw [over_table, Table.merge_eq_left distinct distinct fun k w hw => ?_]
    exact ⟨w, hw, ih _ ((Table.get?_eq_some_iff distinct).mp hw)⟩

/-- A value that is laid over a second time. -/
theorem over_over {w : Value} (h : w.Tidy) (old : Option Value) (hold : ∀ v ∈ old, v.Tidy) :
    Value.over (some (Value.over old w)) w = Value.over old w := by
  induction h generalizing old with
  | @scalar w plain =>
    have hleaf : w.isTable = false := by cases w <;> first | rfl | cases plain
    rw [over_of_not_table hleaf, over_of_not_table hleaf]
  | list => rw [over_of_not_table rfl, over_of_not_table rfl]
  | @table o distinct each ih =>
    rcases over_cases old (.table o) with ⟨a, b, rfl, hb, hmerged⟩ | ⟨-, hplaced⟩
    · injection hb with hb
      subst hb
      have ha : Table.Tidy a := hold _ rfl
      rw [hmerged, over_table, Table.merge_eq_left (ha.distinct.merge o) distinct fun k w hw => ?_]
      refine ⟨Value.over (Table.get? a k) w, by rw [Table.get?_merge a distinct, hw], ?_⟩
      exact ih (k, w) ((Table.get?_eq_some_iff distinct).mp hw) _ fun v hv => ha.of_get? hv
    · rw [hplaced]
      exact over_self (.table distinct each)

end Value

namespace Table

/-- **A table laid over itself changes nothing.** -/
theorem merge_self {t : Table} (h : t.Tidy) : merge t t = t := by
  have hself := Value.over_self h
  rw [Value.over_table] at hself
  exact Value.table.inj hself

/-- **Laying a table over a second time changes nothing.** -/
theorem merge_merge {t o : Table} (ht : t.Tidy) (ho : o.Tidy) :
    merge (merge t o) o = merge t o := by
  have htwice := Value.over_over ho (some (.table t)) fun v hv => by
    rw [← Option.mem_some_iff.mp hv]
    exact ht
  rw [Value.over_table, Value.over_table] at htwice
  exact Value.table.inj htwice

/-! ## The statement -/

/-- **The laws of laying a table over another.** A path that leads to no table
in the upper one leads to the same there. A path of the lower one to which the
upper one sets nothing, at no place on the way, leads to what it did, unless
both have a table there, and then to the two merged. No path is new. At every
level the keys of the lower table come first and then the new ones of the upper
one, each in their order. A second time changes nothing, and neither does an
empty table or the table itself. -/
theorem merge_pathwise_idempotent {t o : Table} (ht : t.Tidy) (ho : o.Tidy) :
    (∀ path v, o.at? path = some v → v.isTable = false → (merge t o).at? path = some v) ∧
    (∀ path v, t.at? path = some v →
      (∀ front w, front <+: path → o.at? front = some w → w.isTable = true) →
      (∀ front u w, front <+: path → t.at? front = some u → o.at? front = some w →
        w.isTable = true → u.isTable = true) →
      o.at? path = none ∧ (merge t o).at? path = some v ∨
        ∃ a b, v = .table a ∧ o.at? path = some (.table b) ∧
          (merge t o).at? path = some (.table (merge a b))) ∧
    (∀ path, ((merge t o).at? path).isSome = true →
      (t.at? path).isSome = true ∨ (o.at? path).isSome = true) ∧
    (∀ path sub, (merge t o).at? path = some (.table sub) →
      keys sub = t.keysAt path ++ (o.keysAt path).filter (· ∉ t.keysAt path)) ∧
    merge (merge t o) o = merge t o ∧ merge t [] = t ∧ merge t t = t := by
  have hempty : merge t [] = t := by rw [merge]
  refine ⟨fun path v => at?_merge_of_upper t ho, fun path v => at?_merge_of_lower ho,
    fun path => isSome_at?_of_merge ho, fun path sub => keys_at?_merge ho,
    merge_merge ht ho, hempty, merge_self ht⟩

/-- A number takes the place of a table (`b`) and a table that of a number
(`d`); of the tables under `a` the lower one keeps its `c`. -/
theorem merge_pathwise_idempotent_both_ways :
    ∃ t o m : Table, t.Tidy ∧ o.Tidy ∧ m = merge t o ∧
      t = [("a", .table [("b", .table [("x", .int 1)]), ("c", .int 2)]), ("d", .int 3)] ∧
      o = [("e", .int 4), ("a", .table [("b", .int 5)]), ("d", .table [])] ∧
      m.at? ["a", "b"] = some (.int 5) ∧ m.at? ["a", "c"] = some (.int 2) ∧
      m.at? ["d", "c"] = none ∧ m.keys = ["a", "d", "e"] ∧
      merge m o = m ∧ merge t [] = t ∧ merge t t = t := by
  let t : Table := [("a", .table [("b", .table [("x", .int 1)]), ("c", .int 2)]), ("d", .int 3)]
  let o : Table := [("e", .int 4), ("a", .table [("b", .int 5)]), ("d", .table [])]
  have hint : ∀ n, Value.Tidy (.int n) := fun n => .scalar rfl
  have htable : ∀ entries : Table, Value.Tidy (.table entries) ↔
      entries.keys.Nodup ∧ ∀ e ∈ entries, e.2.Tidy := fun _ => tidy_iff
  have ht : t.Tidy := (htable t).mpr (by simp [t, htable, hint, keys])
  have ho : o.Tidy := (htable o).mpr (by simp [o, htable, hint, keys])
  obtain ⟨hupper, hlower, hnew, hkeys, htwice, hempty, hself⟩ := merge_pathwise_idempotent ht ho
  refine ⟨t, o, merge t o, ht, ho, rfl, rfl, rfl, hupper ["a", "b"] (.int 5) rfl rfl, ?_, ?_,
    hkeys [] _ rfl, htwice, hempty, hself⟩
  · have hways : ∀ front ∈ List.inits ["a", "c"], ∀ w ∈ o.at? front,
        w.isTable = true ∧ ∀ u ∈ t.at? front, u.isTable = true := by decide
    have hkept := hlower ["a", "c"] (.int 2) rfl
      (fun front w hfront hw => (hways front ((List.mem_inits ..).mpr hfront) w hw).1)
      (fun front u w hfront hu hw _ => (hways front ((List.mem_inits ..).mpr hfront) w hw).2 u hu)
    rcases hkept with ⟨-, hkept⟩ | ⟨a, b, hnot, -⟩
    · exact hkept
    · cases hnot
  · refine Option.not_isSome_iff_eq_none.mp fun hsome => ?_
    rcases hnew ["d", "c"] hsome with h | h <;> cases h

end Table

end Chip8
