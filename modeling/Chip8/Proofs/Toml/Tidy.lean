/-
Chip8.Proofs.Toml.Tidy — in the tables of a document every key stands once.

`Value.Tidy` says so of a value and of everything in it. A document is built
by `modify`, which sets an entry of a table on the way to the change that it
is given, and the changes that it is given set an entry too. So all that is
read is tidy: values, whatever tables and arrays they are made of
(`tidy_read`), the root table from statement to statement (`tidy_statement`),
and with it the table of a document (`tidy_parse`).
-/
import Chip8.Proofs.Settings.Table
import Chip8.Toml.Document

namespace Chip8

/-! ## Tidy values -/

/-- Whether a value has no parts. -/
def Value.isScalar : Value → Bool
  | .list _ | .table _ => false
  | _ => true

/-- The keys of tables stand there once, at every level of a value. -/
inductive Value.Tidy : Value → Prop
  | scalar {v : Value} (plain : v.isScalar = true) : Tidy v
  | list {items : List Value} (each : ∀ v ∈ items, Tidy v) : Tidy (.list items)
  | table {t : Table} (distinct : t.Distinct) (each : ∀ e ∈ t, Tidy e.2) : Tidy (.table t)

/-- The keys of a table and of the tables in it stand there once. -/
def Table.Tidy (t : Table) : Prop := Value.Tidy (.table t)

theorem Value.tidy_list_iff {items : List Value} :
    Value.Tidy (.list items) ↔ ∀ v ∈ items, v.Tidy := by
  constructor
  · intro h
    cases h with
    | scalar plain => cases plain
    | list each => exact each
  · exact .list

namespace Table

variable {t : Table} {k : String} {v : Value}

theorem tidy_iff : t.Tidy ↔ t.Distinct ∧ ∀ e ∈ t, e.2.Tidy := by
  constructor
  · intro h
    cases h with
    | scalar plain => cases plain
    | table distinct each => exact ⟨distinct, each⟩
  · rintro ⟨distinct, each⟩
    exact .table distinct each

theorem tidy_nil : Tidy [] := tidy_iff.mpr ⟨distinct_nil, fun _ he => nomatch he⟩

theorem Tidy.distinct (h : t.Tidy) : t.Distinct := (tidy_iff.mp h).1

theorem Tidy.of_get? (h : t.Tidy) (found : t.get? k = some v) : v.Tidy :=
  (tidy_iff.mp h).2 (k, v) ((get?_eq_some_iff h.distinct).mp found)

theorem Tidy.insert (h : t.Tidy) (k : String) (hv : v.Tidy) : (t.insert k v).Tidy := by
  have hdistinct := h.distinct.insert k v
  refine tidy_iff.mpr ⟨hdistinct, fun e he => ?_⟩
  obtain ⟨key, w⟩ := e
  have hfound := (get?_eq_some_iff hdistinct).mpr he
  rw [get?_insert] at hfound
  split at hfound
  · injection hfound with hfound
    rwa [← hfound]
  · exact h.of_get? hfound

end Table

namespace Toml

theorem bind_eq_ok {ε α β : Type} {x : Except ε α} {f : α → Except ε β} {b : β} :
    x >>= f = .ok b ↔ ∃ a, x = .ok a ∧ f a = .ok b := by
  cases x with
  | error e => simp [bind, Except.bind]
  | ok a => simp [bind, Except.bind]

theorem required_eq_ok {α : Type} {o : Option α} {a : α} : required o = .ok a ↔ o = some a := by
  cases o <;> simp [required]

/-! ## Changes of one table -/

/-- A change of a table that keeps it tidy. -/
def KeepsTidy (f : Table → Option Table) : Prop := ∀ t t', t.Tidy → f t = some t' → t'.Tidy

theorem keepsTidy_some : KeepsTidy some := by
  intro t t' h hf
  injection hf with hf
  rwa [← hf]

theorem keepsTidy_addNew (key : String) {v : Value} (hv : v.Tidy) : KeepsTidy (addNew key v) := by
  intro t t' h hf
  unfold addNew at hf
  split at hf
  · cases hf
  · injection hf with hf
    rw [← hf]
    exact h.insert key hv

theorem keepsTidy_appendTable (key : String) : KeepsTidy (appendTable key) := by
  intro t t' h hf
  have hnew : Value.Tidy (.table []) := Table.tidy_nil
  unfold appendTable at hf
  split at hf
  · injection hf with hf
    rw [← hf]
    exact h.insert key (.list (by simpa using hnew))
  · rename_i items hitems
    injection hf with hf
    rw [← hf]
    refine h.insert key (.list fun v hv => ?_)
    rcases List.mem_append.mp hv with hold | hlast
    · exact Value.tidy_list_iff.mp (h.of_get? hitems) v hold
    · rwa [List.mem_singleton.mp hlast]
  · cases hf

/-- A change of the last item of an array. -/
theorem tidy_modifyLast {f : Value → Option Value} {items items' : List Value}
    (h : ∀ v v', v.Tidy → f v = some v' → v'.Tidy) (hitems : ∀ v ∈ items, v.Tidy)
    (changed : modifyLast f items = some items') : ∀ v ∈ items', v.Tidy := by
  unfold modifyLast at changed
  split at changed
  · rename_i last hlast
    obtain ⟨last', hlast', rfl⟩ := Option.map_eq_some_iff.mp changed
    intro v hv
    rcases List.mem_append.mp hv with hold | hnew
    · exact hitems v (List.mem_of_mem_dropLast hold)
    · rw [List.mem_singleton.mp hnew]
      exact h last last' (hitems last (List.mem_of_getLast? hlast)) hlast'
  · cases changed

/-- What is changed at a path is changed in a table there, and set again in
every table on the way. -/
theorem keepsTidy_modify {f : Table → Option Table} (h : KeepsTidy f) (through : Bool)
    (path : Path) : KeepsTidy (modify through f path) := by
  induction path with
  | nil =>
    intro t t' ht hf
    rw [modify] at hf
    exact h t t' ht hf
  | cons k path ih =>
    intro t t' ht hf
    rw [modify] at hf
    split at hf
    · obtain ⟨sub, hsub, rfl⟩ := Option.map_eq_some_iff.mp hf
      exact ht.insert k (ih [] sub Table.tidy_nil hsub)
    · rename_i sub hfound
      obtain ⟨sub', hsub, rfl⟩ := Option.map_eq_some_iff.mp hf
      exact ht.insert k (ih sub sub' (ht.of_get? hfound) hsub)
    · rename_i items hfound
      split at hf
      · obtain ⟨items', hitems, rfl⟩ := Option.map_eq_some_iff.mp hf
        refine ht.insert k (.list (tidy_modifyLast ?_ (Value.tidy_list_iff.mp
          (ht.of_get? hfound)) hitems))
        intro v v' hv hv'
        split at hv'
        · obtain ⟨sub', hsub, rfl⟩ := Option.map_eq_some_iff.mp hv'
          exact ih _ sub' hv hsub
        · cases hv'
      · cases hf
    · cases hf

/-! ## Values -/

theorem isScalar_of_wholeValue {negative : Bool} {ds : List Char} {v : Value}
    (h : wholeValue negative ds = .ok v) : v.isScalar = true := by
  unfold wholeValue at h
  split at h
  · cases h
  · cases h
    rfl

theorem isScalar_of_decimalNumber {cs rest : List Char} {v : Value}
    (h : decimalNumber cs = some (.ok v, rest)) : v.isScalar = true := by
  unfold decimalNumber at h
  simp only [Option.bind_eq_bind, Option.bind_eq_some_iff] at h
  obtain ⟨_, _, h⟩ := h
  split at h
  · injection h with h
    injection h with h
    exact isScalar_of_wholeValue h
  · cases h
    rfl

theorem isScalar_of_number {cs rest : List Char} {v : Value}
    (h : number cs = some (.ok v, rest)) : v.isScalar = true := by
  unfold number at h
  split at h
  · cases h
    rfl
  · exact isScalar_of_decimalNumber h

theorem isScalar_of_specialFloat {cs rest : List Char} {v : Value}
    (h : specialFloat cs = some (v, rest)) : v.isScalar = true := by
  unfold specialFloat at h
  simp only at h
  split at h
  case h_3 => cases h
  all_goals
    cases h
    rfl

/-- What is read as a scalar is one. -/
theorem isScalar_of_scalar {cs rest : List Char} {v : Value} (h : scalar cs = .ok (v, rest)) :
    v.isScalar = true := by
  unfold scalar at h
  split at h
  · cases h
    rfl
  · cases h
    rfl
  · split at h
    · split at h
      · cases h
        rfl
      · cases h
    · cases h
      rfl
    · rename_i read _ _ _ hnumber
      cases read with
      | error broken => cases h
      | ok w =>
        injection h with h
        injection h with h
        rw [← h]
        exact isScalar_of_number hnumber
    · exact isScalar_of_specialFloat (required_eq_ok.mp h)

theorem Inline.tidy_add {t t' : Inline} {key : Path} {v : Value} (ht : t.entries.Tidy)
    (hv : v.Tidy) (h : t.add key v = some t') : t'.entries.Tidy := by
  unfold Inline.add at h
  split at h
  · cases h
  · split at h
    · cases h
    · simp only [Option.bind_eq_bind, Option.bind_eq_some_iff] at h
      obtain ⟨entries, hentries, h⟩ := h
      injection h with h
      rw [← h]
      exact keepsTidy_modify (keepsTidy_addNew _ hv) _ _ _ _ ht hentries

/-- All that can be read with so much fuel is tidy. -/
structure Reads (limit fuel : Nat) : Prop where
  value : ∀ {depth p cs v p' rest}, value limit fuel depth p cs = .ok (v, p', rest) → v.Tidy
  items : ∀ {depth p read cs v p' rest}, (∀ w ∈ read, w.Tidy) →
    items limit fuel depth p read cs = .ok (v, p', rest) → v.Tidy
  entries : ∀ {depth p table cs v p' rest}, table.entries.Tidy →
    inlineEntries limit fuel depth p table cs = .ok (v, p', rest) → v.Tidy

variable {limit fuel depth : Nat} {p p' : Practice} {cs rest : List Char} {v : Value}

theorem tidy_value (h : Reads limit fuel)
    (read : value limit (fuel + 1) depth p cs = .ok (v, p', rest)) : v.Tidy := by
  unfold value at read
  split at read
  · simp only [bind_eq_ok] at read
    obtain ⟨_, _, _, _, read⟩ := read
    split at read
    · cases read
      exact Value.tidy_list_iff.mpr (by simp)
    · exact h.items (by simp) read
  · simp only [bind_eq_ok] at read
    obtain ⟨_, _, read⟩ := read
    split at read
    · cases read
      exact Table.tidy_nil
    · exact h.entries Table.tidy_nil read
  · simp only [bind_eq_ok] at read
    obtain ⟨_, _, _, _, read⟩ := read
    cases read
    exact .scalar rfl
  · simp only [bind_eq_ok] at read
    obtain ⟨_, _, _, _, read⟩ := read
    cases read
    exact .scalar rfl
  · simp only [bind_eq_ok] at read
    obtain ⟨_, _, ⟨w, _⟩, hscalar, read⟩ := read
    cases read
    exact .scalar (isScalar_of_scalar hscalar)

theorem tidy_items (h : Reads limit fuel) {read : List Value} (hread : ∀ w ∈ read, w.Tidy)
    (done : items limit (fuel + 1) depth p read cs = .ok (v, p', rest)) : v.Tidy := by
  rw [items] at done
  simp only [bind_eq_ok] at done
  obtain ⟨⟨w, q, behind⟩, hw, _, _, _, _, done⟩ := done
  have hitems : ∀ u ∈ w :: read, u.Tidy := List.forall_mem_cons.mpr ⟨h.value hw, hread⟩
  have hlist : Value.Tidy (.list (w :: read).reverse) :=
    .list fun u hu => hitems u (List.mem_reverse.mp hu)
  split at done
  · cases done
    exact hlist
  · simp only [bind_eq_ok] at done
    obtain ⟨_, _, _, _, done⟩ := done
    split at done
    · cases done
      exact hlist
    · exact h.items hitems done
  · simp only [bind_eq_ok] at done
    obtain ⟨_, _, done⟩ := done
    cases done

theorem tidy_inlineEntries (h : Reads limit fuel) {table : Inline} (htable : table.entries.Tidy)
    (done : inlineEntries limit (fuel + 1) depth p table cs = .ok (v, p', rest)) : v.Tidy := by
  rw [inlineEntries] at done
  simp only [bind_eq_ok] at done
  obtain ⟨_, _, ⟨key, _⟩, _, _, _, ⟨w, q, behind⟩, hw, table', hadd, done⟩ := done
  have htable' : table'.entries.Tidy :=
    Inline.tidy_add htable (h.value hw) (required_eq_ok.mp hadd)
  split at done
  · cases done
    exact htable'
  · exact h.entries htable' done
  · cases done

/-- All that is read as a value is tidy. -/
theorem reads (limit fuel : Nat) : Reads limit fuel := by
  induction fuel with
  | zero =>
    constructor
    case value => intro _ _ _ _ _ _ h; rw [value] at h; cases h
    case items => intro _ _ _ _ _ _ _ _ h; rw [items] at h; cases h
    case entries => intro _ _ _ _ _ _ _ _ h; rw [inlineEntries] at h; cases h
  | succ fuel ih => exact ⟨tidy_value ih, tidy_items ih, tidy_inlineEntries ih⟩

/-! ## Statements -/

variable {s s' : State} {key : Path}

theorem tidy_openTable (hs : s.root.Tidy) (h : s.openTable key = some s') : s'.root.Tidy := by
  unfold State.openTable at h
  simp only at h
  split at h
  · cases h
  · obtain ⟨root, hroot, rfl⟩ := Option.map_eq_some_iff.mp h
    exact keepsTidy_modify keepsTidy_some _ _ _ _ hs hroot

theorem tidy_openItem (hs : s.root.Tidy) (h : s.openItem key = some s') : s'.root.Tidy := by
  unfold State.openItem at h
  simp only at h
  split at h
  · cases h
  · split at h
    · cases h
    · obtain ⟨root, hroot, rfl⟩ := Option.map_eq_some_iff.mp h
      exact keepsTidy_modify (keepsTidy_appendTable _) _ _ _ _ hs hroot

theorem tidy_set (hs : s.root.Tidy) (hv : v.Tidy) (h : s.set key v = some s') : s'.root.Tidy := by
  unfold State.set at h
  split at h
  · cases h
  · simp only at h
    split at h
    · cases h
    · obtain ⟨root, hroot, rfl⟩ := Option.map_eq_some_iff.mp h
      exact keepsTidy_modify (keepsTidy_addNew _ hv) _ _ _ _ hs hroot

/-- One statement keeps the root table tidy. -/
theorem tidy_statement (hs : s.root.Tidy) (h : statement limit depth s cs = .ok (s', rest)) :
    s'.root.Tidy := by
  unfold statement at h
  split at h
  · obtain ⟨⟨key, after⟩, -, h⟩ := bind_eq_ok.mp h
    obtain ⟨opened, hopened, h⟩ := bind_eq_ok.mp h
    obtain ⟨behind, -, h⟩ := bind_eq_ok.mp h
    injection h with h
    injection h with h
    rw [← h]
    exact tidy_openItem (s := s.practiseKey limit _) hs (required_eq_ok.mp hopened)
  · obtain ⟨⟨key, after⟩, -, h⟩ := bind_eq_ok.mp h
    obtain ⟨opened, hopened, h⟩ := bind_eq_ok.mp h
    obtain ⟨behind, -, h⟩ := bind_eq_ok.mp h
    injection h with h
    injection h with h
    rw [← h]
    exact tidy_openTable (s := s.practiseKey limit _) hs (required_eq_ok.mp hopened)
  · injection h with h
    injection h with h
    rwa [← h]
  · obtain ⟨⟨key, after⟩, -, h⟩ := bind_eq_ok.mp h
    obtain ⟨behind, -, h⟩ := bind_eq_ok.mp h
    obtain ⟨⟨v, practice, rest⟩, hv, h⟩ := bind_eq_ok.mp h
    obtain ⟨set, hset, h⟩ := bind_eq_ok.mp h
    injection h with h
    injection h with h
    rw [← h]
    exact tidy_set (s := { s.practiseKey limit cs with practice }) hs
      ((reads limit limit).value hv) (required_eq_ok.mp hset)

/-- The root table stays tidy to the end of the text. -/
theorem tidy_statements (hs : s.root.Tidy) (h : statements limit depth fuel s cs = .ok s') :
    s'.root.Tidy := by
  induction fuel generalizing s cs with
  | zero => cases h
  | succ fuel ih =>
    unfold statements at h
    split at h
    · injection h with h
      rwa [← h]
    · exact ih hs h
    · obtain ⟨⟨next, after⟩, hnext, h⟩ := bind_eq_ok.mp h
      obtain ⟨behind, -, h⟩ := bind_eq_ok.mp h
      have htidy := tidy_statement hs hnext
      split at h
      · injection h with h
        rwa [← h]
      · exact ih (s := next.seekComment) htidy h
      · cases h

/-- **In the tables of a document that was read every key stands once.** -/
theorem tidy_parse {text : String} {t : Table} (h : parse depth text = .ok t) : t.Tidy := by
  unfold parse at h
  simp only at h
  generalize hread : statements _ depth _ _ _ = read at h
  cases read with
  | error broken => cases h
  | ok s =>
    injection h with h
    rw [← h]
    exact tidy_statements Table.tidy_nil hread

end Toml

end Chip8
