/-
Chip8.Proofs.Machine.Flipping — inverting cells one after the other, seen
cell by cell.

A cell that is inverted an odd number of times changes, one that is inverted
an even number of times does not (`lit_flip`). A lit cell is hit exactly if
some cell was lit before and is inverted, or is inverted twice, so that it
is lit at one of the two times (`flip_hit_iff`).

So the picture depends on how often each cell occurs among the inverted
ones, and on nothing else of their order: two lists that agree up to an even
number lead to one picture (`flip_eq_of_parity`), a rearranged list to the
same picture (`flip_eq_of_perm`), and a list followed by a rearrangement of
itself back to where it started (`flip_append_of_perm`). Whether a lit cell
is hit does depend on the order.
-/
import Mathlib.Tactic
import Chip8.Machine.Frame

namespace Chip8.Frame

/-- Pictures of one shape that have the same cells lit are equal. -/
theorem ext_lit {f g : Frame} (width : f.width = g.width) (height : f.height = g.height)
    (backwards : f.backwards = g.backwards) (size : f.cells.size = g.cells.size)
    (lit : ∀ p, f.lit p = g.lit p) : f = g := by
  obtain ⟨w, h, cells, b⟩ := f
  obtain ⟨w', h', cells', b'⟩ := g
  have hcells : cells = cells' := by
    refine Array.ext size fun p hp hp' => ?_
    have hlit := lit p
    simp only [Frame.lit, Array.getD_eq_getD_getElem?, Array.getElem?_eq_getElem hp,
      Array.getElem?_eq_getElem hp', Option.getD_some] at hlit
    exact hlit
  simp only at width height backwards
  rw [width, height, backwards, hcells]

variable {f : Frame} {cells more : List Nat}

/-! ## One list after another -/

/-- Inverting cells changes nothing but the cells. -/
theorem flip_shape (f : Frame) (cells : List Nat) :
    (f.flip cells).1 = { f with cells := (f.flip cells).1.cells } := by
  induction cells generalizing f with
  | nil => rfl
  | cons p rest ih => exact ih (f.invert p)

@[simp] theorem size_flip (f : Frame) (cells : List Nat) :
    (f.flip cells).1.cells.size = f.cells.size := by
  induction cells generalizing f with
  | nil => rfl
  | cons p rest ih => exact (ih (f.invert p)).trans (size_invert f p)

theorem flip_append (f : Frame) (cells more : List Nat) :
    (f.flip (cells ++ more)).1 = ((f.flip cells).1.flip more).1 := by
  induction cells generalizing f with
  | nil => rfl
  | cons p rest ih => exact ih (f.invert p)

/-! ## The view from one cell -/

/-- **A cell changes if it is inverted an odd number of times.** -/
theorem lit_flip (inside : ∀ p ∈ cells, p < f.cells.size) (q : Nat) :
    (f.flip cells).1.lit q = (f.lit q ^^ decide (Odd (cells.count q))) := by
  induction cells generalizing f with
  | nil => simp [flip]
  | cons p rest ih =>
    obtain ⟨hp, hrest⟩ := List.forall_mem_cons.mp inside
    have hlater : ((f.invert p).flip rest).1.lit q =
        ((f.invert p).lit q ^^ decide (Odd (rest.count q))) :=
      ih (by simpa only [size_invert] using hrest)
    show ((f.invert p).flip rest).1.lit q = _
    rw [hlater, lit_invert]
    by_cases hq : q = p
    · subst hq
      rw [if_pos ⟨rfl, hp⟩, List.count_cons_self, decide_eq_decide.mpr Nat.odd_add_one, decide_not,
        Bool.not_xor, Bool.xor_not]
    · rw [if_neg fun h => hq h.1, List.count_cons_of_ne (Ne.symm hq)]

/-- **A lit cell is hit** if a cell among the inverted ones was lit, or is
inverted twice: a cell that was dark is lit when its second turn comes. -/
theorem flip_hit_iff (inside : ∀ p ∈ cells, p < f.cells.size) :
    (f.flip cells).2 = true ↔
      ∃ p, 1 ≤ cells.count p ∧ (f.lit p = true ∨ 2 ≤ cells.count p) := by
  induction cells generalizing f with
  | nil => simp [flip]
  | cons p rest ih =>
    obtain ⟨hp, hrest⟩ := List.forall_mem_cons.mp inside
    have hlater : ((f.invert p).flip rest).2 = true ↔
        ∃ q, 1 ≤ rest.count q ∧ ((f.invert p).lit q = true ∨ 2 ≤ rest.count q) :=
      ih (by simpa only [size_invert] using hrest)
    have hfirst : (f.flip (p :: rest)).2 = (f.lit p || ((f.invert p).flip rest).2) := rfl
    have hsame : (f.invert p).lit p = !f.lit p := by rw [lit_invert, if_pos ⟨rfl, hp⟩]
    have hother : ∀ {q}, q ≠ p → (f.invert p).lit q = f.lit q ∧
        (p :: rest).count q = rest.count q := fun hq =>
      ⟨by rw [lit_invert, if_neg fun h => hq h.1], List.count_cons_of_ne (Ne.symm hq)⟩
    rw [hfirst, Bool.or_eq_true, hlater]
    constructor
    · rintro (hlit | ⟨q, hcount, hlit⟩)
      · exact ⟨p, by simp, Or.inl hlit⟩
      · by_cases hq : q = p
        · subst hq
          exact ⟨q, by simp, Or.inr (by rw [List.count_cons_self]; omega)⟩
        · rw [(hother hq).1] at hlit
          refine ⟨q, ?_, ?_⟩ <;> rwa [(hother hq).2]
    · rintro ⟨q, hcount, hlit⟩
      by_cases hq : q = p
      · subst hq
        rw [List.count_cons_self] at hlit
        cases hwas : f.lit q with
        | true => exact Or.inl rfl
        | false =>
          rw [hwas] at hsame hlit
          exact Or.inr ⟨q, by simpa using hlit, Or.inl hsame⟩
      · rw [(hother hq).2] at hcount hlit
        exact Or.inr ⟨q, hcount, by rwa [(hother hq).1]⟩

/-! ## What the order does not matter for -/

/-- Lists in which every cell occurs equally often, up to an even number, lead
to one picture. -/
theorem flip_eq_of_parity (inside : ∀ p ∈ cells, p < f.cells.size)
    (inside' : ∀ p ∈ more, p < f.cells.size)
    (parity : ∀ q, Odd (cells.count q) ↔ Odd (more.count q)) :
    (f.flip cells).1 = (f.flip more).1 := by
  have hcells := flip_shape f cells
  have hmore := flip_shape f more
  refine ext_lit ?_ ?_ ?_ ?_ ?_
  · rw [hcells, hmore]
  · rw [hcells, hmore]
  · rw [hcells, hmore]
  · rw [size_flip, size_flip]
  · intro q
    rw [lit_flip inside, lit_flip inside', decide_eq_decide.mpr (parity q)]

theorem flip_eq_of_perm (inside : ∀ p ∈ cells, p < f.cells.size) (perm : cells.Perm more) :
    (f.flip cells).1 = (f.flip more).1 :=
  flip_eq_of_parity inside (fun p hp => inside p (perm.mem_iff.mpr hp)) fun q => by
    rw [perm.count_eq]

/-- Cells inverted once more, in whatever order, are as they were. -/
theorem flip_append_of_perm (inside : ∀ p ∈ cells, p < f.cells.size) (perm : cells.Perm more) :
    (f.flip (cells ++ more)).1 = f := by
  have hall : ∀ p ∈ cells ++ more, p < f.cells.size := by
    intro p hp
    rcases List.mem_append.mp hp with hp | hp
    · exact inside p hp
    · exact inside p (perm.mem_iff.mpr hp)
  have heven : ∀ q, Odd ((cells ++ more).count q) ↔ Odd (([] : List Nat).count q) := by
    intro q
    rw [List.count_append, perm.count_eq]
    simp
  exact flip_eq_of_parity hall (by simp) heven

end Chip8.Frame
