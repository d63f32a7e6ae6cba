/-
Chip8.Proofs.Machine.Drawing — a drawn sprite, seen pixel by pixel.

`Frame.coverage` counts the set bits of a sprite that fall on a cell when
both axes wrap around: pairs of a row and a place in the row, with no order
among them. The machine draws by inverting cells in a row; that the cells it
inverts are those that are covered, each as often as it is covered, is
`count_targets`. What drawing does to a cell, to the flag and to the rest of
the machine is then read off from `Flipping` (`exists_drawn`).

On a picture at least as wide as a sprite and at least as high, no two bits
fall on the same cell (`coverage_le_one`); on a smaller one they can, and a
sprite then hits what it has just lit itself.
-/
import Chip8.Proofs.Machine.Flipping
import Chip8.Proofs.Machine.Range

namespace Chip8

namespace Memory

theorem slice_succ (m : Memory) (start count : Nat) :
    m.slice start (count + 1) = m.read start :: m.slice (start + 1) count := by
  unfold slice
  rw [List.range_succ_eq_map, List.map_cons, List.map_map]
  refine congrArg (m.read start :: ·) (List.map_congr_left fun k _ => ?_)
  show m.read (start + (k + 1)) = m.read (start + 1 + k)
  rw [Nat.add_right_comm, Nat.add_assoc]

end Memory

namespace Frame

/-- How many set bits of a sprite fall on cell `p`. The sprite is the rows
read from `address` on, eight places each with the highest bit on the left,
its upper left corner at column `x` and row `y`. -/
def coverage (f : Frame) (memory : Memory) (address rows x y p : Nat) : Nat :=
  ((Finset.range rows ×ˢ Finset.range 8).filter fun (row, place) =>
    (memory.read (address + row)).toNat.testBit (7 - place) = true ∧
      p = (y + row) % f.height * f.width + (x + place) % f.width).card

variable {f : Frame} {memory : Memory} {address rows x y p : Nat}

/-- The coverage by one row. -/
def rowCoverage (f : Frame) (row : Byte) (x y p : Nat) : Nat :=
  ((Finset.range 8).filter fun place =>
    row.toNat.testBit (7 - place) = true ∧
      p = y % f.height * f.width + (x + place) % f.width).card

theorem coverage_eq_sum (f : Frame) (memory : Memory) (address rows x y p : Nat) :
    f.coverage memory address rows x y p =
      ∑ row ∈ Finset.range rows, f.rowCoverage (memory.read (address + row)) x (y + row) p := by
  simp only [coverage, rowCoverage, Finset.card_filter, Finset.sum_product]

/-- A sprite is its first row and the sprite below it. -/
theorem coverage_succ (f : Frame) (memory : Memory) (address rows x y p : Nat) :
    f.coverage memory address (rows + 1) x y p =
      f.rowCoverage (memory.read address) x y p +
        f.coverage memory (address + 1) rows x (y + 1) p := by
  rw [coverage_eq_sum, coverage_eq_sum, Finset.sum_range_succ', Nat.add_comm]
  refine congrArg₂ (· + ·) rfl (Finset.sum_congr rfl fun row _ => ?_)
  rw [Nat.add_comm row 1, ← Nat.add_assoc, ← Nat.add_assoc]

/-! ## Targets and coverage -/

/-- The cells under a sprite depend on the shape of the picture only. -/
theorem targets_withCells (f : Frame) (cells : Array Bool) (x y : Nat) (sprite : List Byte) :
    { f with cells := cells }.targets x y sprite = f.targets x y sprite := by
  induction sprite generalizing y with
  | nil => rfl
  | cons row rest ih => exact congrArg (f.rowTargets x y row ++ ·) (ih (y + 1))

/-- Inverting cells keeps the shape of a picture. -/
theorem IsGrid.flip {f : Frame} (grid : f.IsGrid) (cells : List Nat) : (f.flip cells).1.IsGrid := by
  have hsize := size_flip f cells
  rw [flip_shape] at hsize ⊢
  exact ⟨grid.width_pos, grid.height_pos, grid.forwards, hsize.trans grid.size⟩

theorem count_rowTargets (grid : f.IsGrid) (row : Byte) (x y p : Nat) :
    (f.rowTargets x y row).count p = f.rowCoverage row x y p := by
  unfold rowTargets rowCoverage List.count
  rw [List.countP_map, List.countP_filter, ← Nat.count_eq_card_filter_range]
  refine List.countP_congr fun place _ => ?_
  simp only [Function.comp_apply, grid.cellAt_eq, pixelSet, Bool.and_eq_true, beq_iff_eq,
    decide_eq_true_eq]
  constructor
  · rintro ⟨rfl, set⟩
    exact ⟨set, rfl⟩
  · rintro ⟨set, rfl⟩
    exact ⟨rfl, set⟩

/-- **A cell is among those a sprite inverts as often as the sprite covers it.** -/
theorem count_targets (grid : f.IsGrid) (memory : Memory) (address rows x y p : Nat) :
    (f.targets x y (memory.slice address rows)).count p =
      f.coverage memory address rows x y p := by
  induction rows generalizing address y with
  | zero => rfl
  | succ rows ih =>
    rw [Memory.slice_succ, targets, List.count_append, count_rowTargets grid, ih, coverage_succ]

/-- Two bits of a sprite fall on one cell only if they are one bit, provided
the picture has room for the sprite. -/
theorem coverage_le_one (wide : 8 ≤ f.width) (high : rows ≤ f.height) :
    f.coverage memory address rows x y p ≤ 1 := by
  have hunique : ∀ {corner size a b : Nat}, a < size → b < size →
      (corner + a) % size = (corner + b) % size → a = b := by
    intro corner size a b ha hb hmod
    have hsame : a ≡ b [MOD size] := Nat.ModEq.add_left_cancel' corner hmod
    rwa [Nat.ModEq, Nat.mod_eq_of_lt ha, Nat.mod_eq_of_lt hb] at hsame
  refine Finset.card_le_one.mpr ?_
  rintro ⟨row, place⟩ hbit ⟨row', place'⟩ hbit'
  simp only [Finset.mem_filter, Finset.mem_product, Finset.mem_range] at hbit hbit'
  obtain ⟨⟨hrow, hplace⟩, -, hcell⟩ := hbit
  obtain ⟨⟨hrow', hplace'⟩, -, hcell'⟩ := hbit'
  have hcolumn : (x + place) % f.width < f.width := Nat.mod_lt _ (by omega)
  have hcolumn' : (x + place') % f.width < f.width := Nat.mod_lt _ (by omega)
  have hsame : (y + row) % f.height * f.width + (x + place) % f.width =
      (y + row') % f.height * f.width + (x + place') % f.width := hcell.symm.trans hcell'
  have hmod := congrArg (· % f.width) hsame
  have hdiv := congrArg (· / f.width) hsame
  simp only [Nat.mul_add_mod_self_right, Nat.mod_mod] at hmod
  rw [Nat.mul_comm, Nat.mul_comm ((y + row') % f.height)] at hdiv
  simp only [Nat.mul_add_div (show f.width > 0 by omega), Nat.div_eq_of_lt hcolumn,
    Nat.div_eq_of_lt hcolumn', Nat.add_zero] at hdiv
  rw [hunique (by omega) (by omega) hdiv, hunique (by omega) (by omega) hmod]

/-- The screen has room for every sprite. -/
theorem IsScreen.room {f : Frame} (h : f.IsScreen) (rows : Fin 16) :
    8 ≤ f.width ∧ rows.val ≤ f.height := by
  have := rows.isLt
  rw [h.width, h.height]
  unfold screenWidth screenHeight
  omega

end Frame

namespace Machine

/-- How often the sprite that an instruction draws covers cell `p`, by the
registers before it is drawn. -/
def coverage (m : Machine) (x y : Index) (rows p : Nat) : Nat :=
  m.frame.coverage m.memory m.registers.i.toNat rows (m.registers.value x) (m.registers.value y) p

/-- What drawing makes of a machine. -/
structure Drawn (m : Machine) (x y : Index) (rows : Nat) (after : Machine) : Prop where
  lit : ∀ p, after.frame.lit p = (m.frame.lit p ^^ decide (Odd (m.coverage x y rows p)))
  size : after.frame.cells.size = m.frame.cells.size
  /-- A cell was hit that was lit, or that the sprite covers twice. -/
  flag_eq_one : after.registers.flag = 1 ↔
    ∃ p, 1 ≤ m.coverage x y rows p ∧ (m.frame.lit p = true ∨ 2 ≤ m.coverage x y rows p)
  flag_eq_zero : after.registers.flag = 0 ↔ after.registers.flag ≠ 1
  /-- Nothing changes but the cells and the flag. -/
  rest : after = { m with
    frame := { m.frame with cells := after.frame.cells }
    registers := m.registers.set Registers.flagIndex after.registers.flag }

variable {m : Machine} {x y : Index} {rows : Nat}

/-- A sprite inside the memory is drawn. -/
theorem draw_of_inside (grid : m.frame.IsGrid) (h₀ : 0 ≤ m.registers.i)
    (h : m.registers.i + rows ≤ m.memory.size) :
    m.draw x y rows =
      let flipped := m.frame.flip (m.frame.targets (m.registers.value x) (m.registers.value y)
        (m.memory.slice m.registers.i.toNat rows))
      .ok { m with frame := flipped.1, registers := m.registers.setFlag flipped.2 } := by
  have hwidth := grid.width_pos
  have hheight := grid.height_pos
  unfold draw
  rw [Memory.checked_eq_ok h₀ h]
  simp only
  rw [if_neg (by omega)]

/-- **Drawing inverts what the sprite covers an odd number of times.** -/
theorem exists_drawn (grid : m.frame.IsGrid) (h₀ : 0 ≤ m.registers.i)
    (h : m.registers.i + rows ≤ m.memory.size) :
    ∃ after, m.draw x y rows = .ok after ∧ m.Drawn x y rows after := by
  set cells := m.frame.targets (m.registers.value x) (m.registers.value y)
    (m.memory.slice m.registers.i.toNat rows) with hcells
  have inside : ∀ p ∈ cells, p < m.frame.cells.size := grid.targets_lt _ _ _
  have hcount : ∀ p, cells.count p = m.coverage x y rows p := Frame.count_targets grid _ _ _ _ _
  have hflag : ∀ hit, (m.registers.setFlag hit).flag = if hit then 1 else 0 :=
    fun hit => Registers.get_set_self _ _ _
  refine ⟨_, draw_of_inside grid h₀ h, ?_, ?_, ?_, ?_, ?_⟩
  · intro p
    rw [← hcells, Frame.lit_flip inside, hcount]
  · exact Frame.size_flip _ _
  · simp only [← hcells, hflag, ← hcount]
    rw [← Frame.flip_hit_iff inside]
    cases (m.frame.flip cells).2 <;> simp
  · simp only [← hcells, hflag]
    cases (m.frame.flip cells).2 <;> simp
  · simp only [← hcells, hflag]
    rw [← Frame.flip_shape]
    rfl

/-- On a picture with room for the sprite, a lit cell is hit exactly if one
lies under the sprite. -/
theorem Drawn.flag_of_room {after : Machine} (drawn : m.Drawn x y rows after)
    (wide : 8 ≤ m.frame.width) (high : rows ≤ m.frame.height) :
    after.registers.flag = 1 ↔ ∃ p, m.coverage x y rows p = 1 ∧ m.frame.lit p = true := by
  have hone : ∀ p, m.coverage x y rows p ≤ 1 := fun p => Frame.coverage_le_one wide high
  rw [drawn.flag_eq_one]
  constructor
  · rintro ⟨p, hp, hlit | htwo⟩
    · exact ⟨p, le_antisymm (hone p) hp, hlit⟩
    · have := hone p
      omega
  · rintro ⟨p, hp, hlit⟩
    exact ⟨p, hp.ge, Or.inl hlit⟩

/-! ## The statement -/

/-- **Drawing is a wrapped exclusive or**, on a picture of any size. A sprite
that lies inside the memory is drawn: each cell changes if an odd number of
set bits falls on it, the flag tells whether a lit cell was hit, and nothing
else changes. On the screen no cell is covered twice. A sprite that leaves
the memory is refused, and nothing changes. -/
theorem draw_wrapped_xor {m : Machine} (grid : m.frame.IsGrid) (x y : Index) (rows : Fin 16) :
    (0 ≤ m.registers.i → m.registers.i + rows.val ≤ m.memory.size →
      ∃ after, m.draw x y rows = .ok after ∧ m.Drawn x y rows after ∧
        (m.frame.IsScreen →
          (∀ p, m.coverage x y rows p ≤ 1) ∧
          (after.registers.flag = 1 ↔
            ∃ p, m.coverage x y rows p = 1 ∧ m.frame.lit p = true))) ∧
    (m.registers.i < 0 ∨ m.memory.size < m.registers.i + rows.val →
      ∃ fault : Fault, fault.kind = "OutOfBoundsError" ∧
        fault.address? = some m.registers.i ∧ m.draw x y rows = .error ⟨fault, m⟩) := by
  constructor
  · intro h₀ h
    obtain ⟨after, hdraw, hdrawn⟩ := exists_drawn (x := x) (y := y) grid h₀ h
    refine ⟨after, hdraw, hdrawn, fun screen => ?_⟩
    obtain ⟨wide, high⟩ := screen.room rows
    exact ⟨fun p => Frame.coverage_le_one wide high, hdrawn.flag_of_room wide high⟩
  · intro h
    refine ⟨.accessOutOfBounds m.registers.i rows m.memory.size, rfl, rfl, ?_⟩
    unfold draw
    rw [Memory.checked_eq_error h]
    rfl

/-- Eight set bits on three dark cells, from the column that the flag register
names: two cells end up lit, and the flag is set because the sprite hits
itself. A sprite of two rows leaves the memory of one byte. -/
theorem draw_wrapped_xor_narrow_picture :
    ∃ m : Machine, m.frame = Frame.dark 3 1 ∧ m.registers.flag = 4 ∧
      (∃ after, m.draw 0xF 0xF 1 = .ok after ∧
        m.coverage 0xF 0xF 1 0 = 2 ∧ after.frame.lit 0 = false ∧
        m.coverage 0xF 0xF 1 1 = 3 ∧ after.frame.lit 1 = true ∧
        after.registers.flag = 1) ∧
      ∃ fault : Fault, fault.kind = "OutOfBoundsError" ∧ m.draw 0xF 0xF 2 = .error ⟨fault, m⟩ := by
  let m : Machine :=
    { registers := { v := (Vector.replicate 16 0).set 15 4 }
      memory := ⟨#[0xFF]⟩
      frame := Frame.dark 3 1 }
  have grid : m.frame.IsGrid := ⟨by decide, by decide, rfl, rfl⟩
  obtain ⟨after, hdraw, hdrawn, -⟩ :=
    (draw_wrapped_xor grid 0xF 0xF 1).1 (by decide) (by decide)
  obtain ⟨fault, hkind, -, hrefused⟩ :=
    (draw_wrapped_xor grid 0xF 0xF 2).2 (Or.inr (by decide))
  have htwo : m.coverage 0xF 0xF 1 0 = 2 := by decide
  have hthree : m.coverage 0xF 0xF 1 1 = 3 := by decide
  refine ⟨m, rfl, rfl, ⟨after, hdraw, htwo, ?_, hthree, ?_, ?_⟩, fault, hkind, hrefused⟩
  · rw [hdrawn.lit]
    decide
  · rw [hdrawn.lit]
    decide
  · exact hdrawn.flag_eq_one.mpr ⟨0, le_trans one_le_two htwo.ge, Or.inr htwo.ge⟩

end Machine

end Chip8
