/-
Chip8.Proofs.Machine.Stamping — sprites drawn one after the other.

A `Stamp` is a sprite in memory with the place where it is drawn. To stamp
it is to load the registers that the instruction names, and the index
register, and to draw. Every stamp inside the memory succeeds, and a list of
them inverts the cells of the first, then those of the second and so on
(`exists_stampAll`). Which cells these are depends on the memory and on the
shape of the picture, and not on what is lit; so the picture at the end
depends on how often each cell is inverted, and the order of the stamps is
lost in it.

A stamp drawn twice in one place hits, the second time, what it lit the
first time, and what it hits at one of the two times is what its set bits
fall on (`Twice.flags_zero_iff`).
-/
import Chip8.Proofs.Machine.Drawing

namespace Chip8

/-- A sprite and where to draw it: the registers that the instruction names,
and what they hold when it is drawn. One register holds one value. -/
structure Stamp where
  address : Nat
  rows : Fin 16
  x : Index
  y : Index
  column : Byte
  line : Byte
  same : x = y → column = line

namespace Stamp

/-- The sprite lies inside the memory. -/
def Inside (s : Stamp) (memory : Memory) : Prop := s.address + s.rows.val ≤ memory.size

/-- The cells that drawing inverts, on a picture of the shape of `f`. -/
def cells (s : Stamp) (f : Frame) (memory : Memory) : List Nat :=
  f.targets s.column.toNat s.line.toNat (memory.slice s.address s.rows)

/-- The cells that drawing one stamp after the other inverts. -/
def allCells (stamps : List Stamp) (f : Frame) (memory : Memory) : List Nat :=
  stamps.flatMap fun s => s.cells f memory

/-- How often the sprite covers a cell. -/
def coverage (s : Stamp) (f : Frame) (memory : Memory) (p : Nat) : Nat :=
  f.coverage memory s.address s.rows s.column.toNat s.line.toNat p

theorem allCells_flip (stamps : List Stamp) (f : Frame) (cells : List Nat) (memory : Memory) :
    allCells stamps (f.flip cells).1 memory = allCells stamps f memory := by
  unfold allCells Stamp.cells
  rw [Frame.flip_shape]
  simp only [Frame.targets_withCells]

theorem allCells_lt {f : Frame} (grid : f.IsGrid) (stamps : List Stamp) (memory : Memory) :
    ∀ p ∈ allCells stamps f memory, p < f.cells.size := by
  intro p hp
  obtain ⟨s, -, hcell⟩ := List.mem_flatMap.mp hp
  exact grid.targets_lt _ _ _ p hcell

/-- A sprite covers nothing exactly if its rows are blank. -/
theorem coverage_eq_zero_iff (s : Stamp) (f : Frame) (memory : Memory) :
    (∀ p, s.coverage f memory p = 0) ↔ ∀ row < s.rows.val, memory.read (s.address + row) = 0 := by
  unfold coverage Frame.coverage
  simp only [Finset.card_eq_zero, Finset.filter_eq_empty_iff, Finset.mem_product, Finset.mem_range]
  constructor
  · intro h row hrow
    by_contra hset
    have hne : (memory.read (s.address + row)).toNat ≠ 0 := fun hzero =>
      hset (UInt8.toNat_inj.mp hzero)
    obtain ⟨bit, hbit⟩ := Nat.exists_testBit_of_ne_zero hne
    have hlt : bit < 8 := by
      by_contra hge
      have hbyte := (memory.read (s.address + row)).toNat_lt
      have hpow : 2 ^ 8 ≤ 2 ^ bit := Nat.pow_le_pow_right (by decide) (by omega)
      rw [Nat.testBit_lt_two_pow (lt_of_lt_of_le hbyte hpow)] at hbit
      cases hbit
    have hplace : 7 - (7 - bit) = bit := by omega
    refine h _ (x := (row, 7 - bit)) ⟨hrow, by omega⟩ ⟨?_, rfl⟩
    simp only
    rwa [hplace]
  · rintro h p ⟨row, place⟩ ⟨hrow, -⟩ ⟨hset, -⟩
    simp only [h row hrow] at hset
    simp at hset

end Stamp

namespace Machine

/-- Load the registers for a stamp. -/
def aim (m : Machine) (s : Stamp) : Machine :=
  m.mapRegisters fun r => { (r.set s.x s.column).set s.y s.line with i := s.address }

def stamp (m : Machine) (s : Stamp) : Attempt := (m.aim s).draw s.x s.y s.rows

/-- Draw stamps one after the other. -/
def stampAll (m : Machine) (stamps : List Stamp) : Attempt := stamps.foldlM stamp m

variable {m : Machine} {s : Stamp}

/-! ## One stamp -/

theorem value_aim_x (m : Machine) (s : Stamp) :
    (m.aim s).registers.value s.x = s.column.toNat := by
  show (((m.registers.set s.x s.column).set s.y s.line).get s.x).toNat = _
  by_cases h : s.x = s.y
  · rw [← h, Registers.get_set_self, s.same h]
  · rw [Registers.get_set_of_ne _ _ (Ne.symm h), Registers.get_set_self]

theorem value_aim_y (m : Machine) (s : Stamp) :
    (m.aim s).registers.value s.y = s.line.toNat := by
  show (((m.registers.set s.x s.column).set s.y s.line).get s.y).toNat = _
  rw [Registers.get_set_self]

theorem coverage_aim (m : Machine) (s : Stamp) (p : Nat) :
    (m.aim s).coverage s.x s.y s.rows p = s.coverage m.frame m.memory p := by
  unfold coverage Stamp.coverage
  rw [value_aim_x, value_aim_y]
  rfl

/-- A stamp inside the memory is drawn. -/
theorem exists_stamp (grid : m.frame.IsGrid) (inside : s.Inside m.memory) :
    ∃ after, m.stamp s = .ok after ∧ (m.aim s).Drawn s.x s.y s.rows after ∧
      after.memory = m.memory ∧
      after.frame = (m.frame.flip (s.cells m.frame m.memory)).1 := by
  have hinside : ((s.address : Nat) : Int) + s.rows.val ≤ m.memory.size := by
    unfold Stamp.Inside at inside
    exact_mod_cast inside
  obtain ⟨after, hdraw, hdrawn⟩ := exists_drawn (m := m.aim s) (x := s.x) (y := s.y)
    grid (Int.natCast_nonneg s.address) hinside
  refine ⟨after, hdraw, hdrawn, ?_, ?_⟩
  · rw [hdrawn.rest]
    rfl
  · have hflip := draw_of_inside (m := m.aim s) (x := s.x) (y := s.y)
      grid (Int.natCast_nonneg s.address) hinside
    rw [hdraw] at hflip
    have hafter := Except.ok.inj hflip
    rw [hafter, value_aim_x, value_aim_y]
    rfl

/-! ## Many stamps -/

/-- **Stamps inside the memory are all drawn**, and invert the cells of one
after the other. -/
theorem exists_stampAll (grid : m.frame.IsGrid) {stamps : List Stamp}
    (inside : ∀ s ∈ stamps, s.Inside m.memory) :
    ∃ after, m.stampAll stamps = .ok after ∧ after.memory = m.memory ∧
      after.frame = (m.frame.flip (Stamp.allCells stamps m.frame m.memory)).1 := by
  induction stamps generalizing m with
  | nil => exact ⟨m, rfl, rfl, rfl⟩
  | cons s rest ih =>
    obtain ⟨hs, hrest⟩ := List.forall_mem_cons.mp inside
    obtain ⟨first, hstamp, -, hmemory, hframe⟩ := exists_stamp grid hs
    have hgrid : first.frame.IsGrid := by
      rw [hframe]
      exact grid.flip _
    obtain ⟨after, hall, hmemory', hframe'⟩ := ih hgrid (by rwa [hmemory])
    refine ⟨after, ?_, hmemory'.trans hmemory, ?_⟩
    · unfold stampAll at hall ⊢
      rw [List.foldlM_cons, hstamp]
      exact hall
    · have hsplit : Stamp.allCells (s :: rest) m.frame m.memory =
          s.cells m.frame m.memory ++ Stamp.allCells rest m.frame m.memory := List.flatMap_cons
      rw [hframe', hmemory, hframe, Stamp.allCells_flip, hsplit, Frame.flip_append]

/-- The order of stamps does not show in the picture, and once more in any
order they leave it as it was. -/
theorem exists_stampAll_perm (grid : m.frame.IsGrid) {stamps others : List Stamp}
    (perm : stamps.Perm others) (inside : ∀ s ∈ stamps, s.Inside m.memory) :
    ∃ one other back, m.stampAll stamps = .ok one ∧ m.stampAll others = .ok other ∧
      one.stampAll others = .ok back ∧ one.frame = other.frame ∧ back.frame = m.frame := by
  have inside' : ∀ s ∈ others, s.Inside m.memory := fun s hs => inside s (perm.mem_iff.mpr hs)
  have hcells := Stamp.allCells_lt grid stamps m.memory
  have hperm : (Stamp.allCells stamps m.frame m.memory).Perm
      (Stamp.allCells others m.frame m.memory) := perm.flatMap_right _
  obtain ⟨one, hone, hmemory, hframe⟩ := exists_stampAll grid inside
  obtain ⟨other, hother, -, hframe'⟩ := exists_stampAll grid inside'
  have hgrid : one.frame.IsGrid := by
    rw [hframe]
    exact grid.flip _
  have hagain : ∀ s ∈ others, s.Inside one.memory := by rwa [hmemory]
  obtain ⟨back, hback, -, hrestored⟩ := exists_stampAll hgrid hagain
  refine ⟨one, other, back, hone, hother, hback, ?_, ?_⟩
  · rw [hframe, hframe', Frame.flip_eq_of_perm hcells hperm]
  · rw [hrestored, hmemory, hframe, Stamp.allCells_flip, ← Frame.flip_append,
      Frame.flip_append_of_perm hcells hperm]

/-! ## One stamp twice -/

/-- What drawing one stamp twice does to the cells and to the flag, on a
picture with room for it. -/
structure Twice (m : Machine) (s : Stamp) (first second : Machine) : Prop where
  covered : ∀ p, s.coverage m.frame m.memory p ≤ 1
  lit : ∀ p, first.frame.lit p = (m.frame.lit p ^^ decide (Odd (s.coverage m.frame m.memory p)))
  flag_zero : first.registers.flag = 0 ↔ first.registers.flag ≠ 1
  flag_zero' : second.registers.flag = 0 ↔ second.registers.flag ≠ 1
  flag_one : first.registers.flag = 1 ↔
    ∃ p, s.coverage m.frame m.memory p = 1 ∧ m.frame.lit p = true
  flag_one' : second.registers.flag = 1 ↔
    ∃ p, s.coverage m.frame m.memory p = 1 ∧ first.frame.lit p = true

theorem exists_twice (grid : m.frame.IsGrid) (wide : 8 ≤ m.frame.width)
    (high : s.rows.val ≤ m.frame.height) (inside : s.Inside m.memory) :
    ∃ first second, m.stamp s = .ok first ∧ first.stamp s = .ok second ∧
      m.Twice s first second := by
  obtain ⟨first, hfirst, hdrawn, hmemory, hframe⟩ := exists_stamp grid inside
  have hgrid : first.frame.IsGrid := by
    rw [hframe]
    exact grid.flip _
  have hshape : first.frame = { m.frame with cells := first.frame.cells } :=
    congrArg Machine.frame hdrawn.rest
  obtain ⟨second, hsecond, hdrawn', -, -⟩ := exists_stamp hgrid (s := s) (by rwa [hmemory])
  have hcoverage : ∀ p, s.coverage first.frame first.memory p = s.coverage m.frame m.memory p := by
    intro p
    rw [hmemory, hshape]
    rfl
  have wide' : 8 ≤ (first.aim s).frame.width := by
    show 8 ≤ first.frame.width
    rwa [hshape]
  have high' : s.rows.val ≤ (first.aim s).frame.height := by
    show s.rows.val ≤ first.frame.height
    rwa [hshape]
  have hlit := hdrawn.lit
  have hflag := hdrawn.flag_of_room wide high
  have hflag' := hdrawn'.flag_of_room wide' high'
  simp only [coverage_aim, hcoverage] at hlit hflag hflag'
  exact ⟨first, second, hfirst, hsecond, fun p => Frame.coverage_le_one wide high, hlit,
    hdrawn.flag_eq_zero, hdrawn'.flag_eq_zero, hflag, hflag'⟩

namespace Twice

variable {first second : Machine}

/-- The second time hits what the first time lit. -/
theorem flag_one_iff (twice : m.Twice s first second) :
    second.registers.flag = 1 ↔ ∃ p, m.frame.lit p = false ∧ first.frame.lit p = true := by
  rw [twice.flag_one']
  constructor
  · rintro ⟨p, hp, hafter⟩
    have hlit := twice.lit p
    rw [hp, hafter] at hlit
    exact ⟨p, by simpa using hlit.symm, hafter⟩
  · rintro ⟨p, hbefore, hafter⟩
    have hlit := twice.lit p
    rw [hbefore, hafter, Bool.false_xor] at hlit
    have hodd := of_decide_eq_true hlit.symm
    exact ⟨p, le_antisymm (twice.covered p) hodd.pos, hafter⟩

/-- Neither time hits a lit cell exactly if there is nothing to draw: a set bit
falls on a cell that is lit at one of the two times. -/
theorem flags_zero_iff (twice : m.Twice s first second) :
    first.registers.flag = 0 ∧ second.registers.flag = 0 ↔
      ∀ row < s.rows.val, m.memory.read (s.address + row) = 0 := by
  rw [twice.flag_zero, twice.flag_zero', Ne, twice.flag_one, Ne, twice.flag_one',
    ← s.coverage_eq_zero_iff m.frame]
  constructor
  · rintro ⟨hnone, hnone'⟩ p
    by_contra hp
    have hcovered : s.coverage m.frame m.memory p = 1 := by
      have := twice.covered p
      omega
    cases hbefore : m.frame.lit p with
    | true => exact hnone ⟨p, hcovered, hbefore⟩
    | false =>
      refine hnone' ⟨p, hcovered, ?_⟩
      rw [twice.lit, hbefore, hcovered]
      rfl
  · intro hnone
    constructor <;>
    · rintro ⟨p, hp, -⟩
      rw [hnone p] at hp
      cases hp

end Twice

/-! ## The statement -/

/-- **Stamps commute and cancel.** On the screen, stamps that lie inside the
memory are all drawn, in every order with the same picture in the end, and
drawn once more in any order they leave the picture as it was. A stamp drawn
twice in one place hits a lit cell the second time exactly if it lit a dark
one the first time; it never hits one exactly if its rows are blank. -/
theorem stamps_commute_and_cancel {m : Machine} (screen : m.frame.IsScreen) :
    (∀ stamps others : List Stamp, stamps.Perm others → (∀ s ∈ stamps, s.Inside m.memory) →
      ∃ one other back, m.stampAll stamps = .ok one ∧ m.stampAll others = .ok other ∧
        one.stampAll others = .ok back ∧ one.frame = other.frame ∧ back.frame = m.frame) ∧
    ∀ s : Stamp, s.Inside m.memory →
      ∃ first second, m.stamp s = .ok first ∧ first.stamp s = .ok second ∧
        (second.registers.flag = 1 ↔
          ∃ p, m.frame.lit p = false ∧ first.frame.lit p = true) ∧
        (first.registers.flag = 0 ∧ second.registers.flag = 0 ↔
          ∀ row < s.rows.val, m.memory.read (s.address + row) = 0) := by
  constructor
  · intro stamps others perm inside
    exact exists_stampAll_perm screen.isGrid perm inside
  · intro s inside
    obtain ⟨wide, high⟩ := screen.room s.rows
    obtain ⟨first, second, hfirst, hsecond, twice⟩ := exists_twice screen.isGrid wide high inside
    exact ⟨first, second, hfirst, hsecond, twice.flag_one_iff, twice.flags_zero_iff⟩

/-- A dot, and a stamp around the lower right corner with another dot on it.
The order decides the flag and not the picture. The first dot, drawn twice
where it is dark, hits a lit cell the second time. -/
theorem stamps_commute_and_cancel_around_corner :
    ∃ (m : Machine) (dot corner cover : Stamp), m.frame.IsScreen ∧
      (∃ done done' back, m.stampAll [dot, corner, cover] = .ok done ∧
        m.stampAll [corner, cover, dot] = .ok done' ∧ done.stampAll [corner, cover, dot] = .ok back ∧
        done.frame = done'.frame ∧ back.frame = m.frame ∧
        done.registers.flag = 1 ∧ done'.registers.flag = 0) ∧
      ∃ first second, m.stamp dot = .ok first ∧ first.stamp dot = .ok second ∧
        (second.registers.flag = 1 ↔ ∃ p, m.frame.lit p = false ∧ first.frame.lit p = true) ∧
        first.registers.flag = 0 ∧ second.registers.flag = 1 := by
  let m : Machine := { memory := ⟨#[0xC0, 0x80]⟩ }
  let dot : Stamp := ⟨1, 1, 0, 1, 8, 4, by decide⟩
  let corner : Stamp := ⟨0, 2, 0xF, 2, 63, 31, by decide⟩
  let cover : Stamp := ⟨1, 1, 3, 3, 63, 63, by decide⟩
  have screen : m.frame.IsScreen := Frame.isScreen_dark
  have inside : ∀ s ∈ [dot, corner, cover], s.Inside m.memory := by
    simp [Stamp.Inside, Memory.size, m, dot, corner, cover]
  have hrotated : [dot, corner, cover].Perm [corner, cover, dot] :=
    (List.perm_append_singleton dot [corner, cover]).symm
  obtain ⟨hmany, htwice⟩ := stamps_commute_and_cancel screen
  obtain ⟨done, done', back, hdone, hdone', hback, hsame, hrestored⟩ :=
    hmany [dot, corner, cover] [corner, cover, dot] hrotated inside
  obtain ⟨first, second, hfirst, hsecond, hhit, -⟩ := htwice dot (inside dot (by simp))
  have hflag : (m.stampAll [dot, corner, cover]).toOption.map (·.registers.flag) = some 1 := by
    decide +kernel
  have hflag' : (m.stampAll [corner, cover, dot]).toOption.map (·.registers.flag) = some 0 := by
    decide +kernel
  have hdot : (m.stamp dot).toOption.map (fun after =>
      (after.registers.flag, m.frame.lit 264, after.frame.lit 264)) = some (0, false, true) := by
    decide +kernel
  rw [hdone] at hflag
  rw [hdone'] at hflag'
  rw [hfirst] at hdot
  simp only [Except.toOption, Option.map_some, Option.some.injEq, Prod.mk.injEq]
    at hflag hflag' hdot
  obtain ⟨hmissed, hdark, hlit⟩ := hdot
  exact ⟨m, dot, corner, cover, screen,
    ⟨done, done', back, hdone, hdone', hback, hsame, hrestored, hflag, hflag'⟩,
    first, second, hfirst, hsecond, hhit, hmissed, hhit.mpr ⟨264, hdark, hlit⟩⟩

end Machine

end Chip8
