/-
Chip8.Proofs.Machine.Range — the ranges in which a machine keeps its
registers, its stack and its sizes.

Most registers are whole numbers without a width, and the picture and the
memory are arrays of any size; what keeps them in range is what the
operations store. `Machine.InRange top` says that a machine is in range
with its program counter at most `top`. The bound is a parameter because
it moves while an instruction runs:

* a word can be fetched only up to `lastFetch`, so a call stores no
  greater address;
* an instruction leaves the program counter at most at `lastFetch + 2`: a
  skip adds 2, a return takes a stored address, a jump has twelve bits;
* moving past the instruction adds 2 once more.

Each operation is shown to keep the range, with the bound it needs and
the bound it leaves.
-/
import Chip8.Proofs.Machine.Operations

namespace Chip8

/-- The last address from which a word can be fetched. -/
def lastFetch : Nat := memorySize - instructionSize

/-- Registers in range, the program counter at most `top`. -/
structure Registers.InRange (top : Int) (r : Registers) : Prop where
  pc_nonneg : 0 ≤ r.pc
  pc_le : r.pc ≤ top
  i_nonneg : 0 ≤ r.i
  i_le : r.i ≤ 0xFFFF
  sp_ge : -1 ≤ r.sp
  sp_le : r.sp ≤ 15
  delay_nonneg : 0 ≤ r.delay
  delay_le : r.delay ≤ 255
  sound_nonneg : 0 ≤ r.sound
  sound_le : r.sound ≤ 255

/-- A picture as large as the screen. -/
structure Frame.IsScreen (f : Frame) : Prop where
  width : f.width = screenWidth
  height : f.height = screenHeight
  forwards : f.backwards = false
  size : f.cells.size = screenWidth * screenHeight

/-- A picture with a cell for each place of at least one column and one row. -/
structure Frame.IsGrid (f : Frame) : Prop where
  width_pos : 0 < f.width
  height_pos : 0 < f.height
  forwards : f.backwards = false
  size : f.cells.size = f.width * f.height

/-- A machine in range, its program counter at most `top`. -/
structure Machine.InRange (top : Int) (m : Machine) : Prop where
  registers : m.registers.InRange top
  memory : m.memory.size = memorySize
  stack : ∀ k : Index, (m.stack.get k).toNat ≤ lastFetch
  frame : m.frame.IsScreen

/-! ## Registers -/

namespace Registers

/-- Byte registers hold bytes. -/
theorem value_le (r : Registers) (x : Index) : r.value x ≤ 255 := by
  have := (r.get x).toNat_lt
  unfold value
  omega

namespace InRange

variable {r : Registers} {low top : Int}

theorem mono (h : r.InRange low) (hle : low ≤ top) : r.InRange top :=
  { h with pc_le := le_trans h.pc_le hle }

/-- Byte registers may change at will. -/
theorem withBytes (h : r.InRange top) (v : Vector Byte 16) : { r with v := v }.InRange top :=
  ⟨h.1, h.2, h.3, h.4, h.5, h.6, h.7, h.8, h.9, h.10⟩

theorem set (h : r.InRange top) (x : Index) (b : Byte) : (r.set x b).InRange top :=
  h.withBytes _

theorem setFrom (h : r.InRange top) (k : Nat) (bs : List Byte) : (r.setFrom k bs).InRange top := by
  induction bs generalizing r k with
  | nil => exact h
  | cons b rest ih =>
    unfold Registers.setFrom
    split
    · exact ih (h.set _ b) (k + 1)
    · exact ih h (k + 1)

theorem withPc (h : r.InRange low) {pc : Int} (h₀ : 0 ≤ pc) (hle : pc ≤ top) :
    { r with pc := pc }.InRange top :=
  ⟨h₀, hle, h.3, h.4, h.5, h.6, h.7, h.8, h.9, h.10⟩

theorem withSp (h : r.InRange top) {sp : Int} (hge : -1 ≤ sp) (hle : sp ≤ 15) :
    { r with sp := sp }.InRange top :=
  ⟨h.1, h.2, h.3, h.4, hge, hle, h.7, h.8, h.9, h.10⟩

theorem withIndex (h : r.InRange top) {i : Int} (h₀ : 0 ≤ i) (hle : i ≤ 0xFFFF) :
    { r with i := i }.InRange top :=
  ⟨h.1, h.2, h₀, hle, h.5, h.6, h.7, h.8, h.9, h.10⟩

theorem withDelay (h : r.InRange top) {n : Int} (h₀ : 0 ≤ n) (hle : n ≤ 255) :
    { r with delay := n }.InRange top :=
  ⟨h.1, h.2, h.3, h.4, h.5, h.6, h₀, hle, h.9, h.10⟩

theorem withSound (h : r.InRange top) {n : Int} (h₀ : 0 ≤ n) (hle : n ≤ 255) :
    { r with sound := n }.InRange top :=
  ⟨h.1, h.2, h.3, h.4, h.5, h.6, h.7, h.8, h₀, hle⟩

theorem skip (h : r.InRange top) : r.skip.InRange (top + 2) := by
  have h₀ := h.pc_nonneg
  have hle := h.pc_le
  exact h.withPc (by unfold instructionSize; omega) (by unfold instructionSize; omega)

theorem skipIf (h : r.InRange top) (b : Bool) : (r.skipIf b).InRange (top + 2) := by
  cases b with
  | false => exact h.mono (by omega)
  | true => exact h.skip

theorem setDelay (h : r.InRange top) (x : Index) : (r.setDelay x).InRange top := by
  have := r.value_le x
  exact h.withDelay (by omega) (by omega)

theorem setSound (h : r.InRange top) (x : Index) : (r.setSound x).InRange top := by
  have := r.value_le x
  exact h.withSound (by omega) (by omega)

theorem addIndex (h : r.InRange top) (x : Index) : (r.addIndex x).InRange top :=
  h.withIndex (by omega) (by omega)

end InRange

end Registers

/-! ## Pictures -/

namespace Frame

theorem isScreen_dark : (dark screenWidth screenHeight).IsScreen :=
  ⟨rfl, rfl, rfl, by simp [dark]⟩

theorem IsScreen.clear {f : Frame} (h : f.IsScreen) : f.clear.IsScreen :=
  ⟨h.width, h.height, h.forwards, by simpa [Frame.clear] using h.size⟩

theorem IsScreen.invert {f : Frame} (h : f.IsScreen) (p : Nat) : (f.invert p).IsScreen :=
  ⟨h.width, h.height, h.forwards, by rw [size_invert]; exact h.size⟩

theorem IsScreen.flip {f : Frame} (h : f.IsScreen) (cells : List Nat) :
    (f.flip cells).1.IsScreen := by
  induction cells generalizing f with
  | nil => exact h
  | cons p rest ih => exact ih (h.invert p)

theorem IsScreen.isGrid {f : Frame} (h : f.IsScreen) : f.IsGrid where
  width_pos := by rw [h.width]; decide
  height_pos := by rw [h.height]; decide
  forwards := h.forwards
  size := by rw [h.size, h.width, h.height]

theorem IsGrid.cellAt_eq {f : Frame} (h : f.IsGrid) (x y : Nat) :
    f.cellAt x y = y % f.height * f.width + x % f.width := by
  unfold cellAt
  rw [h.forwards]
  rfl

/-- Every place of a grid has a cell. -/
theorem IsGrid.cellAt_lt {f : Frame} (h : f.IsGrid) (x y : Nat) :
    f.cellAt x y < f.cells.size := by
  have hx : x % f.width < f.width := Nat.mod_lt _ h.width_pos
  have hy : y % f.height + 1 ≤ f.height := Nat.mod_lt _ h.height_pos
  have hrow : (y % f.height + 1) * f.width ≤ f.height * f.width := Nat.mul_le_mul_right _ hy
  rw [h.cellAt_eq, h.size, Nat.mul_comm f.width]
  rw [Nat.add_mul] at hrow
  omega

/-- A sprite falls on cells that exist, wherever it is placed. -/
theorem IsGrid.targets_lt {f : Frame} (h : f.IsGrid) (x y : Nat) (sprite : List Byte) :
    ∀ cell ∈ f.targets x y sprite, cell < f.cells.size := by
  induction sprite generalizing y with
  | nil => intro cell hcell; cases hcell
  | cons row rest ih =>
    intro cell hcell
    rcases List.mem_append.mp hcell with hrow | hrest
    · obtain ⟨column, -, rfl⟩ := List.mem_map.mp hrow
      exact h.cellAt_lt _ _
    · exact ih (y + 1) cell hrest

theorem IsScreen.targets_lt {f : Frame} (h : f.IsScreen) (x y : Nat) (sprite : List Byte) :
    ∀ cell ∈ f.targets x y sprite, cell < f.cells.size :=
  h.isGrid.targets_lt x y sprite

end Frame

/-! ## Machines -/

namespace Machine

/-- A fresh machine is in range. -/
theorem inRange_fresh : ({} : Machine).InRange lastFetch where
  registers := ⟨by decide, by decide, by decide, by decide, by decide, by decide, by decide,
    by decide, by decide, by decide⟩
  memory := by simp
  stack := by
    intro k
    have hzero : ({} : Machine).stack.get k = 0 := Vector.getElem_replicate k.isLt
    rw [hzero]
    exact Nat.zero_le _
  frame := Frame.isScreen_dark

namespace InRange

variable {m : Machine} {low top : Int}

theorem mono (h : m.InRange low) (hle : low ≤ top) : m.InRange top :=
  { h with registers := h.registers.mono hle }

theorem withRegisters (h : m.InRange low) {r : Registers} (hr : r.InRange top) :
    { m with registers := r }.InRange top :=
  ⟨hr, h.memory, h.stack, h.frame⟩

theorem withMemory (h : m.InRange top) {memory : Memory} (hsize : memory.size = m.memory.size) :
    { m with memory := memory }.InRange top :=
  ⟨h.registers, hsize.trans h.memory, h.stack, h.frame⟩

/-- Loading a program keeps the range. -/
theorem load (h : m.InRange top) (program : List Byte) : (m.load program).machine.InRange top := by
  unfold Machine.load
  split
  · exact h
  · exact h.withMemory (by simp)

/-- A fetched word lies at most at `lastFetch`. -/
theorem of_fetch (h : m.InRange top) {w : Word}
    (hw : m.memory.fetch m.registers.pc = .ok w) : m.InRange lastFetch := by
  obtain ⟨h₀, hle⟩ := Memory.bounds_of_fetch hw
  rw [h.memory] at hle
  have hpc : m.registers.pc ≤ lastFetch := by
    unfold memorySize at hle
    unfold lastFetch memorySize instructionSize
    omega
  exact { h with registers := { h.registers with pc_le := hpc } }

/-- A return leads to a stored address. -/
theorem ret (h : m.InRange top) (hle : (lastFetch : Int) ≤ top) : m.ret.machine.InRange top := by
  have hsp := h.registers.sp_ge
  have hsp' := h.registers.sp_le
  by_cases hempty : m.registers.sp ≤ -1
  · rw [ret_of_empty hempty]
    exact h
  · obtain ⟨k, hk⟩ := exists_slot (n := m.registers.sp) (by omega) (by omega)
    have hslot := h.stack k
    have hpc : (((m.stack.get k).toNat : Nat) : Int) ≤ top := by omega
    rw [ret_of_open hk]
    exact h.withRegisters ((h.registers.withPc (by omega) hpc).withSp (by omega) (by omega))

/-- A call stores an address from which a word was fetched. -/
theorem call (h : m.InRange lastFetch) {target : Nat} (ht : target < 4096)
    (htop : (4096 : Int) ≤ top) : (m.call target).machine.InRange top := by
  have hsp := h.registers.sp_ge
  have hpc := h.registers.pc_nonneg
  have hpc' := h.registers.pc_le
  have hlast : lastFetch = 4094 := rfl
  by_cases hfull : 15 ≤ m.registers.sp
  · rw [call_of_full hfull]
    exact h.mono (by omega)
  · obtain ⟨k, hk⟩ := exists_slot (n := m.registers.sp + 1) (by omega) (by omega)
    have ht₀ : (0 : Int) ≤ target := by omega
    have ht₁ : (target : Int) ≤ top := by omega
    rw [call_of_room hk hpc (by omega), Attempt.machine_ok]
    refine ⟨(h.registers.withPc ht₀ ht₁).withSp (by omega) (by omega), h.memory, ?_, h.frame⟩
    intro j
    rw [get_set_slot]
    split
    · rw [UInt16.toNat_ofNat_of_lt' (by unfold UInt16.size; omega)]
      omega
    · exact h.stack j

theorem skipPressed (h : m.InRange top) (x : Index) (keys : Keypad) :
    (m.skipPressed x keys).machine.InRange (top + 2) := by
  unfold Machine.skipPressed
  split
  · exact h.mono (by omega)
  · exact h.withRegisters (h.registers.skipIf _)

theorem skipReleased (h : m.InRange top) (x : Index) (keys : Keypad) :
    (m.skipReleased x keys).machine.InRange (top + 2) := by
  unfold Machine.skipReleased
  split
  · exact h.mono (by omega)
  · exact h.withRegisters (h.registers.skipIf _)

theorem getDelay (h : m.InRange top) (x : Index) : (m.getDelay x).machine.InRange top := by
  unfold Machine.getDelay
  split
  · exact h
  · exact h.withRegisters (h.registers.set _ _)

theorem glyph (h : m.InRange top) (x : Index) : (m.glyph x).InRange top := by
  refine h.withRegisters (h.registers.withIndex ?_ ?_) <;>
    (unfold Font.glyphAddress Font.glyphSize; omega)

theorem writeAtIndex (h : m.InRange top) (bs : List Byte) :
    (m.writeAtIndex bs).machine.InRange top := by
  unfold Machine.writeAtIndex
  split
  · exact h
  · exact h.withMemory (by simp)

theorem loadRegisters (h : m.InRange top) (x : Index) :
    (m.loadRegisters x).machine.InRange top := by
  unfold Machine.loadRegisters
  split
  · exact h
  · exact h.withRegisters (h.registers.setFrom _ _)

theorem draw (h : m.InRange top) (x y : Index) (rows : Nat) :
    (m.draw x y rows).machine.InRange top := by
  unfold Machine.draw
  split
  · exact h
  · split
    · exact h
    · exact ⟨h.registers.set _ _, h.memory, h.stack, h.frame.flip _⟩

end InRange

end Machine

end Chip8
