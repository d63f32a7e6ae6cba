/-
Chip8.Proofs.Machine.Transfer — transfers between registers and memory are
inverse to each other.

All transfers go to the memory at the index register, and all are refused by
one test of their byte count (`Machine.Inside`). What a transfer inside the
memory does is told cell by cell, with all that it leaves alone:

* `Wrote` — bytes lie in memory from the index register on, and no other cell
  and no register has changed. The decimal digits and the store are such.
* `Filled` — the registers up to one hold what lies in memory, and no later
  one and no cell has changed.

From these two it follows that a store and a load undo each other, and that
the digits read back are those of the number (`transfers_inverse`).
-/
import Chip8.Proofs.Machine.Loading
import Chip8.Proofs.Processor.Effects
import Chip8.Proofs.Processor.Substitution

namespace Chip8

/-! ## Cells and registers, one by one -/

theorem Registers.ext_get {r r' : Registers} (bytes : ∀ y, r.get y = r'.get y)
    (rest : r = { r' with v := r.v }) : r = r' := by
  have hv : r.v = r'.v := Vector.ext fun k hk => bytes ⟨k, hk⟩
  rw [rest, hv]

theorem Registers.getElem?_upTo (r : Registers) {x y : Index} (h : y ≤ x) :
    (r.upTo x)[y.val]? = some (r.get y) := by
  have hlt : y.val < x.val + 1 := Nat.lt_succ_of_le h
  simp [upTo, hlt, get_eq]

/-- What a register holds after bytes were stored from register `k` on. -/
theorem Registers.get_setFrom_of_inside (r : Registers) {k i : Nat} {y : Index} (bs : List Byte)
    (place : y.val = k + i) (h : i < bs.length) : (r.setFrom k bs).get y = bs[i] := by
  induction bs generalizing r k i with
  | nil => cases h
  | cons b rest ih =>
    have hk : k < 16 := by omega
    unfold setFrom
    rw [dif_pos hk]
    cases i with
    | zero =>
      -- the bytes that follow go to later registers
      obtain rfl : y = ⟨k, hk⟩ := Fin.ext place
      rw [get_setFrom_of_outside _ rest (Or.inl (Nat.lt_succ_self k)), get_set_self]
      rfl
    | succ i => exact ih _ (by omega) (Nat.lt_of_succ_lt_succ h)

theorem Memory.getElem_slice (m : Memory) {start count i : Nat}
    (h : i < (m.slice start count).length) : (m.slice start count)[i] = m.read (start + i) := by
  simp [slice]

@[simp] theorem Memory.length_slice (m : Memory) (start count : Nat) :
    (m.slice start count).length = count := by
  simp [slice]

namespace Machine

/-! ## What a transfer does -/

/-- Whether `count` bytes from the index register on are in memory. -/
def Inside (m : Machine) (count : Nat) : Prop :=
  0 ≤ m.registers.i ∧ m.registers.i + count ≤ m.memory.size

/-- The machine with other byte registers. -/
def withBytes (m : Machine) (v : Vector Byte 16) : Machine :=
  m.mapRegisters ({ · with v := v })

/-- A machine with bytes written at the index register. -/
structure Wrote (m : Machine) (bs : List Byte) (m' : Machine) : Prop where
  content : ∀ k (h : k < bs.length), m'.memory.read (m.registers.i.toNat + k) = bs[k]
  elsewhere : ∀ a, a < m.registers.i.toNat ∨ m.registers.i.toNat + bs.length ≤ a →
    m'.memory.read a = m.memory.read a
  size : m'.memory.size = m.memory.size
  rest : m' = { m with memory := m'.memory }

/-- A machine with V0 to Vx read from memory at the index register. -/
structure Filled (m : Machine) (x : Index) (m' : Machine) : Prop where
  content : ∀ y ≤ x, m'.registers.get y = m.memory.read (m.registers.i.toNat + y)
  later : ∀ y, x < y → m'.registers.get y = m.registers.get y
  rest : m' = m.withBytes m'.registers.v

variable {m m' : Machine} {x : Index} {bs : List Byte}

theorem outside?_eq_none_iff {count : Nat} : m.outside? count = none ↔ m.Inside count := by
  unfold outside? Inside
  split
  · simp only [reduceCtorEq, false_iff]
    omega
  · simp only [true_iff]
    omega

theorem outside?_of_not_inside {count : Nat} (outside : ¬m.Inside count) :
    m.outside? count = some (.accessOutOfBounds m.registers.i count m.memory.size) := by
  unfold outside?
  unfold Inside at outside
  rw [if_pos (by omega)]

/-- Bytes written inside the memory. -/
theorem wrote_writeAll (inside : m.Inside bs.length) :
    m.Wrote bs { m with memory := m.memory.writeAll m.registers.i.toNat bs } where
  content k h := Memory.read_writeAll_of_inside m.memory bs h (by unfold Inside at inside; omega)
  elsewhere a h := Memory.read_writeAll_of_outside m.memory bs h
  size := Memory.size_writeAll ..
  rest := rfl

theorem exists_store (inside : m.Inside (x.val + 1)) :
    ∃ m', m.store x = .ok m' ∧ m.Wrote (m.registers.upTo x) m' :=
  ⟨_, store_of_inside (outside?_eq_none_iff.mpr inside),
    wrote_writeAll (by rwa [length_upTo])⟩

theorem exists_digits (x : Index) (inside : m.Inside 3) :
    ∃ m', m.digits x = .ok m' ∧ m.Wrote (decimalDigits (m.registers.get x)) m' :=
  ⟨_, digits_of_inside x (outside?_eq_none_iff.mpr inside), wrote_writeAll inside⟩

theorem exists_loadRegisters (inside : m.Inside (x.val + 1)) :
    ∃ m', m.loadRegisters x = .ok m' ∧ m.Filled x m' := by
  refine ⟨_, loadRegisters_of_inside (outside?_eq_none_iff.mpr inside), ?_, ?_, ?_⟩
  · intro y hy
    have hlt : y.val < (m.memory.slice m.registers.i.toNat (x.val + 1)).length := by
      rw [Memory.length_slice]
      exact Nat.lt_succ_of_le hy
    exact (m.registers.get_setFrom_of_inside _ (Nat.zero_add _).symm hlt).trans
      (Memory.getElem_slice ..)
  · intro y hy
    refine m.registers.get_setFrom_of_outside _ (Or.inr ?_)
    rw [Memory.length_slice, Nat.zero_add]
    exact hy
  · exact congrArg (fun r => { m with registers := r }) (m.registers.setFrom_eq 0 _)

/-! ## One transfer after another -/

variable {m₁ m₂ : Machine}

theorem Wrote.registers_eq (wrote : m.Wrote bs m₁) : m₁.registers = m.registers := by
  rw [wrote.rest]

theorem Wrote.inside (wrote : m.Wrote bs m₁) {count : Nat} (inside : m.Inside count) :
    m₁.Inside count := by
  unfold Inside at *
  rw [wrote.size, wrote.registers_eq]
  exact inside

theorem Filled.index_eq (filled : m.Filled x m₁) : m₁.registers.i = m.registers.i := by
  rw [filled.rest]
  rfl

theorem Filled.memory_eq (filled : m.Filled x m₁) : m₁.memory = m.memory := by
  rw [filled.rest]
  rfl

theorem Filled.inside (filled : m.Filled x m₁) {count : Nat} (inside : m.Inside count) :
    m₁.Inside count := by
  unfold Inside at *
  rw [filled.index_eq, filled.memory_eq]
  exact inside

/-- A stored register is read back from its cell. -/
theorem Wrote.read_upTo (wrote : m.Wrote (m.registers.upTo x) m₁) {y : Index} (hy : y ≤ x) :
    m₁.memory.read (m.registers.i.toNat + y) = m.registers.get y := by
  obtain ⟨hlt, helem⟩ := List.getElem?_eq_some_iff.mp (m.registers.getElem?_upTo hy)
  exact (wrote.content y hlt).trans helem

/-- Registers that were stored are loaded again, whatever the registers held
in between. -/
theorem Filled.get_of_wrote {v : Vector Byte 16} (filled : (m₁.withBytes v).Filled x m₂)
    (wrote : m.Wrote (m.registers.upTo x) m₁) {y : Index} (hy : y ≤ x) :
    m₂.registers.get y = m.registers.get y := by
  have hindex : (m₁.withBytes v).registers.i = m.registers.i := by
    rw [← wrote.registers_eq]
    rfl
  rw [filled.content y hy, hindex]
  exact wrote.read_upTo hy

/-- Loading what was stored changes nothing. -/
theorem Filled.eq_of_wrote (filled : m₁.Filled x m₂) (wrote : m.Wrote (m.registers.upTo x) m₁) :
    m₂ = m₁ := by
  have hbytes : ∀ y, m₂.registers.get y = m₁.registers.get y := by
    intro y
    by_cases hy : y ≤ x
    · rw [filled.get_of_wrote (v := m₁.registers.v) wrote hy, wrote.registers_eq]
    · exact filled.later y (not_le.mp hy)
  have hregisters : m₂.registers = m₁.registers :=
    Registers.ext_get hbytes (congrArg Machine.registers filled.rest)
  rw [filled.rest, hregisters]
  rfl

/-- Storing what was loaded changes nothing. -/
theorem Wrote.eq_of_filled (wrote : m₁.Wrote (m₁.registers.upTo x) m₂) (filled : m.Filled x m₁) :
    m₂ = m₁ := by
  have hread : ∀ a, m₂.memory.read a = m₁.memory.read a := by
    intro a
    by_cases hinside : m₁.registers.i.toNat ≤ a ∧ a < m₁.registers.i.toNat + (x.val + 1)
    · obtain ⟨k, rfl⟩ := Nat.exists_eq_add_of_le hinside.1
      have hk : k ≤ x.val := by omega
      have hy : (⟨k, by omega⟩ : Index) ≤ x := hk
      rw [wrote.read_upTo hy, filled.content _ hy, filled.index_eq, filled.memory_eq]
    · exact wrote.elsewhere a (by rw [length_upTo]; omega)
  rw [wrote.rest, Memory.ext_read wrote.size hread]

/-- Digits that were written are read back as digits of the number. -/
theorem Filled.digits_of_wrote (filled : m₁.Filled 2 m₂)
    (wrote : m.Wrote (decimalDigits (m.registers.get x)) m₁) :
    m₂.registers.value 0 ≤ 9 ∧ m₂.registers.value 1 ≤ 9 ∧ m₂.registers.value 2 ≤ 9 ∧
      100 * m₂.registers.value 0 + 10 * m₂.registers.value 1 + m₂.registers.value 2 =
        m.registers.value x := by
  have hdigit : ∀ (y : Index) (hy : y.val < 3),
      m₂.registers.get y = (decimalDigits (m.registers.get x)).get ⟨y, hy⟩ := by
    intro y hy
    rw [filled.content y (Nat.le_of_lt_succ hy), wrote.registers_eq]
    exact wrote.content y.val hy
  have hle := m.registers.value_le x
  have hundreds : m₂.registers.value 0 = m.registers.value x / 100 % 256 :=
    (congrArg UInt8.toNat (hdigit 0 (by decide))).trans UInt8.toNat_ofNat'
  have tens : m₂.registers.value 1 = m.registers.value x / 10 % 10 % 256 :=
    (congrArg UInt8.toNat (hdigit 1 (by decide))).trans UInt8.toNat_ofNat'
  have ones : m₂.registers.value 2 = m.registers.value x % 10 % 256 :=
    (congrArg UInt8.toNat (hdigit 2 (by decide))).trans UInt8.toNat_ofNat'
  omega

/-! ## The statement -/

/-- **Transfers are inverse to each other**, whatever the registers hold and
however large the memory is. Inside the memory, a store followed by a load at
the same place changes nothing more than the store, a load followed by a store
nothing more than the load, and registers that were stored are restored by a
load whatever the registers held in between. The digits that are read back are
digits, and stand for the number. Outside the memory a transfer is refused for
its byte count, with the machine as it was. Words of family F stand for these
transfers. -/
theorem transfers_inverse (m : Machine) (x : Index) :
    (m.Inside (x.val + 1) →
      (∃ m₁, m.store x = .ok m₁ ∧ m.Wrote (m.registers.upTo x) m₁ ∧
        m₁.loadRegisters x = .ok m₁ ∧
        ∀ v, ∃ m₂, (m₁.withBytes v).loadRegisters x = .ok m₂ ∧
          (∀ y ≤ x, m₂.registers.get y = m.registers.get y) ∧
          (∀ y, x < y → m₂.registers.get y = v.get y) ∧
          m₂ = m₁.withBytes m₂.registers.v) ∧
      ∃ m₁, m.loadRegisters x = .ok m₁ ∧ m.Filled x m₁ ∧ m₁.store x = .ok m₁) ∧
    (m.Inside 3 → ∃ m₁ m₂, m.digits x = .ok m₁ ∧ m₁.loadRegisters 2 = .ok m₂ ∧
      m₂.registers.value 0 ≤ 9 ∧ m₂.registers.value 1 ≤ 9 ∧ m₂.registers.value 2 ≤ 9 ∧
      100 * m₂.registers.value 0 + 10 * m₂.registers.value 1 + m₂.registers.value 2 =
        m.registers.value x) ∧
    (¬m.Inside (x.val + 1) →
      m.store x = m.halt (.accessOutOfBounds m.registers.i (x.val + 1) m.memory.size) ∧
      m.loadRegisters x = m.halt (.accessOutOfBounds m.registers.i (x.val + 1) m.memory.size)) ∧
    (¬m.Inside 3 → m.digits x = m.halt (.accessOutOfBounds m.registers.i 3 m.memory.size)) ∧
    ∀ (p : Processor) (keys : Keypad) (w : Word), p.machine = m → w.x = x →
      (w.Extended 0x33 → p.execute keys w = p.settle (m.digits x) .advance) ∧
      (w.Extended 0x55 → p.execute keys w = p.settle (m.store x) .advance) ∧
      (w.Extended 0x65 → p.execute keys w = p.settle (m.loadRegisters x) .advance) := by
  refine ⟨fun inside => ⟨?_, ?_⟩, fun inside => ?_, fun outside => ?_, fun outside => ?_, ?_⟩
  · obtain ⟨m₁, hstore, wrote⟩ := exists_store inside
    obtain ⟨m₂, hload, filled⟩ := exists_loadRegisters (wrote.inside inside)
    obtain rfl := filled.eq_of_wrote wrote
    refine ⟨m₂, hstore, wrote, hload, fun v => ?_⟩
    obtain ⟨m₃, hload', filled'⟩ :=
      exists_loadRegisters (m := m₂.withBytes v) (wrote.inside inside)
    exact ⟨m₃, hload', fun y hy => filled'.get_of_wrote wrote hy, filled'.later, filled'.rest⟩
  · obtain ⟨m₁, hload, filled⟩ := exists_loadRegisters inside
    obtain ⟨m₂, hstore, wrote⟩ := exists_store (filled.inside inside)
    obtain rfl := wrote.eq_of_filled filled
    exact ⟨m₂, hload, filled, hstore⟩
  · obtain ⟨m₁, hdigits, wrote⟩ := exists_digits x inside
    obtain ⟨m₂, hload, filled⟩ := exists_loadRegisters (x := 2) (wrote.inside inside)
    exact ⟨m₁, m₂, hdigits, hload, filled.digits_of_wrote wrote⟩
  · have hout := outside?_of_not_inside outside
    exact ⟨store_of_outside hout, loadRegisters_of_outside hout⟩
  · exact digits_of_outside x (outside?_of_not_inside outside)
  · rintro p keys w rfl rfl
    refine ⟨fun hw => ?_, fun hw => ?_, fun hw => ?_⟩
    · exact Processor.execute_of_coded (i := .digits w.x) ⟨hw.1, hw.2, rfl⟩
    · exact Processor.execute_of_coded (i := .store w.x) ⟨hw.1, hw.2, rfl⟩
    · exact Processor.execute_of_coded (i := .load w.x) ⟨hw.1, hw.2, rfl⟩

/-- All sixteen registers can be stored in the last sixteen bytes of a memory
and loaded again; one byte further on they cannot be stored. -/
theorem transfers_inverse_end :
    ∃ m m' m₁ : Machine, m.registers.i = 4080 ∧ m'.registers.i = 4081 ∧
      m.store 0xF = .ok m₁ ∧ m₁.loadRegisters 0xF = .ok m₁ ∧
      m'.store 0xF = m'.halt (.accessOutOfBounds 4081 16 4096) := by
  let m (i : Int) : Machine := { registers := { i } }
  have hsize : ∀ i, (m i).memory.size = 4096 := by simp [m, memorySize]
  obtain ⟨hinside, -⟩ := transfers_inverse (m 4080) 0xF
  obtain ⟨-, -, houtside, -⟩ := transfers_inverse (m 4081) 0xF
  obtain ⟨⟨m₁, hstore, -, hload, -⟩, -⟩ := hinside ⟨by decide, by rw [hsize]; decide⟩
  have hrefused := (houtside fun h => absurd h.2 (by rw [hsize]; decide)).1
  rw [hsize] at hrefused
  exact ⟨m 4080, m 4081, m₁, rfl, rfl, hstore, hload, hrefused⟩

end Machine

end Chip8
