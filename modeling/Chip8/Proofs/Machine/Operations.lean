/-
Chip8.Proofs.Machine.Operations — what the operations of a machine that
can fail do, one statement for each way they can go.

* `ret_of_empty`, `ret_of_open`, `call_of_full`, `call_of_room` — the two
  operations on the call stack, for a stack pointer that names a slot.
* `checked_eq_ok` and `checked_eq_error` — the range test in front of
  every transfer.
* `keyDown_of_length`, `awaitKey_cases` — the keypad of sixteen keys
  answers every question that a byte register can ask.

An attempt leaves a machine whether it succeeds or not
(`Attempt.machine`).
-/
import Mathlib.Tactic
import Chip8.Processor.Basic

namespace Chip8

/-- The machine an attempt leaves, whether it succeeded or not. -/
def Attempt.machine : Attempt → Machine
  | .ok m => m
  | .error halted => halted.machine

@[simp] theorem Attempt.machine_ok (m : Machine) : Attempt.machine (.ok m) = m := rfl

theorem eq_of_ofInt?_error {n : Int} {f : Fault} (h : Byte.ofInt? n = .error f) :
    f = .notAByte n := by
  unfold Byte.ofInt? at h
  split at h
  · cases h
  · injection h with h
    exact h.symm

namespace Memory

/-! ## Memory -/

theorem checked_eq_ok {m : Memory} {start : Int} {count : Nat}
    (h₀ : 0 ≤ start) (h : start + count ≤ m.size) : m.checked start count = .ok start.toNat := by
  unfold checked
  rw [if_neg (by omega)]

theorem checked_eq_error {m : Memory} {start : Int} {count : Nat}
    (h : start < 0 ∨ m.size < start + count) :
    m.checked start count = .error (.accessOutOfBounds start count m.size) := by
  unfold checked
  rw [if_pos (by omega)]

/-- A transfer that passes the range test lies in the memory. -/
theorem bounds_of_checked {m : Memory} {start : Int} {count a : Nat}
    (h : m.checked start count = .ok a) :
    0 ≤ start ∧ start + count ≤ m.size ∧ a = start.toNat := by
  unfold checked at h
  split at h
  · cases h
  · injection h with h
    exact ⟨by omega, by omega, h.symm⟩

/-- A word is fetched from inside the memory. -/
theorem bounds_of_fetch {m : Memory} {pc : Int} {w : Word} (h : m.fetch pc = .ok w) :
    0 ≤ pc ∧ pc + 2 ≤ m.size := by
  unfold fetch instructionSize at h
  split at h
  · cases h
  · omega

/-- Inside the memory a fetch finds the word that lies there, high byte first. -/
theorem exists_fetch {m : Memory} {a : Nat} (h : a + 2 ≤ m.size) :
    ∃ w, m.fetch a = .ok w ∧ w.toNat = 256 * (m.read a).toNat + (m.read (a + 1)).toNat := by
  have hhigh := (m.read a).toNat_lt
  have hlow := (m.read (a + 1)).toNat_lt
  refine ⟨UInt16.ofNat ((m.read a).toNat * 256 + (m.read (a + 1)).toNat), ?_, ?_⟩
  · unfold fetch instructionSize
    rw [if_neg (by omega)]
    rfl
  · rw [UInt16.toNat_ofNat_of_lt' (by unfold UInt16.size; omega)]
    omega

theorem fetch_eq_error {m : Memory} {pc : Int} (h : m.size < pc + 2) :
    m.fetch pc = .error (.fetchOutOfBounds pc) := by
  unfold fetch instructionSize
  rw [if_pos (by omega)]

/-- A fetch fails in one way only. -/
theorem eq_of_fetch_error {m : Memory} {pc : Int} {f : Fault} (h : m.fetch pc = .error f) :
    f = .fetchOutOfBounds pc := by
  unfold fetch at h
  split at h
  · injection h with h
    exact h.symm
  · cases h

end Memory

theorem Index.ofInt?_val (k : Index) : Index.ofInt? (k.val : Int) = some k := by
  have hk := k.isLt
  have hin : (0 : Int) ≤ k.val ∧ (k.val : Int) < 16 := by omega
  unfold Index.ofInt?
  rw [dif_pos hin]
  simp

namespace Machine

/-! ## The call stack -/

/-- What is found in a slot after one was written. -/
theorem get_set_slot (stack : Vector Word 16) (k j : Index) (w : Word) :
    (stack.set k.val w (Index.lt k)).get j = if j = k then w else stack.get j := by
  show (stack.set k.val w (Index.lt k))[j.val] = _
  rw [Vector.getElem_set]
  by_cases h : j = k
  · rw [if_pos (by rw [h]), if_pos h]
  · rw [if_neg fun e => h (Fin.ext e.symm), if_neg h]
    rfl

theorem slotOf_index (k : Index) : slotOf (k.val : Int) = .ok k := by
  unfold slotOf
  rw [if_neg (by omega), Index.ofInt?_val]

/-- A slot number that is not negative stands for the slot of that number. -/
theorem val_of_slotOf {n : Int} {k : Index} (h₀ : 0 ≤ n) (h : slotOf n = .ok k) :
    (k.val : Int) = n := by
  unfold slotOf Index.ofInt? at h
  rw [if_neg (by omega)] at h
  split_ifs at h with hin
  simp only [Except.ok.injEq] at h
  rw [← h]
  exact Int.toNat_of_nonneg h₀

theorem exists_slot {n : Int} (h₀ : 0 ≤ n) (h : n < 16) : ∃ k : Index, n = k.val :=
  ⟨⟨n.toNat, by omega⟩, by simp only; omega⟩

theorem eq_of_slotOf_error {slot : Int} {f : Fault} (h : slotOf slot = .error f) :
    f = .noSuchPlace slot stackDepth := by
  unfold slotOf at h
  split at h
  · cases h
  · injection h with h
    exact h.symm

theorem ret_of_empty {m : Machine} (h : m.registers.sp ≤ -1) :
    m.ret = m.halt (.stackUnderflow m.registers.pc) := by
  unfold ret
  exact if_pos h

/-- A return from an open call takes the topmost slot. -/
theorem ret_of_open {m : Machine} {k : Index} (h : m.registers.sp = k.val) :
    m.ret = .ok (m.mapRegisters fun r =>
      { r with pc := (m.stack.get k).toNat, sp := r.sp - 1 }) := by
  unfold ret
  simp only
  rw [if_neg (by omega), h, slotOf_index]

theorem call_of_full {m : Machine} {target : Nat} (h : 15 ≤ m.registers.sp) :
    m.call target = m.halt (.stackOverflow m.registers.pc) := by
  unfold call stackDepth
  exact if_pos (by omega)

/-- A call with a free slot puts its own address there. -/
theorem call_of_room {m : Machine} {target : Nat} {k : Index}
    (h : m.registers.sp + 1 = k.val) (h₀ : 0 ≤ m.registers.pc) (h₁ : m.registers.pc ≤ 0xFFFF) :
    m.call target = .ok { m with
      stack := m.stack.set k.val (UInt16.ofNat m.registers.pc.toNat) (Index.lt k)
      registers := { m.registers with sp := m.registers.sp + 1, pc := target } } := by
  have hk := k.isLt
  have hslot : slotOf (m.registers.sp + 1) = .ok k := by rw [h, slotOf_index]
  have hword : Word.ofInt? m.registers.pc = some (UInt16.ofNat m.registers.pc.toNat) :=
    if_pos ⟨h₀, h₁⟩
  unfold call stackDepth
  simp only
  rw [if_neg (by omega), hslot]
  simp only
  rw [hword]
  rfl

/-! ## The keypad -/

theorem keyDown_eq_ok_iff {m : Machine} {x : Index} {keys : Keypad} {down : Bool} :
    m.keyDown x keys = .ok down ↔ keys[m.registers.value x % 16]? = some down := by
  unfold keyDown
  cases keys[m.registers.value x % 16]? <;> simp

theorem keyDown_of_length {m : Machine} {keys : Keypad} (x : Index) (h : keys.length = 16) :
    ∃ down, m.keyDown x keys = .ok down := by
  have hx : m.registers.value x % 16 < keys.length := by omega
  exact ⟨_, keyDown_eq_ok_iff.mpr (List.getElem?_eq_getElem hx)⟩

theorem eq_of_keyDown_error {m : Machine} {x : Index} {keys : Keypad} {f : Fault}
    (h : m.keyDown x keys = .error f) : f = .noSuchKey := by
  unfold keyDown at h
  split at h
  · cases h
  · injection h with h
    exact h.symm

/-- The lowest key that is down is one of the keys. -/
theorem lowest_lt {keys : Keypad} {key : Nat} (h : keys.lowest? = some key) :
    key < keys.length := by
  unfold Keypad.lowest? at h
  rw [List.findIdx?_eq_some_iff_getElem] at h
  exact h.1

/-- Waiting for a key stores one, or changes nothing because none is down.
It fails only for a key whose number is no byte. -/
theorem awaitKey_cases (m : Machine) (x : Index) (keys : Keypad) :
    m.awaitKey x keys = .ok (m, false) ∨
      (∃ b, m.awaitKey x keys = .ok (m.mapRegisters (·.set x b), true)) ∨
      ∃ n, m.awaitKey x keys = .error ⟨.notAByte n, m⟩ ∧ 256 < keys.length := by
  unfold awaitKey
  cases hkey : keys.lowest? with
  | none => exact Or.inl rfl
  | some key =>
    have hlt := lowest_lt hkey
    by_cases hbyte : key < 256
    · have hok : Byte.ofInt? key = .ok (UInt8.ofNat key) := if_pos (by omega)
      refine Or.inr (Or.inl ⟨UInt8.ofNat key, ?_⟩)
      simp only
      rw [hok]
    · have herr : Byte.ofInt? key = .error (.notAByte key) := if_neg (by omega)
      refine Or.inr (Or.inr ⟨key, ?_, by omega⟩)
      simp only
      rw [herr]

end Machine

end Chip8
