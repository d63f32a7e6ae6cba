/-
Chip8.Proofs.Processor.Arithmetic — what the words that compute leave in the
registers, whichever registers they name.

A word may name one register twice, and it may name the flag register. What
it leaves there depends on which of the result and the flag is written last:

* `Registers.Overwritten` — the result alone is written (7xkk, 8xy1 to 8xy3);
* `Registers.FlaggedLast` — the result and then the flag, which wins where
  both go to VF (8xy4, 8xy5, 8xy7);
* `Registers.FlaggedFirst` — the flag and then the result, which is computed
  from the flag where both go to VF (8xy6, 8xyE).

All three say of every other register that it is kept. `Word.Computes` gives
each word its case, with result and flag told from the values before, and
`execute_arithmetic` is the statement about the processor. That a sum can be
subtracted again, and that three exclusive ors exchange two registers, follows
from `Word.Computes` alone.
-/
import Chip8.Proofs.Processor.Effects

namespace Chip8

namespace Registers

/-! ## Ways of writing a result -/

/-- What the registers hold besides some of the byte registers is the same. -/
structure KeptBesides (changed : List Index) (r r' : Registers) : Prop where
  bytes : ∀ z, z ∉ changed → r'.get z = r.get z
  rest : r' = { r with v := r'.v }

/-- A byte register was overwritten with a result. -/
structure Overwritten (r r' : Registers) (x : Index) (result : Nat) : Prop where
  written : r'.value x = result
  kept : r.KeptBesides [x] r'

/-- A byte register was overwritten with a result, and then the flag register
with a flag. -/
structure FlaggedLast (r r' : Registers) (x : Index) (result : Int) (flag : Prop)
    [Decidable flag] : Prop where
  flagged : r'.value flagIndex = if flag then 1 else 0
  written : x ≠ flagIndex → r'.value x = result
  kept : r.KeptBesides [x, flagIndex] r'

/-- The flag register was overwritten with a flag, and then a byte register
with a result, or with the result for the flag if it is the flag register. -/
structure FlaggedFirst (r r' : Registers) (x : Index) (result flag aliased : Nat) : Prop where
  flagged : x ≠ flagIndex → r'.value flagIndex = flag
  written : x ≠ flagIndex → r'.value x = result
  aliased : x = flagIndex → r'.value x = aliased
  kept : r.KeptBesides [x, flagIndex] r'

variable (r : Registers) (x y : Index)

@[simp] theorem value_set_self (b : Byte) : (r.set x b).value x = b.toNat :=
  congrArg UInt8.toNat (r.get_set_self x b)

theorem value_set_of_ne {x y : Index} (b : Byte) (h : x ≠ y) :
    (r.set x b).value y = r.value y :=
  congrArg UInt8.toNat (r.get_set_of_ne b h)

theorem get_eq_of_value {r r' : Registers} {x y : Index} (h : r'.value x = r.value y) :
    r'.get x = r.get y :=
  UInt8.toNat_inj.mp h

theorem overwritten_set (b : Byte) : r.Overwritten (r.set x b) x b.toNat where
  written := r.value_set_self x b
  kept := ⟨fun z hz => r.get_set_of_ne b fun e => hz (by simp [e]), rfl⟩

/-- Two writes keep the registers that neither of them reaches. -/
theorem keptBesides_set_set {a b : Index} (first second : Byte) {changed : List Index}
    (ha : a ∈ changed) (hb : b ∈ changed) :
    r.KeptBesides changed ((r.set a first).set b second) where
  bytes z hz := by
    have hne : b ≠ z := fun e => hz (e ▸ hb)
    have hne' : a ≠ z := fun e => hz (e ▸ ha)
    rw [get_set_of_ne _ second hne, get_set_of_ne _ first hne']
  rest := rfl

theorem flaggedLast_setFlag (b : Byte) {result : Int} (flag : Prop) [Decidable flag]
    (value : b.toNat = result) :
    r.FlaggedLast ((r.set x b).setFlag flag) x result flag where
  flagged := by
    unfold setFlag
    rw [value_set_self]
    split <;> simp_all
  written h := by
    unfold setFlag
    rw [value_set_of_ne _ _ (Ne.symm h), value_set_self, value]
  kept := r.keptBesides_set_set _ _ (by simp) (by simp)

/-- The flag is written, and then the register is changed as it is by then. -/
theorem flaggedFirst_set (raised : Bool) (f : Nat → Nat) {result flag aliased : Nat}
    (hflag : raised.toNat = flag) (hresult : f (r.value x) % 256 = result)
    (haliased : f flag % 256 = aliased) :
    r.FlaggedFirst ((r.setFlag raised).set x (UInt8.ofNat (f ((r.setFlag raised).value x)))) x
      result flag aliased := by
  have hraised : (r.setFlag raised).value flagIndex = flag := by
    rw [setFlag, value_set_self, ← hflag]
    cases raised <;> rfl
  constructor
  case flagged =>
    intro h
    rw [value_set_of_ne _ _ h, hraised]
  case written =>
    intro h
    have hx : (r.setFlag raised).value x = r.value x := r.value_set_of_ne _ (Ne.symm h)
    rw [value_set_self, hx, UInt8.toNat_ofNat', ← hresult]
  case aliased =>
    rintro rfl
    rw [value_set_self, hraised, UInt8.toNat_ofNat', ← haliased]
  case kept => exact r.keptBesides_set_set _ _ (by simp) (by simp)

/-! ## The operations -/

theorem addByte_overwritten (k : Byte) :
    r.Overwritten (r.addByte x k) x ((r.value x + k.toNat) % 256) := by
  have h := r.overwritten_set x (r.get x + k)
  rwa [UInt8.toNat_add] at h

theorem or_overwritten : r.Overwritten (r.or x y) x (r.value x ||| r.value y) := by
  have h := r.overwritten_set x (r.get x ||| r.get y)
  rwa [UInt8.toNat_or] at h

theorem and_overwritten : r.Overwritten (r.and x y) x (r.value x &&& r.value y) := by
  have h := r.overwritten_set x (r.get x &&& r.get y)
  rwa [UInt8.toNat_and] at h

theorem xor_overwritten : r.Overwritten (r.xor x y) x (r.value x ^^^ r.value y) := by
  have h := r.overwritten_set x (r.get x ^^^ r.get y)
  rwa [UInt8.toNat_xor] at h

theorem add_flaggedLast :
    r.FlaggedLast (r.add x y) x ((r.value x + r.value y : Int) % 256)
      (r.value x + r.value y > 255) :=
  r.flaggedLast_setFlag x _ _ (by rw [UInt8.toNat_add, value, value]; omega)

/-- Flag and result together are the whole sum. -/
theorem carry_add (hx : x ≠ flagIndex) :
    256 * (r.add x y).value flagIndex + (r.add x y).value x = r.value x + r.value y := by
  have hsum := (r.add_flaggedLast x y).written hx
  have hflag := (r.add_flaggedLast x y).flagged
  have hle := r.value_le x
  have hle' := r.value_le y
  split at hflag <;> omega

theorem sub_flaggedLast :
    r.FlaggedLast (r.sub x y) x ((r.value x - r.value y : Int) % 256) (r.value x > r.value y) := by
  have hy := r.value_le y
  refine r.flaggedLast_setFlag x _ _ ?_
  rw [UInt8.toNat_sub]
  unfold value at *
  omega

theorem subFrom_flaggedLast :
    r.FlaggedLast (r.subFrom x y) x ((r.value y - r.value x : Int) % 256)
      (r.value y > r.value x) := by
  have hx := r.value_le x
  refine r.flaggedLast_setFlag x _ _ ?_
  rw [UInt8.toNat_sub]
  unfold value at *
  omega

theorem shiftRight_flaggedFirst :
    r.FlaggedFirst (r.shiftRight x) x (r.value x / 2) (r.value x % 2) 0 := by
  have hx := r.value_le x
  have hflag : (decide (r.value x % 2 = 1)).toNat = r.value x % 2 := by
    rcases Nat.mod_two_eq_zero_or_one (r.value x) with h | h <;> simp [h]
  exact r.flaggedFirst_set x _ (· / 2) hflag (Nat.mod_eq_of_lt (by omega)) (by omega)

theorem shiftLeft_flaggedFirst :
    r.FlaggedFirst (r.shiftLeft x) x (2 * r.value x % 256) (r.value x / 128)
      (2 * (r.value x / 128)) := by
  have hx := r.value_le x
  have hflag : (decide (r.value x / 128 = 1)).toNat = r.value x / 128 := by
    have htop : r.value x / 128 = 0 ∨ r.value x / 128 = 1 := by omega
    rcases htop with h | h <;> simp [h]
  exact r.flaggedFirst_set x _ (· * 2) hflag (by omega) (by omega)

end Registers

namespace Word

/-! ## The words -/

/-- The words that combine two registers, by their operation. -/
def Operates (w : Word) (operation : Nat) : Prop :=
  w.family.val = 0x8 ∧ w.nibble.val = operation

/-- The words that compute with byte registers. -/
def Arithmetic (w : Word) : Prop :=
  w.family.val = 0x7 ∨ ∃ operation ∈ [0x1, 0x2, 0x3, 0x4, 0x5, 0x6, 0x7, 0xE], w.Operates operation

/-- What a word leaves in the registers, told from what they held before. -/
structure Computes (w : Word) (r r' : Registers) : Prop where
  addByte : w.family.val = 0x7 → r.Overwritten r' w.x ((r.value w.x + w.byte.toNat) % 256)
  or : w.Operates 0x1 → r.Overwritten r' w.x (r.value w.x ||| r.value w.y)
  and : w.Operates 0x2 → r.Overwritten r' w.x (r.value w.x &&& r.value w.y)
  xor : w.Operates 0x3 → r.Overwritten r' w.x (r.value w.x ^^^ r.value w.y)
  add : w.Operates 0x4 →
    r.FlaggedLast r' w.x ((r.value w.x + r.value w.y) % 256) (r.value w.x + r.value w.y > 255)
  carry : w.Operates 0x4 → w.x ≠ Registers.flagIndex →
    256 * r'.value Registers.flagIndex + r'.value w.x = r.value w.x + r.value w.y
  sub : w.Operates 0x5 →
    r.FlaggedLast r' w.x ((r.value w.x - r.value w.y) % 256) (r.value w.x > r.value w.y)
  shiftRight : w.Operates 0x6 →
    r.FlaggedFirst r' w.x (r.value w.x / 2) (r.value w.x % 2) 0
  subFrom : w.Operates 0x7 →
    r.FlaggedLast r' w.x ((r.value w.y - r.value w.x) % 256) (r.value w.y > r.value w.x)
  shiftLeft : w.Operates 0xE →
    r.FlaggedFirst r' w.x (2 * r.value w.x % 256) (r.value w.x / 128) (2 * (r.value w.x / 128))

/-! ## What follows for words in a row -/

variable {w v : Word} {r r₁ r₂ r₃ : Registers}

/-- A sum is undone by subtracting what was added. -/
theorem Computes.get_of_add_sub (added : w.Computes r r₁) (subtracted : v.Computes r₁ r₂)
    (hw : w.Operates 0x4) (hv : v.Operates 0x5) (sameX : v.x = w.x) (sameY : v.y = w.y)
    (distinct : w.x ≠ w.y) (hx : w.x ≠ Registers.flagIndex) (hy : w.y ≠ Registers.flagIndex) :
    r₂.get w.x = r.get w.x := by
  have hsum := (added.add hw).written hx
  have haddend : r₁.value w.y = r.value w.y :=
    congrArg UInt8.toNat ((added.add hw).kept.bytes w.y (by simp [distinct.symm, hy]))
  have hdifference := (subtracted.sub hv).written (sameX ▸ hx)
  rw [sameX, sameY, haddend, hsum] at hdifference
  have hle := r.value_le w.x
  exact Registers.get_eq_of_value (by omega)

/-- Three exclusive ors exchange what two registers hold. -/
theorem Computes.exchange (first : w.Computes r r₁) (second : v.Computes r₁ r₂)
    (third : w.Computes r₂ r₃) (hw : w.Operates 0x3) (hv : v.Operates 0x3)
    (crossX : v.x = w.y) (crossY : v.y = w.x) (distinct : w.x ≠ w.y) :
    r₃.get w.x = r.get w.y ∧ r₃.get w.y = r.get w.x := by
  have hx : r₁.value w.x = r.value w.x ^^^ r.value w.y := (first.xor hw).written
  have hy : r₁.value w.y = r.value w.y :=
    congrArg UInt8.toNat ((first.xor hw).kept.bytes w.y (by simp [distinct.symm]))
  have hx₂ : r₂.value w.x = r.value w.x ^^^ r.value w.y := by
    rw [← hx]
    exact congrArg UInt8.toNat ((second.xor hv).kept.bytes w.x (by simp [crossX, distinct]))
  have hy₂ : r₂.value w.y = r.value w.x := by
    have h := (second.xor hv).written
    rwa [crossX, crossY, hx, hy, Nat.xor_comm, Nat.xor_assoc, Nat.xor_self, Nat.xor_zero] at h
  constructor
  · have h := (third.xor hw).written
    rw [hx₂, hy₂, Nat.xor_comm, ← Nat.xor_assoc, Nat.xor_self, Nat.zero_xor] at h
    exact Registers.get_eq_of_value h
  · rw [(third.xor hw).kept.bytes w.y (by simp [distinct.symm])]
    exact Registers.get_eq_of_value hy₂

end Word

namespace Processor

/-! ## The statement -/

/-- The registers after words that are executed one after the other. -/
def after (p : Processor) (keys : Keypad) (words : List Word) : Registers :=
  (words.foldl (fun q w => (q.execute keys w).processor) p).registers

variable {w : Word}

theorem computes_execute (p : Processor) (keys : Keypad) (w : Word) :
    w.Computes p.registers (p.execute keys w).processor.registers := by
  constructor
  case addByte =>
    intro hw
    rw [execute_of_coded (i := .addByte w.x w.byte) ⟨hw, rfl, rfl⟩]
    exact p.registers.addByte_overwritten w.x w.byte
  case or =>
    intro hw
    rw [execute_of_coded (i := .or w.x w.y) ⟨hw.1, hw.2, rfl, rfl⟩]
    exact p.registers.or_overwritten w.x w.y
  case and =>
    intro hw
    rw [execute_of_coded (i := .and w.x w.y) ⟨hw.1, hw.2, rfl, rfl⟩]
    exact p.registers.and_overwritten w.x w.y
  case xor =>
    intro hw
    rw [execute_of_coded (i := .xor w.x w.y) ⟨hw.1, hw.2, rfl, rfl⟩]
    exact p.registers.xor_overwritten w.x w.y
  case add =>
    intro hw
    rw [execute_of_coded (i := .add w.x w.y) ⟨hw.1, hw.2, rfl, rfl⟩]
    exact p.registers.add_flaggedLast w.x w.y
  case carry =>
    intro hw hx
    rw [execute_of_coded (i := .add w.x w.y) ⟨hw.1, hw.2, rfl, rfl⟩]
    exact p.registers.carry_add w.x w.y hx
  case sub =>
    intro hw
    rw [execute_of_coded (i := .sub w.x w.y) ⟨hw.1, hw.2, rfl, rfl⟩]
    exact p.registers.sub_flaggedLast w.x w.y
  case shiftRight =>
    intro hw
    rw [execute_of_coded (i := .shiftRight w.x) ⟨hw.1, hw.2, rfl⟩]
    exact p.registers.shiftRight_flaggedFirst w.x
  case subFrom =>
    intro hw
    rw [execute_of_coded (i := .subFrom w.x w.y) ⟨hw.1, hw.2, rfl, rfl⟩]
    exact p.registers.subFrom_flaggedLast w.x w.y
  case shiftLeft =>
    intro hw
    rw [execute_of_coded (i := .shiftLeft w.x) ⟨hw.1, hw.2, rfl⟩]
    exact p.registers.shiftLeft_flaggedFirst w.x

/-- A word that computes changes the registers and nothing else. -/
theorem execute_eq_put (p : Processor) (keys : Keypad) (arithmetic : w.Arithmetic) :
    p.execute keys w = p.put (p.execute keys w).processor.registers .advance := by
  have hperform : ∀ i : Instruction, i.Coded w →
      (∃ r', p.perform keys i = p.put r' .advance) →
      p.execute keys w = p.put (p.execute keys w).processor.registers .advance := by
    rintro i coded ⟨r', h⟩
    rw [execute_of_coded coded, h]
    rfl
  rcases arithmetic with family | ⟨operation, member, family, nibble⟩
  · exact hperform (.addByte w.x w.byte) ⟨family, rfl, rfl⟩ ⟨_, rfl⟩
  · simp only [List.mem_cons, List.not_mem_nil, or_false] at member
    rcases member with rfl | rfl | rfl | rfl | rfl | rfl | rfl | rfl
    · exact hperform (.or w.x w.y) ⟨family, nibble, rfl, rfl⟩ ⟨_, rfl⟩
    · exact hperform (.and w.x w.y) ⟨family, nibble, rfl, rfl⟩ ⟨_, rfl⟩
    · exact hperform (.xor w.x w.y) ⟨family, nibble, rfl, rfl⟩ ⟨_, rfl⟩
    · exact hperform (.add w.x w.y) ⟨family, nibble, rfl, rfl⟩ ⟨_, rfl⟩
    · exact hperform (.sub w.x w.y) ⟨family, nibble, rfl, rfl⟩ ⟨_, rfl⟩
    · exact hperform (.shiftRight w.x) ⟨family, nibble, rfl⟩ ⟨_, rfl⟩
    · exact hperform (.subFrom w.x w.y) ⟨family, nibble, rfl, rfl⟩ ⟨_, rfl⟩
    · exact hperform (.shiftLeft w.x) ⟨family, nibble, rfl⟩ ⟨_, rfl⟩

/-- Words for the same shift of the same register do the same. -/
theorem execute_eq_of_shifts (p : Processor) (keys : Keypad) {v : Word}
    (shifts : w.Operates 0x6 ∧ v.Operates 0x6 ∨ w.Operates 0xE ∧ v.Operates 0xE)
    (sameX : v.x = w.x) : p.execute keys v = p.execute keys w := by
  rcases shifts with ⟨hw, hv⟩ | ⟨hw, hv⟩
  · rw [execute_of_coded (i := .shiftRight w.x) ⟨hw.1, hw.2, rfl⟩,
      execute_of_coded (i := .shiftRight w.x) ⟨hv.1, hv.2, sameX.symm⟩]
  · rw [execute_of_coded (i := .shiftLeft w.x) ⟨hw.1, hw.2, rfl⟩,
      execute_of_coded (i := .shiftLeft w.x) ⟨hv.1, hv.2, sameX.symm⟩]

/-- **Arithmetic under every aliasing of registers.** Whatever the registers
hold and whichever of them a word names, a word that computes succeeds and
leaves in the registers what `Word.Computes` says. Nothing else is changed, and
no shift depends on the second register. An addition and then the subtraction
restore the first register where neither register is the flag and they are not
the same, and three exclusive ors, the second one crossed, exchange two
registers. -/
theorem execute_arithmetic (p : Processor) (keys : Keypad) (arithmetic : w.Arithmetic) :
    (∃ r', p.execute keys w = p.put r' .advance ∧ w.Computes p.registers r') ∧
    (∀ v : Word, w.Operates 0x6 ∧ v.Operates 0x6 ∨ w.Operates 0xE ∧ v.Operates 0xE →
      v.x = w.x → p.execute keys v = p.execute keys w) ∧
    (∀ v : Word, w.Operates 0x4 → v.Operates 0x5 → v.x = w.x → v.y = w.y →
      w.x ≠ w.y → w.x ≠ Registers.flagIndex → w.y ≠ Registers.flagIndex →
      (p.after keys [w, v]).get w.x = p.registers.get w.x) ∧
    (∀ v : Word, w.Operates 0x3 → v.Operates 0x3 → v.x = w.y → v.y = w.x → w.x ≠ w.y →
      (p.after keys [w, v, w]).get w.x = p.registers.get w.y ∧
      (p.after keys [w, v, w]).get w.y = p.registers.get w.x) := by
  refine ⟨⟨_, execute_eq_put p keys arithmetic, computes_execute p keys w⟩,
    fun v => execute_eq_of_shifts p keys, fun v => ?_, fun v => ?_⟩
  · exact (computes_execute p keys w).get_of_add_sub (computes_execute _ keys v)
  · exact (computes_execute p keys w).exchange (computes_execute _ keys v)
      (computes_execute _ keys w)

/-- Shifting VF right leaves 0 there, and shifting it left the doubled flag,
as here where VF holds 255. -/
theorem execute_arithmetic_flag :
    ∃ p : Processor, p.registers.value 0xF = 255 ∧
      (∃ r', p.execute [] 0x8F06 = p.put r' .advance ∧ r'.value 0xF = 0) ∧
      ∃ r', p.execute [] 0x8F0E = p.put r' .advance ∧ r'.value 0xF = 2 := by
  have right : (0x8F06 : Word).Arithmetic := Or.inr ⟨0x6, by decide, by decide, by decide⟩
  have left : (0x8F0E : Word).Arithmetic := Or.inr ⟨0xE, by decide, by decide, by decide⟩
  let p := (boot [] (RandomSource.cycle []) 1 (by decide)).mapRegisters (·.set 0xF 255)
  have hvalue : p.registers.value 0xF = 255 := by decide +kernel
  obtain ⟨⟨r, hput, hcomputes⟩, -⟩ := execute_arithmetic p [] right
  obtain ⟨⟨r', hput', hcomputes'⟩, -⟩ := execute_arithmetic p [] left
  refine ⟨p, hvalue, ⟨r, hput, ?_⟩, r', hput', ?_⟩
  · exact (hcomputes.shiftRight ⟨by decide, by decide⟩).aliased (by decide)
  · have h := (hcomputes'.shiftLeft ⟨by decide, by decide⟩).aliased (by decide)
    exact h.trans (congrArg (fun n => 2 * (n / 128)) hvalue)

end Processor

end Chip8
