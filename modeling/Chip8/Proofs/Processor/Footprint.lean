/-
Chip8.Proofs.Processor.Footprint — what each instruction may change, and
that it changes nothing else.

A machine is cut into parts (`Machine.Part`): a byte register, each of the
other registers, a memory cell, a stack slot, the picture.
`Instruction.touches` names the parts that an instruction may change on a
machine, and `perform_same` says that every other part is the same
afterwards, whether the instruction is done or fails. The table is the
place to look for who writes what: the sound register is touched by one
instruction, the stack pointer by two, a stack slot by one.

Moving past an instruction touches the program counter and nothing else.
-/
import Mathlib.Data.Set.Insert
import Chip8.Proofs.Processor.Perform

namespace Chip8

/-- A part of a machine. -/
inductive Machine.Part where
  | byte (x : Index)
  | index
  | pc
  | sp
  | delay
  | sound
  | memory (a : Nat)
  | slot (k : Index)
  | picture

/-- Whether two machines agree on a part. -/
def Machine.Part.Same (m m' : Machine) : Machine.Part → Prop
  | .byte x => m'.registers.get x = m.registers.get x
  | .index => m'.registers.i = m.registers.i
  | .pc => m'.registers.pc = m.registers.pc
  | .sp => m'.registers.sp = m.registers.sp
  | .delay => m'.registers.delay = m.registers.delay
  | .sound => m'.registers.sound = m.registers.sound
  | .memory a => m'.memory.read a = m.memory.read a
  | .slot k => m'.stack.get k = m.stack.get k
  | .picture => m'.frame = m.frame

/-- The memory cells of a transfer of `count` bytes at the index register. -/
def Machine.span (m : Machine) (count : Nat) : Set Machine.Part :=
  {q | ∃ a : Nat, q = .memory a ∧ m.registers.i ≤ a ∧ (a : Int) < m.registers.i + count}

/-- The parts that an instruction may change on a machine. -/
def Instruction.touches (m : Machine) : Instruction → Set Machine.Part
  | .clear => {.picture}
  | .ret => {.pc, .sp}
  | .call _ => {.pc, .sp} ∪ {q | ∃ k, Machine.slotOf (m.registers.sp + 1) = .ok k ∧ q = .slot k}
  | .jump _ | .jumpOffset _ => {.pc}
  | .skipEqByte .. | .skipNeByte .. | .skipEq .. | .skipNe .. => {.pc}
  | .skipPressed _ | .skipReleased _ => {.pc}
  | .setByte x _ | .addByte x _ | .copy x _ | .or x _ | .and x _ | .xor x _ => {.byte x}
  | .random x _ | .getDelay x | .awaitKey x => {.byte x}
  | .add x _ | .sub x _ | .subFrom x _ => {.byte x, .byte Registers.flagIndex}
  | .shiftRight x | .shiftLeft x => {.byte x, .byte Registers.flagIndex}
  | .setIndex _ | .addIndex _ | .glyph _ => {.index}
  | .draw .. => {.picture, .byte Registers.flagIndex}
  | .setDelay _ => {.delay}
  | .setSound _ => {.sound}
  | .digits _ => m.span 3
  | .store x => m.span (x.val + 1)
  | .load x => {q | ∃ y, y ≤ x ∧ q = .byte y}

/-! ## Reading around a write -/

/-- Writing leaves what lies before and after it alone. -/
theorem Memory.read_writeAll_of_outside (m : Memory) {start k : Nat} (bs : List Byte)
    (h : k < start ∨ start + bs.length ≤ k) : (m.writeAll start bs).read k = m.read k := by
  induction bs generalizing m start with
  | nil => rfl
  | cons b rest ih =>
    rw [List.length_cons] at h
    have hne : k ≠ start := by omega
    rw [writeAll, ih (m.write start b) (by omega), read_write, if_neg fun e => hne e.1]

/-- Storing from register `k` on leaves the registers before and after it
alone. -/
theorem Registers.get_setFrom_of_outside (r : Registers) {k : Nat} {y : Index} (bs : List Byte)
    (h : y.val < k ∨ k + bs.length ≤ y.val) : (r.setFrom k bs).get y = r.get y := by
  induction bs generalizing r k with
  | nil => rfl
  | cons b rest ih =>
    rw [List.length_cons] at h
    unfold setFrom
    rw [ih _ (by omega)]
    split
    · refine get_set_of_ne r b fun e => ?_
      rw [← e] at h
      simp only at h
      omega
    · rfl

/-- Storing bytes reaches the byte registers only. -/
theorem Registers.setFrom_eq (r : Registers) (k : Nat) (bs : List Byte) :
    r.setFrom k bs = { r with v := (r.setFrom k bs).v } := by
  induction bs generalizing r k with
  | nil => rfl
  | cons b rest ih =>
    unfold setFrom
    rw [ih]
    split <;> rfl

namespace Machine.Part

variable {q : Machine.Part} {m : Machine}

/-! ## Single changes -/

theorem same_refl (q : Machine.Part) (m : Machine) : q.Same m m := by
  cases q <;> rfl

theorem Same.trans {m' m'' : Machine} (h : q.Same m m') (h' : q.Same m' m'') : q.Same m m'' := by
  cases q <;> exact Eq.trans h' h

theorem same_set {x : Index} (b : Byte) (h : q ≠ .byte x) :
    q.Same m (m.mapRegisters (·.set x b)) := by
  cases q with
  | byte y => exact Registers.get_set_of_ne _ b fun e => h (by rw [e])
  | _ => rfl

theorem same_set_set {x y : Index} (b c : Registers → Byte) (hx : q ≠ .byte x) (hy : q ≠ .byte y) :
    q.Same m (m.mapRegisters fun r => (r.set x (b r)).set y (c r)) := by
  cases q with
  | byte z =>
    have hzx : x ≠ z := fun e => hx (by rw [e])
    have hzy : y ≠ z := fun e => hy (by rw [e])
    exact (Registers.get_set_of_ne _ _ hzy).trans (Registers.get_set_of_ne _ _ hzx)
  | _ => rfl

theorem same_pc (n : Int) (h : q ≠ .pc) :
    q.Same m (m.mapRegisters fun r => { r with pc := n }) := by
  cases q with
  | pc => exact absurd rfl h
  | _ => rfl

theorem same_skipIf (b : Bool) (h : q ≠ .pc) : q.Same m (m.mapRegisters (·.skipIf b)) := by
  cases b with
  | false => exact same_refl q m
  | true => exact same_pc _ h

theorem same_index (n : Int) (h : q ≠ .index) :
    q.Same m (m.mapRegisters fun r => { r with i := n }) := by
  cases q with
  | index => exact absurd rfl h
  | _ => rfl

theorem same_delay (n : Int) (h : q ≠ .delay) :
    q.Same m (m.mapRegisters fun r => { r with delay := n }) := by
  cases q with
  | delay => exact absurd rfl h
  | _ => rfl

theorem same_sound (n : Int) (h : q ≠ .sound) :
    q.Same m (m.mapRegisters fun r => { r with sound := n }) := by
  cases q with
  | sound => exact absurd rfl h
  | _ => rfl

theorem same_picture (f : Frame) (h : q ≠ .picture) : q.Same m { m with frame := f } := by
  cases q with
  | picture => exact absurd rfl h
  | _ => rfl

theorem same_setFrom {k : Nat} {bs : List Byte}
    (h : ∀ y : Index, k ≤ y.val → y.val < k + bs.length → q ≠ .byte y) :
    q.Same m (m.mapRegisters (·.setFrom k bs)) := by
  cases q with
  | byte y =>
    refine Registers.get_setFrom_of_outside m.registers bs ?_
    by_contra hin
    exact h y (by omega) (by omega) rfl
  | memory | slot | picture => rfl
  | _ =>
    unfold Same mapRegisters
    simp only
    rw [Registers.setFrom_eq]

/-! ## Operations that can fail -/

theorem same_writeAtIndex {bs : List Byte} (h : q ∉ m.span bs.length) :
    q.Same m (m.writeAtIndex bs).machine := by
  unfold writeAtIndex
  cases hcheck : m.memory.checked m.registers.i bs.length with
  | error f => exact same_refl q m
  | ok a =>
    obtain ⟨h₀, -, ha⟩ := Memory.bounds_of_checked hcheck
    cases q with
    | memory k =>
      refine Memory.read_writeAll_of_outside m.memory bs ?_
      by_contra hin
      exact h ⟨k, rfl, by omega, by omega⟩
    | _ => rfl

theorem same_loadRegisters {x : Index} (h : ∀ y, y ≤ x → q ≠ .byte y) :
    q.Same m (m.loadRegisters x).machine := by
  unfold loadRegisters
  cases m.memory.checked m.registers.i (x.val + 1) with
  | error f => exact same_refl q m
  | ok a =>
    have hlen : (m.memory.slice a (x.val + 1)).length = x.val + 1 := by
      unfold Memory.slice
      rw [List.length_map, List.length_range]
    refine same_setFrom fun y _ hy => h y ?_
    rw [Fin.le_def]
    omega

theorem same_ret (hpc : q ≠ .pc) (hsp : q ≠ .sp) : q.Same m m.ret.machine := by
  unfold ret
  simp only
  split
  · exact same_refl q m
  · split
    · exact same_refl q m
    · cases q with
      | pc => exact absurd rfl hpc
      | sp => exact absurd rfl hsp
      | _ => rfl

theorem same_call {target : Nat} (hpc : q ≠ .pc) (hsp : q ≠ .sp)
    (hslot : ∀ k, slotOf (m.registers.sp + 1) = .ok k → q ≠ .slot k) :
    q.Same m (m.call target).machine := by
  have hopened : q.Same m (m.mapRegisters fun r => { r with sp := r.sp + 1 }) := by
    cases q with
    | sp => exact absurd rfl hsp
    | _ => rfl
  unfold call
  simp only
  split
  · exact same_refl q m
  · cases hk : slotOf (m.registers.sp + 1) with
    | error f => exact hopened
    | ok k =>
      cases Word.ofInt? m.registers.pc with
      | none => exact hopened
      | some w =>
        cases q with
        | pc => exact absurd rfl hpc
        | sp => exact absurd rfl hsp
        | slot j =>
          refine (get_set_slot m.stack k j w).trans (if_neg fun e => ?_)
          exact hslot k hk (by rw [e])
        | _ => rfl

theorem same_draw {x y : Index} {rows : Nat} (hpicture : q ≠ .picture)
    (hflag : q ≠ .byte Registers.flagIndex) : q.Same m (m.draw x y rows).machine := by
  unfold draw
  split
  · exact same_refl q m
  · split
    · exact same_refl q m
    · cases q with
      | picture => exact absurd rfl hpicture
      | byte z => exact Registers.get_set_of_ne _ _ fun e => hflag (by rw [e])
      | _ => rfl

end Machine.Part

namespace Processor

open Machine.Part

/-- **An instruction changes what it touches and nothing else.** -/
theorem perform_same {p : Processor} {keys : Keypad} {i : Instruction} {q : Machine.Part}
    (h : q ∉ i.touches p.machine) : q.Same p.machine (p.perform keys i).processor.machine := by
  cases i with
  | clear => exact same_picture _ h
  | ret =>
    rw [perform, settle_processor]
    exact same_ret (fun e => h (Or.inl e)) fun e => h (Or.inr e)
  | call target =>
    rw [perform, settle_processor]
    refine same_call (fun e => h (Or.inl (Or.inl e))) (fun e => h (Or.inl (Or.inr e))) ?_
    exact fun k hk e => h (Or.inr ⟨k, hk, e⟩)
  | jump | jumpOffset => exact same_pc _ h
  | skipEqByte | skipNeByte | skipEq | skipNe => exact same_skipIf _ h
  | skipPressed x =>
    simp only [perform, Executed.afterKeypad, settle_processor, Machine.skipPressed]
    cases p.machine.keyDown x keys with
    | error f => exact same_refl q p.machine
    | ok down => exact same_skipIf _ h
  | skipReleased x =>
    simp only [perform, Executed.afterKeypad, settle_processor, Machine.skipReleased]
    cases p.machine.keyDown x keys with
    | error f => exact same_refl q p.machine
    | ok down => exact same_skipIf _ h
  | setByte | addByte | copy | or | and | xor | random => exact same_set _ h
  | add | sub | subFrom =>
    exact same_set_set (fun _ => _) (fun _ => _) (fun e => h (Or.inl e)) fun e => h (Or.inr e)
  | shiftRight | shiftLeft =>
    exact same_set_set (fun _ => _) (fun _ => _) (fun e => h (Or.inr e)) fun e => h (Or.inl e)
  | setIndex | addIndex | glyph => exact same_index _ h
  | draw x y rows =>
    have hdraw : q.Same p.machine (p.machine.draw x y rows).machine :=
      same_draw (fun e => h (Or.inl e)) fun e => h (Or.inr e)
    simp only [perform]
    cases hd : p.machine.draw x y rows with
    | error halted => rw [hd] at hdraw; exact hdraw
    | ok drawn => rw [hd] at hdraw; exact hdraw
  | getDelay x =>
    simp only [perform, settle_processor, Machine.getDelay]
    cases Byte.ofInt? p.machine.registers.delay with
    | error f => exact same_refl q p.machine
    | ok b => exact same_set _ h
  | awaitKey x =>
    simp only [perform]
    rcases p.machine.awaitKey_cases x keys with hw | ⟨b, hw⟩ | ⟨n, hw, -⟩
    · rw [hw]
      exact same_refl q p.machine
    · rw [hw]
      exact same_set b h
    · rw [hw]
      exact same_refl q p.machine
  | setDelay x => exact same_delay _ h
  | setSound x => exact same_sound _ h
  | digits x =>
    rw [perform, settle_processor]
    exact same_writeAtIndex h
  | store x =>
    rw [perform, settle_processor]
    refine same_writeAtIndex ?_
    rw [Machine.length_upTo]
    exact h
  | load x =>
    rw [perform, settle_processor]
    exact same_loadRegisters fun y hy e => h ⟨y, hy, e⟩

end Processor

end Chip8
