/-
Chip8.Proofs.Processor.Perform — what one instruction can do, said once.

* `perform_processor` — an instruction reaches the machine and the random
  source, and nothing else of the processor.
* `perform_inRange` — it keeps the machine in range, the program counter
  at most 2 beyond the last address that can be fetched.
* `Machine.obstacle?` — the fault of the program's own that an instruction
  meets on a machine, read off before anything is executed. An
  instruction with an obstacle changes nothing (`perform_of_obstacle`), and
  every fault of the program is an obstacle (`obstacle_of_perform`). On a
  machine in range, with a proper host, an instruction without an obstacle
  succeeds (`perform_of_clear`), so there are no other faults
  (`obstacle_of_perform_inRange`).
* `Machine.painted?` — the machine with the picture that an instruction
  makes. Such a picture is handed out (`perform_of_painted`); an instruction
  that makes none reads the keypad at most (`perform_journal`).
* `perform_event` — only the instruction that sets the sound register
  reports an event.
-/
import Mathlib.Data.List.TakeWhile
import Chip8.Proofs.Machine.Range

namespace Chip8

/-- Whether an instruction takes a random byte. -/
def Instruction.draws : Instruction → Bool
  | .random .. => true
  | _ => false

namespace Machine

/-- The machine with the picture that an instruction makes, if it comes to
make one. -/
def painted? (m : Machine) : Instruction → Option Machine
  | .clear => some m.clearScreen
  | .draw x y rows => (m.draw x y rows).toOption
  | _ => none

/-- The fault of a transfer of `count` bytes at the index register, if it
leaves the memory. -/
def outside? (m : Machine) (count : Nat) : Option Fault :=
  if m.registers.i < 0 ∨ m.memory.size < m.registers.i + count then
    some (.accessOutOfBounds m.registers.i count m.memory.size)
  else none

/-- The fault of the program's own that an instruction meets on a machine. -/
def obstacle? (m : Machine) : Instruction → Option Fault
  | .ret => if m.registers.sp ≤ -1 then some (.stackUnderflow m.registers.pc) else none
  | .call _ => if 15 ≤ m.registers.sp then some (.stackOverflow m.registers.pc) else none
  | .draw _ _ rows => m.outside? rows
  | .digits _ => m.outside? 3
  | .store x | .load x => m.outside? (x.val + 1)
  | _ => none

theorem checked_of_outside {m : Machine} {count : Nat} {f : Fault} (h : m.outside? count = some f) :
    m.memory.checked m.registers.i count = .error f := by
  unfold outside? at h
  split at h
  · rename_i hout
    injection h with h
    rw [← h, Memory.checked_eq_error hout]
  · cases h

theorem checked_of_inside {m : Machine} {count : Nat} (h : m.outside? count = none) :
    m.memory.checked m.registers.i count = .ok m.registers.i.toNat := by
  unfold outside? at h
  split at h
  · cases h
  · exact Memory.checked_eq_ok (by omega) (by omega)

theorem length_upTo (r : Registers) (x : Index) : (r.upTo x).length = x.val + 1 := by
  have hx := x.isLt
  unfold Registers.upTo
  rw [List.length_take, Vector.length_toList]
  omega

/-! ## Transfers

A transfer tests its whole range first, so it is refused as a whole or goes
through as a whole. -/

theorem digits_of_outside {m : Machine} {f : Fault} (x : Index) (h : m.outside? 3 = some f) :
    m.digits x = m.halt f := by
  have hcheck : m.memory.checked m.registers.i (decimalDigits (m.registers.get x)).length =
      .error f := checked_of_outside h
  unfold digits writeAtIndex
  rw [hcheck]

theorem digits_of_inside {m : Machine} (x : Index) (h : m.outside? 3 = none) :
    m.digits x = .ok { m with
      memory := m.memory.writeAll m.registers.i.toNat (decimalDigits (m.registers.get x)) } := by
  have hcheck : m.memory.checked m.registers.i (decimalDigits (m.registers.get x)).length =
      .ok m.registers.i.toNat := checked_of_inside h
  unfold digits writeAtIndex
  rw [hcheck]

theorem store_of_outside {m : Machine} {x : Index} {f : Fault}
    (h : m.outside? (x.val + 1) = some f) : m.store x = m.halt f := by
  unfold store writeAtIndex
  rw [length_upTo, checked_of_outside h]

theorem store_of_inside {m : Machine} {x : Index} (h : m.outside? (x.val + 1) = none) :
    m.store x = .ok { m with
      memory := m.memory.writeAll m.registers.i.toNat (m.registers.upTo x) } := by
  unfold store writeAtIndex
  rw [length_upTo, checked_of_inside h]

theorem loadRegisters_of_outside {m : Machine} {x : Index} {f : Fault}
    (h : m.outside? (x.val + 1) = some f) : m.loadRegisters x = m.halt f := by
  unfold loadRegisters
  rw [checked_of_outside h]

theorem loadRegisters_of_inside {m : Machine} {x : Index} (h : m.outside? (x.val + 1) = none) :
    m.loadRegisters x = .ok (m.mapRegisters
      (·.setFrom 0 (m.memory.slice m.registers.i.toNat (x.val + 1)))) := by
  unfold loadRegisters
  rw [checked_of_inside h]

theorem draw_of_outside {m : Machine} {rows : Nat} {f : Fault} (x y : Index)
    (h : m.outside? rows = some f) : m.draw x y rows = m.halt f := by
  unfold draw
  rw [checked_of_outside h]

/-! ## Pictures -/

theorem painted_draw_eq_some {m m' : Machine} {x y : Index} {rows : Fin 16} :
    m.painted? (.draw x y rows) = some m' ↔ m.draw x y rows = .ok m' := by
  have hpainted : m.painted? (.draw x y rows) = (m.draw x y rows).toOption := rfl
  rw [hpainted]
  cases m.draw x y rows <;> simp [Except.toOption]

theorem painted_draw_eq_none {m : Machine} {x y : Index} {rows : Fin 16} :
    m.painted? (.draw x y rows) = none ↔ ∃ halted, m.draw x y rows = .error halted := by
  have hpainted : m.painted? (.draw x y rows) = (m.draw x y rows).toOption := rfl
  rw [hpainted]
  cases m.draw x y rows <;> simp [Except.toOption]

end Machine

namespace Processor

/-! ## The outcomes that instructions are made of -/

theorem settle_processor (p : Processor) (attempt : Attempt) (flow : Flow) :
    (p.settle attempt flow).processor = p.withMachine attempt.machine := by
  cases attempt <;> rfl

@[simp] theorem settle_event (p : Processor) (attempt : Attempt) (flow : Flow) :
    (p.settle attempt flow).event = none := by
  cases attempt <;> rfl

@[simp] theorem settle_journal (p : Processor) (attempt : Attempt) (flow : Flow) :
    (p.settle attempt flow).journal = [] := by
  cases attempt <;> rfl

theorem settle_halt (p : Processor) (f : Fault) (flow : Flow) :
    p.settle (p.machine.halt f) flow = { processor := p, flow := .error f } := rfl

/-- Every listener is reached if all of them can be called. -/
theorem announce_flow {p : Processor} (h : Listener.dead ∉ p.listeners) :
    p.announce.flow = .ok .advance := by
  have hall : p.listeners.takeWhile (· ≠ .dead) = p.listeners := by
    rw [List.takeWhile_eq_self_iff]
    intro l hl
    exact decide_eq_true fun e => h (e ▸ hl)
  unfold announce
  simp only
  rw [hall, if_pos rfl]

theorem announce_flow_error {p : Processor} {f : Fault} (h : p.announce.flow = .error f) :
    f = .deadListener := by
  unfold announce at h
  simp only at h
  split at h
  · cases h
  · injection h with h
    exact h.symm

/-- An instruction reaches the machine and, if it draws, the random source. -/
theorem perform_processor (p : Processor) (keys : Keypad) (i : Instruction) :
    (p.perform keys i).processor =
      { p with
        machine := (p.perform keys i).processor.machine
        random := if i.draws then p.random.advance else p.random } := by
  cases i with
  | ret | call | skipPressed | skipReleased | getDelay | digits | store | load =>
    simp only [perform, Executed.afterKeypad, settle_processor]
    rfl
  | draw x y rows =>
    simp only [perform]
    cases p.machine.draw x y rows <;> rfl
  | awaitKey x =>
    simp only [perform]
    cases p.machine.awaitKey x keys <;> rfl
  | _ => rfl

/-! ## The range -/

/-- An instruction that was fetched keeps the machine in range. -/
theorem perform_inRange {p : Processor} (h : p.machine.InRange lastFetch) (keys : Keypad)
    (i : Instruction) : (p.perform keys i).processor.machine.InRange (lastFetch + 2) := by
  have hlast : lastFetch = 4094 := rfl
  have hup : (lastFetch : Int) ≤ lastFetch + 2 := by omega
  have hr := h.registers
  cases i with
  | clear => exact ⟨hr.mono hup, h.memory, h.stack, h.frame.clear⟩
  | ret =>
    rw [perform, settle_processor]
    exact (h.mono hup).ret hup
  | jump target =>
    have ht := target.isLt
    exact h.withRegisters (hr.withPc (by omega) (by omega))
  | call target =>
    rw [perform, settle_processor]
    exact h.call target.isLt (by omega)
  | skipEqByte | skipNeByte | skipEq | skipNe => exact h.withRegisters (hr.skipIf _)
  | setByte | addByte | copy | or | and | xor | random =>
    exact h.withRegisters ((hr.set _ _).mono hup)
  | add | sub | subFrom | shiftRight | shiftLeft =>
    exact h.withRegisters (((hr.set _ _).set _ _).mono hup)
  | setIndex a =>
    have ha := a.isLt
    exact h.withRegisters ((hr.withIndex (by omega) (by omega)).mono hup)
  | jumpOffset a =>
    have ht : (a.val + p.machine.registers.value Registers.offsetIndex) % 4096 < 4096 :=
      Nat.mod_lt _ (by omega)
    exact h.withRegisters (hr.withPc (by omega) (by omega))
  | draw x y rows =>
    have hdraw := h.draw x y rows
    simp only [perform]
    cases hd : p.machine.draw x y rows with
    | error halted => rw [hd] at hdraw; exact hdraw.mono hup
    | ok drawn => rw [hd] at hdraw; exact hdraw.mono hup
  | skipPressed x =>
    simp only [perform, Executed.afterKeypad, settle_processor]
    exact h.skipPressed x keys
  | skipReleased x =>
    simp only [perform, Executed.afterKeypad, settle_processor]
    exact h.skipReleased x keys
  | getDelay x =>
    rw [perform, settle_processor]
    exact (h.getDelay x).mono hup
  | awaitKey x =>
    simp only [perform]
    rcases p.machine.awaitKey_cases x keys with hw | ⟨b, hw⟩ | ⟨n, hw, -⟩
    · rw [hw]
      exact h.mono hup
    · rw [hw]
      exact (h.withRegisters (hr.set x b)).mono hup
    · rw [hw]
      exact h.mono hup
  | setDelay x => exact h.withRegisters ((hr.setDelay x).mono hup)
  | setSound x => exact h.withRegisters ((hr.setSound x).mono hup)
  | addIndex x => exact h.withRegisters ((hr.addIndex x).mono hup)
  | glyph x => exact (h.glyph x).mono hup
  | digits | store =>
    rw [perform, settle_processor]
    exact (h.writeAtIndex _).mono hup
  | load x =>
    rw [perform, settle_processor]
    exact (h.loadRegisters x).mono hup

/-! ## Faults -/

/-- An instruction with an obstacle fails on it and changes nothing. -/
theorem perform_of_obstacle {p : Processor} {i : Instruction} {f : Fault}
    (h : p.machine.obstacle? i = some f) (keys : Keypad) :
    p.perform keys i = { processor := p, flow := .error f } := by
  cases i with
  | ret =>
    simp only [Machine.obstacle?] at h
    split at h
    · rename_i hempty
      injection h with h
      rw [perform, Machine.ret_of_empty hempty, settle_halt, h]
    · cases h
  | call target =>
    simp only [Machine.obstacle?] at h
    split at h
    · rename_i hfull
      injection h with h
      rw [perform, Machine.call_of_full hfull, settle_halt, h]
    · cases h
  | draw x y rows =>
    simp only [perform]
    rw [Machine.draw_of_outside x y h]
    rfl
  | digits x => rw [perform, Machine.digits_of_outside x h, settle_halt]
  | store x => rw [perform, Machine.store_of_outside h, settle_halt]
  | load x => rw [perform, Machine.loadRegisters_of_outside h, settle_halt]
  | _ => cases h

/-- What a processor needs of its host: sixteen keys, and listeners that
can be called. -/
structure Served (p : Processor) (keys : Keypad) : Prop where
  keys : keys.length = 16
  listeners : Listener.dead ∉ p.listeners

/-- On a machine in range, with a proper host, an instruction without an
obstacle succeeds. -/
theorem perform_of_clear {p : Processor} {keys : Keypad} {i : Instruction}
    (hm : p.machine.InRange lastFetch) (hs : p.Served keys)
    (h : p.machine.obstacle? i = none) : ∃ flow, (p.perform keys i).flow = .ok flow := by
  have hlast : lastFetch = 4094 := rfl
  have hpc := hm.registers.pc_nonneg
  have hpc' := hm.registers.pc_le
  cases i with
  | clear => exact ⟨_, announce_flow hs.listeners⟩
  | ret =>
    have hsp := hm.registers.sp_le
    simp only [Machine.obstacle?] at h
    split at h
    · cases h
    · obtain ⟨k, hk⟩ := Machine.exists_slot (n := p.machine.registers.sp) (by omega) (by omega)
      rw [perform, Machine.ret_of_open hk]
      exact ⟨_, rfl⟩
  | call target =>
    have hsp := hm.registers.sp_ge
    simp only [Machine.obstacle?] at h
    split at h
    · cases h
    · obtain ⟨k, hk⟩ := Machine.exists_slot (n := p.machine.registers.sp + 1) (by omega) (by omega)
      rw [perform, Machine.call_of_room hk hpc (by omega)]
      exact ⟨_, rfl⟩
  | draw x y rows =>
    have hdim : ¬(p.machine.frame.width = 0 ∨ p.machine.frame.height = 0) := by
      rw [hm.frame.width, hm.frame.height]
      decide
    simp only [perform, Machine.draw]
    rw [Machine.checked_of_inside h]
    simp only [if_neg hdim]
    exact ⟨_, announce_flow hs.listeners⟩
  | skipPressed x =>
    obtain ⟨down, hdown⟩ := Machine.keyDown_of_length (m := p.machine) x hs.keys
    simp only [perform, Executed.afterKeypad, Machine.skipPressed, hdown]
    exact ⟨_, rfl⟩
  | skipReleased x =>
    obtain ⟨down, hdown⟩ := Machine.keyDown_of_length (m := p.machine) x hs.keys
    simp only [perform, Executed.afterKeypad, Machine.skipReleased, hdown]
    exact ⟨_, rfl⟩
  | getDelay x =>
    have h₀ := hm.registers.delay_nonneg
    have h₁ := hm.registers.delay_le
    simp only [perform, Machine.getDelay, Byte.ofInt?]
    rw [if_pos ⟨h₀, by omega⟩]
    exact ⟨_, rfl⟩
  | awaitKey x =>
    simp only [perform]
    rcases p.machine.awaitKey_cases x keys with hw | ⟨b, hw⟩ | ⟨n, hw, hlong⟩
    · rw [hw]
      exact ⟨_, rfl⟩
    · rw [hw]
      exact ⟨_, rfl⟩
    · have := hs.keys
      omega
  | digits x =>
    rw [perform, Machine.digits_of_inside x h]
    exact ⟨_, rfl⟩
  | store x =>
    rw [perform, Machine.store_of_inside h]
    exact ⟨_, rfl⟩
  | load x =>
    rw [perform, Machine.loadRegisters_of_inside h]
    exact ⟨_, rfl⟩
  | _ => exact ⟨_, rfl⟩

/-- An instruction without an obstacle meets no fault of the program's
own, whatever state the machine and its host are in. -/
theorem host_of_clear {p : Processor} {keys : Keypad} {i : Instruction} {f : Fault}
    (h : p.machine.obstacle? i = none) (hf : (p.perform keys i).flow = .error f) :
    f.isProgram = false := by
  cases i with
  | clear => rw [announce_flow_error hf]; rfl
  | ret =>
    simp only [Machine.obstacle?] at h
    split at h
    · cases h
    · rename_i hopen
      simp only [perform, Machine.ret, if_neg hopen] at hf
      cases hslot : Machine.slotOf p.machine.registers.sp with
      | ok k => rw [hslot] at hf; cases hf
      | error g =>
        rw [hslot, settle_halt] at hf
        injection hf with hf
        rw [← hf, Machine.eq_of_slotOf_error hslot]
        rfl
  | call target =>
    simp only [Machine.obstacle?] at h
    split at h
    · cases h
    · rename_i hroom
      have hroom' : ¬p.machine.registers.sp + 1 ≥ (stackDepth : Int) := by
        unfold stackDepth
        omega
      simp only [perform, Machine.call, if_neg hroom'] at hf
      cases hslot : Machine.slotOf (p.machine.registers.sp + 1) with
      | error g =>
        rw [hslot] at hf
        injection hf with hf
        rw [← hf, Machine.eq_of_slotOf_error hslot]
        rfl
      | ok k =>
        rw [hslot] at hf
        cases hword : Word.ofInt? p.machine.registers.pc with
        | none =>
          rw [hword] at hf
          injection hf with hf
          rw [← hf]
          rfl
        | some w => rw [hword] at hf; cases hf
  | draw x y rows =>
    simp only [perform, Machine.draw] at hf
    rw [Machine.checked_of_inside h] at hf
    by_cases hdim : p.machine.frame.width = 0 ∨ p.machine.frame.height = 0
    · simp only [if_pos hdim] at hf
      injection hf with hf
      rw [← hf]
      rfl
    · simp only [if_neg hdim] at hf
      rw [announce_flow_error hf]
      rfl
  | skipPressed x =>
    simp only [perform, Executed.afterKeypad, Machine.skipPressed] at hf
    cases hkey : p.machine.keyDown x keys with
    | ok down => rw [hkey] at hf; cases hf
    | error g =>
      rw [hkey, settle_halt] at hf
      injection hf with hf
      rw [← hf, Machine.eq_of_keyDown_error hkey]
      rfl
  | skipReleased x =>
    simp only [perform, Executed.afterKeypad, Machine.skipReleased] at hf
    cases hkey : p.machine.keyDown x keys with
    | ok down => rw [hkey] at hf; cases hf
    | error g =>
      rw [hkey, settle_halt] at hf
      injection hf with hf
      rw [← hf, Machine.eq_of_keyDown_error hkey]
      rfl
  | getDelay x =>
    simp only [perform, Machine.getDelay] at hf
    cases hbyte : Byte.ofInt? p.machine.registers.delay with
    | ok b => rw [hbyte] at hf; cases hf
    | error g =>
      rw [hbyte, settle_halt] at hf
      injection hf with hf
      rw [← hf, eq_of_ofInt?_error hbyte]
      rfl
  | awaitKey x =>
    simp only [perform] at hf
    rcases p.machine.awaitKey_cases x keys with hw | ⟨b, hw⟩ | ⟨n, hw, -⟩
    · rw [hw] at hf
      cases hf
    · rw [hw] at hf
      cases hf
    · rw [hw] at hf
      injection hf with hf
      rw [← hf]
      rfl
  | digits x =>
    rw [perform, Machine.digits_of_inside x h] at hf
    cases hf
  | store x =>
    rw [perform, Machine.store_of_inside h] at hf
    cases hf
  | load x =>
    rw [perform, Machine.loadRegisters_of_inside h] at hf
    cases hf
  | _ => cases hf

/-- Every fault of the program's own is an obstacle. -/
theorem obstacle_of_perform {p : Processor} {keys : Keypad} {i : Instruction} {f : Fault}
    (h : (p.perform keys i).flow = .error f) (hf : f.isProgram = true) :
    p.machine.obstacle? i = some f := by
  cases hob : p.machine.obstacle? i with
  | none =>
    rw [host_of_clear hob h] at hf
    cases hf
  | some g =>
    rw [perform_of_obstacle hob] at h
    injection h with h
    rw [h]

/-- On a machine in range, with a proper host, every fault is an obstacle. -/
theorem obstacle_of_perform_inRange {p : Processor} {keys : Keypad} {i : Instruction} {f : Fault}
    (hm : p.machine.InRange lastFetch) (hs : p.Served keys)
    (h : (p.perform keys i).flow = .error f) : p.machine.obstacle? i = some f := by
  cases hob : p.machine.obstacle? i with
  | none =>
    obtain ⟨flow, hok⟩ := perform_of_clear hm hs hob
    rw [hok] at h
    cases h
  | some g =>
    rw [perform_of_obstacle hob] at h
    injection h with h
    rw [h]

/-! ## Pictures -/

/-- A picture that an instruction makes is handed out. -/
theorem perform_of_painted {p : Processor} {i : Instruction} {m : Machine}
    (h : p.machine.painted? i = some m) (keys : Keypad) :
    p.perform keys i = (p.withMachine m).announce := by
  cases i with
  | clear =>
    injection h with h
    rw [← h]
    rfl
  | draw x y rows =>
    simp only [perform]
    rw [Machine.painted_draw_eq_some.mp h]
  | _ => cases h

/-- An instruction that makes no picture reads the keypad at most. -/
theorem perform_journal {p : Processor} {i : Instruction} (h : p.machine.painted? i = none)
    (keys : Keypad) :
    (p.perform keys i).journal = [] ∨ (p.perform keys i).journal = [.keypad] := by
  cases i with
  | clear => cases h
  | draw x y rows =>
    obtain ⟨halted, hdraw⟩ := Machine.painted_draw_eq_none.mp h
    simp only [perform]
    rw [hdraw]
    exact Or.inl rfl
  | ret | call | getDelay | digits | store | load => exact Or.inl (settle_journal ..)
  | skipPressed | skipReleased => exact Or.inr (congrArg _ (settle_journal ..))
  | awaitKey x =>
    refine Or.inr ?_
    simp only [perform]
    cases p.machine.awaitKey x keys <;> rfl
  | _ => exact Or.inl rfl

/-! ## Events -/

/-- An instruction reports an event only if it sets the sound register. -/
theorem perform_event (p : Processor) (keys : Keypad) (i : Instruction) :
    (p.perform keys i).event = none ∨ ∃ x, i = .setSound x := by
  cases i with
  | setSound x => exact Or.inr ⟨x, rfl⟩
  | ret | call | skipPressed | skipReleased | getDelay | digits | store | load =>
    exact Or.inl (settle_event ..)
  | draw x y rows =>
    refine Or.inl ?_
    simp only [perform]
    cases p.machine.draw x y rows <;> rfl
  | awaitKey x =>
    refine Or.inl ?_
    simp only [perform]
    cases p.machine.awaitKey x keys <;> rfl
  | _ => exact Or.inl rfl

end Processor

end Chip8
