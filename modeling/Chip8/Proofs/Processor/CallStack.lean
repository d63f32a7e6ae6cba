/-
Chip8.Proofs.Processor.CallStack — the stack slots and the stack pointer
are a list of return addresses, last in first out.

`callsAfter` follows a run and keeps the list on its own account: a call
that succeeds appends the address it was executed at, a return that
succeeds drops the last one, and nothing else changes the list. `Frames`
says that a processor holds a list: its stack pointer is one below the
length, and its slots are the entries. Every command keeps it
(`Frames.obey`), so `callStack_refines` holds at every moment of every run:

* a call fails exactly on a list of sixteen, a return exactly on the empty
  list, and a return goes to 2 beyond the last entry;
* calls and returns match: whatever happens between a call and the moment
  when the caller's depth is first reached again, execution goes on behind
  the call, and the frames below are untouched.

The matching is a statement about runs. Until the depth is reached again
the list begins with the caller's list and the call's own address
(`callsAfter_of_inside`), so the command that reaches it is the return that
pops this address.
-/
import Chip8.Proofs.Processor.Footprint
import Chip8.Proofs.Processor.Run

namespace Chip8.Processor

/-! ## The list of open calls -/

/-- The return addresses of the open calls after a command, given those
before it. -/
def openCalls (p : Processor) (calls : List Int) : Command → List Int
  | .step keys =>
      match (p.step keys).result, p.next? with
      | .ok _, some (.call _) => calls ++ [p.registers.pc]
      | .ok _, some .ret => calls.dropLast
      | _, _ => calls
  | _ => calls

/-- The return addresses of the open calls after a run. -/
def callsAfter (p : Processor) (calls : List Int) : List Command → List Int
  | [] => calls
  | c :: cs => (p.obey c).callsAfter (p.openCalls calls c) cs

theorem callsAfter_concat (p : Processor) (calls : List Int) (cs : List Command) (c : Command) :
    p.callsAfter calls (cs ++ [c]) = (p.run cs).openCalls (p.callsAfter calls cs) c := by
  induction cs generalizing p calls with
  | nil => rfl
  | cons d cs ih => exact ih (p.obey d) (p.openCalls calls d)

/-- A command leaves the list alone, or is a call that succeeds, or a return
that succeeds. -/
theorem openCalls_cases (p : Processor) (calls : List Int) (c : Command) :
    p.openCalls calls c = calls ∨
    (∃ target, p.next? = some (.call target) ∧
      p.openCalls calls c = calls ++ [p.registers.pc]) ∨
    (∃ keys event, c = .step keys ∧ p.next? = some .ret ∧ (p.step keys).result = .ok event ∧
      p.openCalls calls c = calls.dropLast) := by
  cases c with
  | step keys =>
    simp only [openCalls]
    cases hresult : (p.step keys).result with
    | error f => exact Or.inl rfl
    | ok event =>
      cases hnext : p.next? with
      | none => exact Or.inl rfl
      | some i =>
        cases i with
        | call target => exact Or.inr (Or.inl ⟨target, rfl, rfl⟩)
        | ret => exact Or.inr (Or.inr ⟨keys, event, rfl, rfl, hresult, rfl⟩)
        | _ => exact Or.inl rfl
  | _ => exact Or.inl rfl

/-- A processor whose stack holds the given return addresses. -/
structure Frames (p : Processor) (calls : List Int) : Prop where
  sp : p.registers.sp = calls.length - 1
  slots : ∀ (k : Index) (h : k.val < calls.length),
    ((p.machine.stack.get k).toNat : Int) = calls[k.val]

/-- Frames depend on the stack pointer and the slots below it only. -/
theorem Frames.congr {p q : Processor} {calls : List Int} (h : p.Frames calls)
    (hsp : q.registers.sp = p.registers.sp) (hstack : q.machine.stack = p.machine.stack) :
    q.Frames calls :=
  ⟨hsp.trans h.sp, by rw [hstack]; exact h.slots⟩

/-- An address written to the slot above the list is the new last entry. -/
theorem Frames.push {p q : Processor} {calls : List Int} (h : p.Frames calls) {k : Index}
    {w : Word} {a : Int} (hk : p.registers.sp + 1 = k.val) (ha : (w.toNat : Int) = a)
    (hsp : q.registers.sp = p.registers.sp + 1)
    (hstack : q.machine.stack = p.machine.stack.set k.val w (Index.lt k)) :
    q.Frames (calls ++ [a]) := by
  have hbefore := h.sp
  constructor
  · rw [hsp, List.length_append, List.length_singleton]
    push_cast
    omega
  · intro j hj
    rw [hstack, Machine.get_set_slot]
    rw [List.length_append, List.length_singleton] at hj
    by_cases htop : j = k
    · have hlast : j.val = calls.length := by
        rw [htop]
        omega
      rw [if_pos htop, List.getElem_concat_length hlast, ha]
    · have hne : j.val ≠ k.val := fun e => htop (Fin.ext e)
      have hbelow : j.val < calls.length := by omega
      rw [if_neg htop, List.getElem_append_left hbelow]
      exact h.slots j hbelow

/-- A lower stack pointer drops the last entry. -/
theorem Frames.pop {p q : Processor} {calls : List Int} (h : p.Frames calls) (hne : calls ≠ [])
    (hsp : q.registers.sp = p.registers.sp - 1) (hstack : q.machine.stack = p.machine.stack) :
    q.Frames calls.dropLast := by
  have hpos : 0 < calls.length := List.length_pos_iff.mpr hne
  have hbefore := h.sp
  constructor
  · rw [hsp, List.length_dropLast]
    omega
  · intro j hj
    rw [List.length_dropLast] at hj
    rw [hstack, List.getElem_dropLast]
    exact h.slots j (by omega)

/-! ## Steps -/

section Steps

variable {p : Processor} (keys : Keypad)

/-- A step that is neither a call nor a return leaves the stack alone. -/
theorem step_stack_of_other (hcall : ∀ target, p.next? ≠ some (.call target))
    (hret : p.next? ≠ some .ret) :
    (p.step keys).processor.registers.sp = p.registers.sp ∧
      (p.step keys).processor.machine.stack = p.machine.stack := by
  have hsame : ∀ w i, p.machine.memory.fetch p.machine.registers.pc = .ok w →
      Instruction.decode w = some i →
      (p.traced.perform keys i).processor.registers.sp = p.registers.sp ∧
        (p.traced.perform keys i).processor.machine.stack = p.machine.stack := by
    intro w i hfetch hdecode
    have hnext : p.next? = some i := by
      unfold next?
      rw [hfetch]
      exact hdecode
    have huntouched : Machine.Part.sp ∉ i.touches p.traced.machine ∧
        ∀ k, Machine.Part.slot k ∉ i.touches p.traced.machine := by
      cases i with
      | call target => exact absurd hnext (hcall target)
      | ret => exact absurd hnext hret
      | _ => simp [Instruction.touches, Machine.span]
    have hsp : Machine.Part.sp.Same p.traced.machine (p.traced.perform keys i).processor.machine :=
      perform_same huntouched.1
    have hslot : ∀ k, (Machine.Part.slot k).Same p.traced.machine
        (p.traced.perform keys i).processor.machine := fun k => perform_same (huntouched.2 k)
    unfold Machine.Part.Same at hsp hslot
    rw [traced_machine] at hsp hslot
    exact ⟨hsp, Vector.ext fun k hk => hslot ⟨k, hk⟩⟩
  cases p.stepCase keys with
  | unfetched f fetched step => rw [step]; exact ⟨rfl, rfl⟩
  | undecoded w fetched decoded step =>
    rw [step]
    unfold registers
    rw [traced_machine]
    exact ⟨rfl, rfl⟩
  | failed w i f fetched decoded flow step => rw [step]; exact hsame w i fetched decoded
  | done w i flow fetched decoded flowed step =>
    rw [step]
    unfold registers
    rw [finish_machine]
    cases flow <;> exact hsame w i fetched decoded

/-- A call with a free slot stores its address there and goes to its target. -/
theorem step_call_of_room {target : Address} {k : Index} (hp : p.Regular)
    (hnext : p.next? = some (.call target)) (hk : p.registers.sp + 1 = k.val) :
    (p.step keys).result = .ok none ∧
    (p.step keys).processor.machine = { p.machine with
      stack := p.machine.stack.set k.val (UInt16.ofNat p.registers.pc.toNat) (Index.lt k)
      registers := { p.registers with sp := p.registers.sp + 1, pc := target.val } } := by
  have hlast : p.registers.pc ≤ 0xFFFF := le_trans hp.machine.registers.pc_le (by decide)
  have hcall : p.machine.call target = _ :=
    Machine.call_of_room hk hp.machine.registers.pc_nonneg hlast
  have hperform : p.traced.perform keys (.call target) =
      { processor := p.traced.withMachine { p.machine with
          stack := p.machine.stack.set k.val (UInt16.ofNat p.registers.pc.toNat) (Index.lt k)
          registers := { p.registers with sp := p.registers.sp + 1, pc := target.val } }
        flow := .ok .stay } := by
    rw [perform, traced_machine, hcall]
    rfl
  have hflow : (p.traced.perform keys (.call target)).flow = .ok .stay := by rw [hperform]
  have hstep := step_of_next hnext hflow
  rw [hperform] at hstep
  exact ⟨hstep.1, by rw [hstep.2]; rfl⟩

/-- A call with every slot taken is refused. -/
theorem step_call_of_full {target : Address} (hnext : p.next? = some (.call target))
    (hfull : 15 ≤ p.registers.sp) :
    (p.step keys).result = .error (.stackOverflow p.registers.pc) := by
  refine (step_of_refusal ?_ keys).1
  rw [refusal_of_next hnext]
  exact if_pos hfull

/-- A return with a call open goes to 2 beyond the stored address. -/
theorem step_ret_of_open {k : Index} (hnext : p.next? = some .ret)
    (hk : p.registers.sp = k.val) :
    (p.step keys).result = .ok none ∧
    (p.step keys).processor.machine = { p.machine with
      registers := { p.registers with
        sp := p.registers.sp - 1
        pc := (p.machine.stack.get k).toNat + 2 } } := by
  have hret := Machine.ret_of_open hk
  have hperform : p.traced.perform keys .ret =
      { processor := p.traced.withMachine (p.machine.mapRegisters fun r =>
          { r with pc := (p.machine.stack.get k).toNat, sp := r.sp - 1 })
        flow := .ok .advance } := by
    rw [perform, traced_machine, hret]
    rfl
  have hflow : (p.traced.perform keys .ret).flow = .ok .advance := by rw [hperform]
  have hstep := step_of_next hnext hflow
  rw [hperform] at hstep
  exact ⟨hstep.1, by rw [hstep.2]; rfl⟩

/-- A return with no call open is refused. -/
theorem step_ret_of_empty (hnext : p.next? = some .ret) (hempty : p.registers.sp ≤ -1) :
    (p.step keys).result = .error (.stackUnderflow p.registers.pc) := by
  refine (step_of_refusal ?_ keys).1
  rw [refusal_of_next hnext]
  exact if_pos hempty

end Steps

/-! ## Runs -/

section Runs

variable {p : Processor} {calls : List Int}

theorem Frames.length_le (h : p.Frames calls) (hp : p.Regular) : calls.length ≤ 16 := by
  have hsp := h.sp
  have hle : p.registers.sp ≤ 15 := hp.machine.registers.sp_le
  omega

/-- A call on a list of open calls: refused if it is full, appended if not. -/
theorem Frames.call (h : p.Frames calls) (hp : p.Regular) {target : Address}
    (hnext : p.next? = some (.call target)) (keys : Keypad) :
    (p.step keys).result =
        (if calls.length = 16 then .error (.stackOverflow p.registers.pc) else .ok none) ∧
      (p.step keys).processor.Frames (p.openCalls calls (.step keys)) := by
  have hsp := h.sp
  by_cases hfull : calls.length = 16
  · have hresult := step_call_of_full keys hnext (by omega)
    have hmachine := machine_of_refusal (refusal_of_step hresult rfl) keys
    rw [if_pos hfull]
    refine ⟨hresult, ?_⟩
    simp only [openCalls, hresult]
    exact h.congr (by unfold registers; rw [hmachine]) (by rw [hmachine])
  · have hlength := h.length_le hp
    obtain ⟨k, hk⟩ := Machine.exists_slot (n := p.registers.sp + 1) (by omega) (by omega)
    obtain ⟨hresult, hmachine⟩ := step_call_of_room keys hp hnext hk
    rw [if_neg hfull]
    refine ⟨hresult, ?_⟩
    simp only [openCalls, hresult, hnext]
    have h₀ : 0 ≤ p.registers.pc := hp.machine.registers.pc_nonneg
    have h₁ : p.registers.pc ≤ 4098 := hp.machine.registers.pc_le
    refine h.push hk ?_ (by unfold registers; rw [hmachine]; rfl) (by rw [hmachine])
    rw [UInt16.toNat_ofNat']
    omega

/-- A return on a list of open calls: refused if it is empty, to 2 beyond the
last entry if not. -/
theorem Frames.ret (h : p.Frames calls) (hp : p.Regular) (hnext : p.next? = some .ret)
    (keys : Keypad) :
    (p.step keys).result =
        (if calls = [] then .error (.stackUnderflow p.registers.pc) else .ok none) ∧
      (∀ a, calls.getLast? = some a → (p.step keys).processor.registers.pc = a + 2) ∧
      (p.step keys).processor.Frames (p.openCalls calls (.step keys)) := by
  have hsp := h.sp
  by_cases hempty : calls = []
  · have hresult := step_ret_of_empty keys hnext (by rw [hsp, hempty]; decide)
    have hmachine := machine_of_refusal (refusal_of_step hresult rfl) keys
    rw [if_pos hempty]
    refine ⟨hresult, fun a ha => ?_, ?_⟩
    · rw [hempty] at ha
      cases ha
    · simp only [openCalls, hresult]
      exact h.congr (by unfold registers; rw [hmachine]) (by rw [hmachine])
  · have hpos : 0 < calls.length := List.length_pos_iff.mpr hempty
    have hlength := h.length_le hp
    obtain ⟨k, hk⟩ := Machine.exists_slot (n := p.registers.sp) (by omega) (by omega)
    have hlast : k.val = calls.length - 1 := by omega
    obtain ⟨hresult, hmachine⟩ := step_ret_of_open keys hnext hk
    rw [if_neg hempty]
    refine ⟨hresult, fun a ha => ?_, ?_⟩
    · have hslot := h.slots k (by omega)
      rw [List.getLast?_eq_getElem?, ← hlast, List.getElem?_eq_getElem (by omega)] at ha
      injection ha with ha
      unfold registers
      rw [hmachine]
      simp only
      rw [hslot, ha]
    · simp only [openCalls, hresult, hnext]
      exact h.pop hempty (by unfold registers; rw [hmachine]; rfl) (by rw [hmachine])

/-- Every command keeps the frames. -/
theorem Frames.obey (h : p.Frames calls) (hp : p.Regular) (c : Command) :
    (p.obey c).Frames (p.openCalls calls c) := by
  cases c with
  | wait delta =>
    refine h.congr ?_ ?_
    · unfold Processor.obey registers
      rw [updateTimers_machine hp]
      rfl
    · unfold Processor.obey
      rw [updateTimers_machine hp]
  | load program =>
    rw [obey_load]
    unfold Machine.load
    split <;> exact h.congr rfl rfl
  | trace on => exact h.congr rfl rfl
  | step keys =>
    by_cases hret : p.next? = some .ret
    · exact (h.ret hp hret keys).2.2
    · by_cases hcall : ∃ target, p.next? = some (.call target)
      · obtain ⟨target, hnext⟩ := hcall
        exact (h.call hp hnext keys).2
      · have hother : p.openCalls calls (.step keys) = calls := by
          rcases p.openCalls_cases calls (.step keys) with
            hsame | ⟨target, hnext, -⟩ | ⟨_, _, -, hnext, -⟩
          · exact hsame
          · exact absurd ⟨target, hnext⟩ hcall
          · exact absurd hnext hret
        obtain ⟨hsp, hstack⟩ := step_stack_of_other keys
          (fun target hnext => hcall ⟨target, hnext⟩) hret
        rw [hother]
        exact h.congr hsp hstack

theorem Frames.run (h : p.Frames calls) (hp : p.Regular) (cs : List Command) :
    (p.run cs).Frames (p.callsAfter calls cs) := by
  induction cs generalizing p calls with
  | nil => exact h
  | cons c cs ih => exact ih (h.obey hp c) (hp.obey c)

/-- A fresh processor has no call open. -/
theorem Fresh.frames (h : p.Fresh) : p.Frames [] := by
  obtain ⟨made, listeners, tracing⟩ := h
  obtain ⟨-, hperiod, rfl⟩ := make_eq_ok_iff.mp made
  exact ⟨rfl, fun k hk => absurd hk (Nat.not_lt_zero _)⟩

/-! ## Matching -/

/-- A run that ends at a depth where it was not before. -/
def FirstAt (p : Processor) (sp : Int) (cs : List Command) : Prop :=
  (p.run cs).registers.sp = sp ∧
    ∀ before, before <+: cs → before ≠ cs → (p.run before).registers.sp ≠ sp

/-- As long as the depth of the caller is not reached again, its calls and
the call's own address stay at the front. -/
theorem callsAfter_of_inside {outer : List Int} {a : Int} (hp : p.Regular)
    (h : p.Frames (outer ++ [a])) {cs : List Command}
    (inside : ∀ before, before <+: cs → (p.run before).registers.sp ≠ outer.length - 1) :
    outer ++ [a] <+: p.callsAfter (outer ++ [a]) cs := by
  induction cs using List.reverseRecOn with
  | nil => exact List.prefix_rfl
  | append_singleton cs c ih =>
    have kept := ih fun before hb => inside before (hb.trans (List.prefix_append cs [c]))
    have hsp := ((h.run hp (cs ++ [c])).sp).symm.trans_ne (inside (cs ++ [c]) List.prefix_rfl)
    rw [callsAfter_concat] at hsp ⊢
    rcases (p.run cs).openCalls_cases (p.callsAfter (outer ++ [a]) cs) c with
      hsame | ⟨target, -, hcall⟩ | ⟨_, _, -, -, -, hret⟩
    · rwa [hsame]
    · rw [hcall]
      exact kept.trans (List.prefix_append _ _)
    · obtain ⟨rest, hrest⟩ := kept
      rw [hret, ← hrest] at hsp ⊢
      cases rest using List.reverseRecOn with
      | nil =>
        -- the return would reach the depth of the caller
        rw [List.append_nil, List.dropLast_concat] at hsp
        exact absurd rfl hsp
      | append_singleton rest b =>
        rw [← List.append_assoc, List.dropLast_concat]
        exact List.prefix_append _ _

/-- What first reaches the depth of the caller again is the return that
belongs to the call. -/
theorem resume_of_first {outer : List Int} {a : Int} (hp : p.Regular)
    (h : p.Frames (outer ++ [a])) {cs : List Command}
    (first : p.FirstAt (outer.length - 1) cs) :
    (p.run cs).registers.pc = a + 2 ∧ p.callsAfter (outer ++ [a]) cs = outer := by
  obtain ⟨back, first⟩ := first
  have hafter := h.run hp cs
  have hlength : (p.callsAfter (outer ++ [a]) cs).length = outer.length := by
    have hsp := hafter.sp
    omega
  cases cs using List.reverseRecOn with
  | nil =>
    rw [callsAfter, List.length_append, List.length_singleton] at hlength
    omega
  | append_singleton cs c =>
    have kept : outer ++ [a] <+: p.callsAfter (outer ++ [a]) cs := by
      refine callsAfter_of_inside hp h fun before hb => ?_
      refine first before (hb.trans (List.prefix_append cs [c])) fun e => ?_
      have := hb.length_le
      rw [e, List.length_append, List.length_singleton] at this
      omega
    have hlong := kept.length_le
    rw [List.length_append, List.length_singleton] at hlong
    rw [callsAfter_concat] at hlength ⊢
    rcases (p.run cs).openCalls_cases (p.callsAfter (outer ++ [a]) cs) c with
      hsame | ⟨target, -, hcall⟩ | ⟨keys, event, hc, hnext, -, hret⟩
    · rw [hsame] at hlength
      omega
    · rw [hcall, List.length_append] at hlength
      omega
    · rw [hret, List.length_dropLast] at hlength
      have hexact : p.callsAfter (outer ++ [a]) cs = outer ++ [a] := by
        refine (kept.eq_of_length ?_).symm
        rw [List.length_append, List.length_singleton]
        omega
      have hlast : (p.callsAfter (outer ++ [a]) cs).getLast? = some a := by
        rw [hexact, List.getLast?_concat]
      rw [hret, hexact, List.dropLast_concat, run_concat, hc]
      exact ⟨((h.run hp cs).ret (hp.run cs) hnext keys).2.1 a hlast, rfl⟩

end Runs

/-! ## The statement -/

/-- **The call stack is a list of return addresses.** At every moment of
every run of a fresh processor the stack pointer and the slots below it are
the list of open calls; a call is refused exactly on sixteen, a return
exactly on none, and a return goes to 2 beyond the last address. So when the
depth of a call is first reached again, whatever happened in between, the
program goes on behind the call, with the frames outside as they were. -/
theorem callStack_refines {p : Processor} (fresh : p.Fresh) (cs : List Command) :
    (p.run cs).Frames (p.callsAfter [] cs) ∧
    (p.callsAfter [] cs).length ≤ 16 ∧
    (∀ keys target, (p.run cs).next? = some (.call target) →
      ((p.run cs).step keys).result =
        if (p.callsAfter [] cs).length = 16 then .error (.stackOverflow (p.run cs).registers.pc)
        else .ok none) ∧
    (∀ keys, (p.run cs).next? = some .ret →
      ((p.run cs).step keys).result =
        (if p.callsAfter [] cs = [] then .error (.stackUnderflow (p.run cs).registers.pc)
        else .ok none) ∧
      ∀ a, (p.callsAfter [] cs).getLast? = some a →
        ((p.run cs).step keys).processor.registers.pc = a + 2) ∧
    (∀ keys target event, (p.run cs).next? = some (.call target) →
      ((p.run cs).step keys).result = .ok event → ∀ later,
      ((p.run cs).step keys).processor.FirstAt (p.run cs).registers.sp later →
      (((p.run cs).step keys).processor.run later).registers.pc = (p.run cs).registers.pc + 2 ∧
      ∀ k : Index, k.val ≤ (p.run cs).registers.sp →
        (((p.run cs).step keys).processor.run later).machine.stack.get k =
          (p.run cs).machine.stack.get k) := by
  have hq := fresh.regular.run cs
  have hframes := fresh.frames.run fresh.regular cs
  refine ⟨hframes, hframes.length_le hq, ?_, ?_, ?_⟩
  · intro keys target hnext
    exact (hframes.call hq hnext keys).1
  · intro keys hnext
    obtain ⟨hresult, hpc, -⟩ := hframes.ret hq hnext keys
    exact ⟨hresult, hpc⟩
  · intro keys target event hnext hresult later hfirst
    have hcalled := (hframes.call hq hnext keys).2
    have hcalls : (p.run cs).openCalls (p.callsAfter [] cs) (.step keys) =
        p.callsAfter [] cs ++ [(p.run cs).registers.pc] := by
      simp only [openCalls, hresult, hnext]
    rw [hcalls] at hcalled
    have hinside : ((p.run cs).step keys).processor.Regular := hq.obey (.step keys)
    rw [hframes.sp] at hfirst
    obtain ⟨hpc, hback⟩ := resume_of_first hinside hcalled hfirst
    refine ⟨hpc, fun k hk => ?_⟩
    have hbefore := hframes.slots k
    have hafter := (hcalled.run hinside later).slots k
    rw [hback] at hafter
    rw [hframes.sp] at hk
    have heq := (hafter (by omega)).trans (hbefore (by omega)).symm
    exact UInt16.toNat_inj.mp (by omega)

/-- A call of a lone return comes back behind the call. -/
theorem callStack_refines_call_and_return :
    ∃ p : Processor, p.Fresh ∧ p.next? = some (.call 0x204) ∧
      ((p.step Keypad.released).processor.run [.step Keypad.released]).registers.pc = 0x202 := by
  have fresh : (boot [0x22, 0x04, 0x12, 0x02, 0x00, 0xEE] (RandomSource.cycle []) 1
      (by decide)).Fresh :=
    .intro (make_eq_ok_iff.mpr ⟨by decide, by decide, rfl⟩) [] false
  refine ⟨_, fresh, by decide +kernel, ?_⟩
  obtain ⟨-, -, -, -, hmatch⟩ := callStack_refines fresh []
  refine (hmatch Keypad.released 0x204 none (by decide +kernel) (by decide +kernel)
    [.step Keypad.released] ⟨by decide +kernel, ?_⟩).1.trans (by decide +kernel)
  intro before hbefore hne
  rcases List.prefix_cons_iff.mp hbefore with rfl | ⟨rest, rfl, hrest⟩
  · decide +kernel
  · rw [List.prefix_nil.mp hrest] at hne
    exact absurd rfl hne

end Chip8.Processor
