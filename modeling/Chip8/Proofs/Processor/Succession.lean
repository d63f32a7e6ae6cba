/-
Chip8.Proofs.Processor.Succession — where the program goes on after a step.

The program counter is moved in two places: an instruction may send it
somewhere else or past one more instruction, and the step moves it past the
instruction itself, unless that says `stay`. `Instruction.successor?` is what
the two come to (`perform_successor`), and `Word.successor?` tells it from the
digits of the word.

Each conditional skip has an opposite, a word with the same operands that
skips exactly when it does not (`Word.Opposes`). So of the two, executed with
the same registers and the same keypad, one skips and the other does not.
-/
import Chip8.Proofs.Processor.Effects

namespace Chip8

/-- The address in the topmost slot of the call stack, if a call is open. -/
def Machine.top? (m : Machine) : Option Nat :=
  (Index.ofInt? m.registers.sp).map fun k => (m.stack.get k).toNat

/-- Where the program counter stands after an instruction that succeeds. -/
def Instruction.successor? (m : Machine) (keys : Keypad) : Instruction → Option Int
  | .jump target | .call target => some target.val
  | .jumpOffset a => some ((a.val + m.registers.value Registers.offsetIndex) % 4096 : Nat)
  | .ret => m.top?.map fun a => (a : Int) + 2
  | .awaitKey _ => some (if true ∈ keys then m.registers.pc + 2 else m.registers.pc)
  | .skipEqByte x k => some (m.registers.pc + if m.registers.get x = k then 4 else 2)
  | .skipNeByte x k => some (m.registers.pc + if m.registers.get x ≠ k then 4 else 2)
  | .skipEq x y => some (m.registers.pc + if m.registers.get x = m.registers.get y then 4 else 2)
  | .skipNe x y => some (m.registers.pc + if m.registers.get x ≠ m.registers.get y then 4 else 2)
  | .skipPressed x =>
      some (m.registers.pc + if keys[m.registers.value x % 16]? = some true then 4 else 2)
  | .skipReleased x =>
      some (m.registers.pc + if keys[m.registers.value x % 16]? = some false then 4 else 2)
  | _ => some (m.registers.pc + 2)

/-- Whether an instruction can keep the step from moving past it. -/
def Instruction.redirects : Instruction → Bool
  | .jump _ | .call _ | .jumpOffset _ | .awaitKey _ => true
  | _ => false

namespace Word

/-- Whether a word skips the instruction behind it. -/
def Skips (w : Word) (r : Registers) (keys : Keypad) : Prop :=
  w.family.val = 0x3 ∧ r.get w.x = w.byte ∨
  w.family.val = 0x4 ∧ r.get w.x ≠ w.byte ∨
  w.family.val = 0x5 ∧ w.nibble.val = 0x0 ∧ r.get w.x = r.get w.y ∨
  w.family.val = 0x9 ∧ w.nibble.val = 0x0 ∧ r.get w.x ≠ r.get w.y ∨
  w.family.val = 0xE ∧ w.byte.toNat = 0x9E ∧ keys[r.value w.x % 16]? = some true ∨
  w.family.val = 0xE ∧ w.byte.toNat = 0xA1 ∧ keys[r.value w.x % 16]? = some false

instance (w : Word) (r : Registers) (keys : Keypad) : Decidable (w.Skips r keys) :=
  inferInstanceAs (Decidable (_ ∨ _))

/-- Where the program counter stands after a word that was executed. -/
def successor? (w : Word) (m : Machine) (keys : Keypad) : Option Int :=
  if w.family.val = 0x1 ∨ w.family.val = 0x2 then some w.address.val
  else if w.family.val = 0xB then
    some ((w.address.val + m.registers.value Registers.offsetIndex) % 4096 : Nat)
  else if w = 0x00EE then m.top?.map fun a => (a : Int) + 2
  else if w.Extended 0x0A ∧ true ∉ keys then some m.registers.pc
  else if w.Skips m.registers keys then some (m.registers.pc + 4)
  else some (m.registers.pc + 2)

/-- Two words with the same operands of which one skips on a condition and the
other on its contrary. -/
def Opposes (w v : Word) : Prop :=
  w.family.val = 0x3 ∧ v.family.val = 0x4 ∧ v.x = w.x ∧ v.byte = w.byte ∨
  w.family.val = 0x5 ∧ w.nibble.val = 0x0 ∧ v.family.val = 0x9 ∧ v.nibble.val = 0x0 ∧
    v.x = w.x ∧ v.y = w.y ∨
  w.family.val = 0xE ∧ w.byte.toNat = 0x9E ∧ v.family.val = 0xE ∧ v.byte.toNat = 0xA1 ∧ v.x = w.x

end Word

/-! ## The words of an instruction -/

namespace Word

variable {w : Word}

/-- A word that neither goes elsewhere nor waits goes on behind itself, or
behind the word that it skips. -/
theorem successor?_of_forward (family : w.family.val ∉ [0x0, 0x1, 0x2, 0xB])
    (noWait : ¬w.Extended 0x0A) (m : Machine) (keys : Keypad) :
    w.successor? m keys =
      some (m.registers.pc + if w.Skips m.registers keys then 4 else 2) := by
  simp only [List.mem_cons, List.not_mem_nil, or_false, not_or] at family
  obtain ⟨hsystem, hjump, hcall, hoffset⟩ := family
  have hret : w ≠ 0x00EE := by
    rintro rfl
    exact hsystem (by decide)
  unfold successor?
  rw [if_neg (by omega), if_neg hoffset, if_neg hret, if_neg (fun h => noWait h.1)]
  split <;> rfl

variable {v : Word} {r : Registers} {keys : Keypad}

/-- Of two opposites one skips, if the keypad has the key that they ask for. -/
theorem Opposes.skips_iff (opposed : w.Opposes v)
    (answered : w.family.val = 0xE → ∃ down, keys[r.value w.x % 16]? = some down) :
    v.Skips r keys ↔ ¬w.Skips r keys := by
  unfold Skips
  rcases opposed with ⟨hw, hv, hx, hbyte⟩ | ⟨hw, hwnibble, hv, hvnibble, hx, hy⟩ |
    ⟨hw, hwbyte, hv, hvbyte, hx⟩
  · simp [hw, hv, hx, hbyte]
  · simp [hw, hv, hwnibble, hvnibble, hx, hy]
  · obtain ⟨down, hkey⟩ := answered hw
    simp [hw, hv, hx, hwbyte, hvbyte, hkey]

/-- Where two opposites lead from the same registers. -/
theorem Opposes.successor?_cases {m m' : Machine} (opposed : w.Opposes v)
    (same : m'.registers = m.registers)
    (answered : w.family.val = 0xE → ∃ down, keys[m'.registers.value w.x % 16]? = some down) :
    w.successor? m keys = some (m.registers.pc + 4) ∧
        v.successor? m' keys = some (m.registers.pc + 2) ∨
      w.successor? m keys = some (m.registers.pc + 2) ∧
        v.successor? m' keys = some (m.registers.pc + 4) := by
  have hskips := opposed.skips_iff answered
  have hforward : (w.family.val ∉ [0x0, 0x1, 0x2, 0xB] ∧ ¬w.Extended 0x0A) ∧
      v.family.val ∉ [0x0, 0x1, 0x2, 0xB] ∧ ¬v.Extended 0x0A := by
    unfold Extended
    rcases opposed with ⟨hw, hv, -⟩ | ⟨hw, -, hv, -⟩ | ⟨hw, -, hv, -⟩ <;> simp [hw, hv]
  obtain ⟨⟨hw, hwait⟩, hv, hwait'⟩ := hforward
  rw [successor?_of_forward hw hwait, successor?_of_forward hv hwait', ← same]
  by_cases h : w.Skips m'.registers keys <;> simp [hskips, h]

end Word

/-- The words of an instruction lead where the instruction leads. -/
theorem Instruction.Coded.successor?_eq {w : Word} {i : Instruction} (coded : i.Coded w)
    (m : Machine) (keys : Keypad) : w.successor? m keys = i.successor? m keys := by
  cases i with
  | clear =>
    obtain rfl := coded
    rfl
  | ret =>
    obtain rfl := coded
    rfl
  | jump | call =>
    obtain ⟨hfamily, rfl⟩ := coded
    rw [Word.successor?, if_pos (by omega)]
    rfl
  | jumpOffset =>
    obtain ⟨hfamily, rfl⟩ := coded
    rw [Word.successor?, if_neg (by omega), if_pos hfamily]
    rfl
  | awaitKey =>
    obtain ⟨hfamily, hbyte, rfl⟩ := coded
    have hret : w ≠ 0x00EE := by
      rintro rfl
      exact absurd hfamily (by decide)
    have hskips : ¬w.Skips m.registers keys := by simp [Word.Skips, hfamily]
    have hwait : w.Extended 0x0A := ⟨hfamily, hbyte⟩
    unfold Word.successor? successor?
    rw [if_neg (by omega), if_neg (by omega), if_neg hret, if_neg hskips]
    by_cases hdown : true ∈ keys <;> simp [hwait, hdown]
  | skipEqByte | skipNeByte | setByte | addByte | random =>
    obtain ⟨hfamily, rfl, rfl⟩ := coded
    rw [Word.successor?_of_forward (by simp [hfamily]) (by simp [Word.Extended, hfamily])]
    unfold successor?
    simp [Word.Skips, hfamily]
  | skipEq | skipNe | copy | or | and | xor | add | sub | subFrom =>
    obtain ⟨hfamily, hnibble, rfl, rfl⟩ := coded
    rw [Word.successor?_of_forward (by simp [hfamily]) (by simp [Word.Extended, hfamily])]
    unfold successor?
    simp [Word.Skips, hfamily, hnibble]
  | shiftRight | shiftLeft =>
    obtain ⟨hfamily, hnibble, rfl⟩ := coded
    rw [Word.successor?_of_forward (by simp [hfamily]) (by simp [Word.Extended, hfamily])]
    unfold successor?
    simp [Word.Skips, hfamily]
  | setIndex =>
    obtain ⟨hfamily, rfl⟩ := coded
    rw [Word.successor?_of_forward (by simp [hfamily]) (by simp [Word.Extended, hfamily])]
    unfold successor?
    simp [Word.Skips, hfamily]
  | draw =>
    have hfamily := coded.1
    rw [Word.successor?_of_forward (by simp [hfamily]) (by simp [Word.Extended, hfamily])]
    unfold successor?
    simp [Word.Skips, hfamily]
  | skipPressed | skipReleased | getDelay | setDelay | setSound | addIndex | glyph | digits
  | store | load =>
    obtain ⟨hfamily, hbyte, rfl⟩ := coded
    rw [Word.successor?_of_forward (by simp [hfamily]) (by simp [Word.Extended, hfamily, hbyte])]
    unfold successor?
    simp [Word.Skips, hfamily, hbyte]

/-! ## Calls, returns and skips -/

/-- Skipping or not, and then moving past the instruction itself. -/
theorem Registers.pc_skipIf (r : Registers) (b : Bool) :
    (r.skipIf b).skip.pc = r.pc + if b then 4 else 2 := by
  cases b with
  | false => rfl
  | true => exact Int.add_assoc r.pc 2 2

theorem Keypad.lowest?_eq_none_iff {keys : Keypad} : keys.lowest? = none ↔ true ∉ keys := by
  unfold lowest?
  rw [List.findIdx?_eq_none_iff]
  constructor
  · intro released down
    exact Bool.noConfusion (released true down)
  · intro released down hdown
    cases down with
    | false => rfl
    | true => exact absurd hdown released

namespace Machine

variable {m m' : Machine}

theorem pc_of_call {target : Nat} (called : m.call target = .ok m') :
    m'.registers.pc = target := by
  unfold call at called
  simp only at called
  split at called
  · cases called
  · split at called
    · cases called
    · split at called
      · cases called
      · injection called with called
        rw [← called]
        rfl

/-- A return that succeeds goes to the address in the topmost slot. -/
theorem top_of_ret (returned : m.ret = .ok m') :
    ∃ a : Nat, m.top? = some a ∧ m'.registers.pc = a := by
  unfold ret at returned
  simp only at returned
  split at returned
  · cases returned
  · rename_i hopen
    split at returned
    · cases returned
    · rename_i k hslot
      injection returned with returned
      have hk : (k.val : Int) = m.registers.sp := val_of_slotOf (by omega) hslot
      refine ⟨(m.stack.get k).toNat, ?_, by rw [← returned]; rfl⟩
      unfold top?
      rw [← hk, Index.ofInt?_val]
      rfl

end Machine

namespace Processor

variable {p q : Processor} {keys : Keypad} {i : Instruction} {flow : Flow}

/-! ## What an instruction and the step come to -/

theorem settle_flow_ok {attempt : Attempt} {flow' : Flow}
    (done : (p.settle attempt flow').flow = .ok flow) : flow = flow' := by
  cases attempt with
  | ok m => exact (Except.ok.inj done).symm
  | error halted => cases done

theorem announce_flow_ok (done : p.announce.flow = .ok flow) : flow = .advance := by
  unfold announce at done
  simp only at done
  split at done
  · exact (Except.ok.inj done).symm
  · cases done

/-- Only jumps, calls and the wait for a key keep the step from moving past
the instruction. -/
theorem advance_of_perform (done : (p.perform keys i).flow = .ok flow)
    (onward : i.redirects = false) : flow = .advance := by
  cases i with
  | jump | call | jumpOffset | awaitKey => cases onward
  | clear => exact announce_flow_ok done
  | draw x y rows =>
    simp only [perform] at done
    cases hdraw : p.machine.draw x y rows with
    | error halted =>
      rw [hdraw] at done
      cases done
    | ok drawn =>
      rw [hdraw] at done
      exact announce_flow_ok done
  | ret | skipPressed | skipReleased | getDelay | digits | store | load =>
    exact settle_flow_ok done
  | _ => exact (Except.ok.inj done).symm

theorem finish_pc (p : Processor) (flow : Flow) :
    (p.finish flow).registers.pc = p.registers.pc + if flow = .advance then 2 else 0 := by
  cases flow with
  | advance => rfl
  | stay => exact (Int.add_zero _).symm

/-- An instruction that leaves the program counter alone is followed by the
one behind it. -/
theorem finish_pc_of_untouched (done : (p.perform keys i).flow = .ok flow)
    (onward : i.redirects = false) (untouched : .pc ∉ i.touches p.machine) :
    ((p.perform keys i).processor.finish flow).registers.pc = p.machine.registers.pc + 2 := by
  have hsame : (p.perform keys i).processor.registers.pc = p.machine.registers.pc :=
    perform_same untouched
  rw [finish_pc, hsame, advance_of_perform done onward, if_pos rfl]

/-- An instruction that succeeds leads where `successor?` says. -/
theorem perform_successor (done : (p.perform keys i).flow = .ok flow) :
    i.successor? p.machine keys =
      some ((p.perform keys i).processor.finish flow).registers.pc := by
  have hskip := p.machine.registers.pc_skipIf
  cases i with
  | jump | jumpOffset =>
    obtain rfl := Except.ok.inj done
    rfl
  | call target =>
    obtain rfl := settle_flow_ok done
    simp only [perform] at done ⊢
    cases hcall : p.machine.call target with
    | error halted => simp [hcall, settle] at done
    | ok m => exact congrArg some (Machine.pc_of_call hcall).symm
  | ret =>
    obtain rfl := settle_flow_ok done
    simp only [perform] at done ⊢
    cases hret : p.machine.ret with
    | error halted => simp [hret, settle] at done
    | ok m =>
      obtain ⟨a, htop, hpc⟩ := Machine.top_of_ret hret
      unfold Instruction.successor?
      rw [htop, finish_pc, settle, if_pos rfl]
      exact congrArg (some <| · + 2) hpc.symm
  | awaitKey x =>
    simp only [perform, Machine.awaitKey] at done ⊢
    cases hkey : keys.lowest? with
    | none =>
      rw [hkey] at done
      obtain rfl := Except.ok.inj done
      exact congrArg some (if_neg (Keypad.lowest?_eq_none_iff.mp hkey))
    | some key =>
      have hdown : true ∈ keys := by
        by_contra released
        rw [Keypad.lowest?_eq_none_iff.mpr released] at hkey
        cases hkey
      rw [hkey] at done
      simp only at done ⊢
      cases hbyte : Byte.ofInt? key with
      | error f =>
        rw [hbyte] at done
        cases done
      | ok b =>
        rw [hbyte] at done
        obtain rfl := Except.ok.inj done
        exact congrArg some (if_pos hdown)
  | skipEqByte | skipNeByte | skipEq | skipNe =>
    obtain rfl := Except.ok.inj done
    refine congrArg some (Eq.trans ?_ (hskip _).symm)
    simp
  | skipPressed x =>
    simp only [perform, Machine.skipPressed] at done ⊢
    cases hdown : p.machine.keyDown x keys with
    | error f =>
      rw [hdown] at done
      cases done
    | ok down =>
      rw [hdown] at done
      obtain rfl := Except.ok.inj done
      refine congrArg some (Eq.trans ?_ (hskip down).symm)
      simp [Machine.keyDown_eq_ok_iff.mp hdown]
  | skipReleased x =>
    simp only [perform, Machine.skipReleased] at done ⊢
    cases hdown : p.machine.keyDown x keys with
    | error f =>
      rw [hdown] at done
      cases done
    | ok down =>
      rw [hdown] at done
      obtain rfl := Except.ok.inj done
      refine congrArg some (Eq.trans ?_ (hskip (!down)).symm)
      simp [Machine.keyDown_eq_ok_iff.mp hdown]
  | digits | store =>
    rw [finish_pc_of_untouched done rfl (by simp [Instruction.touches, Machine.span])]
    rfl
  | _ =>
    rw [finish_pc_of_untouched done rfl (by simp [Instruction.touches])]
    rfl

/-! ## Steps -/

/-- A step that succeeds leads where its word says. -/
theorem exists_successor {event : Option TimerEvent} (done : (p.step keys).result = .ok event) :
    ∃ w, p.machine.memory.fetch p.registers.pc = .ok w ∧
      w.successor? p.machine keys = some (p.step keys).processor.registers.pc := by
  cases p.stepCase keys with
  | unfetched f fetched step => rw [step] at done; cases done
  | undecoded w fetched decoded step => rw [step] at done; cases done
  | failed w i f fetched decoded flow step => rw [step] at done; cases done
  | done w i flow fetched decoded flowed step =>
    refine ⟨w, fetched, ?_⟩
    rw [(Instruction.coded_of_decode decoded).successor?_eq, step, ← perform_successor flowed,
      traced_machine]

variable {w v : Word}

/-- A word for a skip on a pressed key succeeds if the keypad has the key. -/
theorem exists_key {event : Option TimerEvent}
    (fetched : p.machine.memory.fetch p.registers.pc = .ok w) (family : w.family.val = 0xE)
    (byte : w.byte.toNat = 0x9E) (done : (p.step keys).result = .ok event) :
    ∃ down, keys[p.registers.value w.x % 16]? = some down := by
  have hdecode : Instruction.decode w = some (.skipPressed w.x) :=
    Instruction.decode_of_coded ⟨family, byte, rfl⟩
  rw [step_eq_carryOut fetched hdecode] at done
  cases hdown : p.machine.keyDown w.x keys with
  | ok down => exact ⟨down, Machine.keyDown_eq_ok_iff.mp hdown⟩
  | error f =>
    unfold carryOut perform at done
    simp only [record_machine, Machine.skipPressed, hdown] at done
    cases done

/-- Where one word of two opposites could test its condition, the other one can. -/
theorem exists_event_of_opposes (opposed : w.Opposes v)
    (fetched : q.machine.memory.fetch q.registers.pc = .ok v)
    (answered : w.family.val = 0xE → ∃ down, keys[q.registers.value w.x % 16]? = some down) :
    ∃ event, (q.step keys).result = .ok event := by
  rcases opposed with ⟨-, hfamily, -, -⟩ | ⟨-, -, hfamily, hnibble, -, -⟩ |
    ⟨hw, -, hfamily, hbyte, hx⟩
  · have hdecode : Instruction.decode v = some (.skipNeByte v.x v.byte) :=
      Instruction.decode_of_coded ⟨hfamily, rfl, rfl⟩
    rw [step_eq_carryOut fetched hdecode]
    exact ⟨none, rfl⟩
  · have hdecode : Instruction.decode v = some (.skipNe v.x v.y) :=
      Instruction.decode_of_coded ⟨hfamily, hnibble, rfl, rfl⟩
    rw [step_eq_carryOut fetched hdecode]
    exact ⟨none, rfl⟩
  · have hdecode : Instruction.decode v = some (.skipReleased v.x) :=
      Instruction.decode_of_coded ⟨hfamily, hbyte, rfl⟩
    obtain ⟨down, hkey⟩ := answered hw
    rw [← hx] at hkey
    have hdown : q.machine.keyDown v.x keys = .ok down := Machine.keyDown_eq_ok_iff.mpr hkey
    rw [step_eq_carryOut fetched hdecode]
    unfold carryOut perform
    simp only [record_machine, Machine.skipReleased, hdown]
    exact ⟨none, rfl⟩

/-! ## The statement -/

/-- **The program counter after a step.** Wherever a step succeeds, and so at
every moment of every run, the program goes on where the word that it executed
says. Of two opposite skips with the same operands, executed with the same
registers and keypad, exactly one skips. -/
theorem step_successor {event : Option TimerEvent} (done : (p.step keys).result = .ok event) :
    ∃ w, p.machine.memory.fetch p.registers.pc = .ok w ∧
      w.successor? p.machine keys = some (p.step keys).processor.registers.pc ∧
      ∀ (q : Processor) (v : Word), q.registers = p.registers →
        q.machine.memory.fetch q.registers.pc = .ok v → w.Opposes v →
        (∃ event', (q.step keys).result = .ok event') ∧
        ((p.step keys).processor.registers.pc = p.registers.pc + 4 ∧
            (q.step keys).processor.registers.pc = p.registers.pc + 2 ∨
          (p.step keys).processor.registers.pc = p.registers.pc + 2 ∧
            (q.step keys).processor.registers.pc = p.registers.pc + 4) := by
  obtain ⟨w, fetched, hpc⟩ := exists_successor done
  refine ⟨w, fetched, hpc, fun q v same fetched' opposed => ?_⟩
  have answered : w.family.val = 0xE → ∃ down, keys[q.registers.value w.x % 16]? = some down := by
    intro family
    rw [same]
    rcases opposed with ⟨hw, -⟩ | ⟨hw, -⟩ | ⟨-, byte, -⟩
    · omega
    · omega
    · exact exists_key fetched family byte done
  obtain ⟨event', done'⟩ := exists_event_of_opposes opposed fetched' answered
  refine ⟨⟨event', done'⟩, ?_⟩
  obtain ⟨v', hv, hpc'⟩ := exists_successor done'
  obtain rfl : v' = v := Except.ok.inj (hv.symm.trans fetched')
  rcases opposed.successor?_cases same answered with ⟨hw, hv⟩ | ⟨hw, hv⟩
  · exact Or.inl ⟨Option.some.inj (hpc.symm.trans hw), Option.some.inj (hpc'.symm.trans hv)⟩
  · exact Or.inr ⟨Option.some.inj (hpc.symm.trans hw), Option.some.inj (hpc'.symm.trans hv)⟩

/-- With key 0 down, E09E skips and E0A1 does not. -/
theorem step_successor_opposites :
    ∃ p q : Processor, ∃ keys : Keypad, p.Fresh ∧ q.Fresh ∧ q.registers = p.registers ∧
      (p.step keys).result = .ok none ∧ (q.step keys).result = .ok none ∧
      (p.step keys).processor.registers.pc = p.registers.pc + 4 ∧
      (q.step keys).processor.registers.pc = p.registers.pc + 2 := by
  have fresh : (boot [0xE0, 0x9E] (RandomSource.cycle []) 1 (by decide)).Fresh :=
    .intro (make_eq_ok_iff.mpr ⟨by decide, by decide, rfl⟩) [] false
  have fresh' : (boot [0xE0, 0xA1] (RandomSource.cycle []) 1 (by decide)).Fresh :=
    .intro (make_eq_ok_iff.mpr ⟨by decide, by decide, rfl⟩) [] false
  have done : ((boot [0xE0, 0x9E] (RandomSource.cycle []) 1 (by decide)).step
      (true :: List.replicate 15 false)).result = .ok none := by decide +kernel
  have done' : ((boot [0xE0, 0xA1] (RandomSource.cycle []) 1 (by decide)).step
      (true :: List.replicate 15 false)).result = .ok none := by decide +kernel
  have registers_boot : ∀ program, (boot program (RandomSource.cycle []) 1 (by decide)).registers =
      {} := fun _ => rfl
  have same := (registers_boot [0xE0, 0xA1]).trans (registers_boot [0xE0, 0x9E]).symm
  obtain ⟨w, fetched, hpc, hopposite⟩ := step_successor done
  obtain rfl : 0xE09E = w := Except.ok.inj (Eq.trans (by decide +kernel) fetched)
  obtain ⟨-, ⟨hskip, hnext⟩ | ⟨hnext, -⟩⟩ :=
    hopposite _ 0xE0A1 same (by decide +kernel) (Or.inr (Or.inr (by decide)))
  · exact ⟨_, _, _, fresh, fresh', same, done, done', hskip, hnext⟩
  · rw [hnext] at hpc
    exact absurd hpc (by decide +kernel)

end Processor

end Chip8
