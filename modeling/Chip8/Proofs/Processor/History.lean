/-
Chip8.Proofs.Processor.History — the trace is the recent history.

`lines` are the lines that a run writes: one for each word that is fetched
while tracing is on, with the registers as they are before the word is
executed. The trace keeps the last of them, as many as it has room for
(`Trace.toList_push`, `toList_trace_run`).

* `Trace.line_eq_join`, `Trace.line_eq_iff` — a line shows the word with its
  disassembly, the program counter, the index
  register, the stack pointer and the byte registers: they can be read off it.
* `pc_of_failed` — a step that fails leaves the program counter where it was,
  so that the last line of the trace tells where.
-/
import Mathlib.Data.List.DropRight
import Chip8.Proofs.Processor.Substitution

namespace Chip8

/-! ## The last of a list -/

/-- The last of the last entries, with what follows, are the last of all. -/
theorem rtake_rtake_append {α : Type} (n : Nat) (xs ys : List α) :
    (xs.rtake n ++ ys).rtake n = (xs ++ ys).rtake n := by
  simp only [List.rtake_eq_reverse_take_reverse, List.reverse_append, List.reverse_reverse,
    List.take_append, List.take_take, Nat.min_eq_left (Nat.sub_le _ _)]

theorem length_rtake {α : Type} (n : Nat) (xs : List α) : (xs.rtake n).length = min n xs.length := by
  unfold List.rtake
  rw [List.length_drop]
  omega

/-! ## The lines of a trace -/

namespace Trace

variable {r s : Registers} {w v : Word}

/-- **One line more, and the oldest goes** if there is no room for it. -/
theorem toList_push (t : Trace) (line : String) :
    (t.push line).toList = (t.toList ++ [line]).rtake capacity := by
  have hcount : (t.toList ++ [line]).length = t.lines.size + 1 := by
    rw [List.length_append, List.length_singleton]
    exact congrArg (· + 1) Array.length_toList
  unfold push
  split
  · have hall : t.lines.size + 1 - capacity = 0 := by omega
    rw [List.rtake, hcount, hall, List.drop_zero]
    exact Array.toList_push
  · rw [List.rtake, hcount]
    simp [toList, List.take_of_length_le]

/-- What a line of the trace shows of two moments is the same. -/
structure SameView (r s : Registers) (w v : Word) : Prop where
  word : w = v
  pc : r.pc = s.pc
  index : r.i = s.i
  sp : r.sp = s.sp
  bytes : r.v = s.v

theorem notMem_padded {c : Char} (other : ∀ d < 16, c ≠ Text.Hex.digit d) (width n : Nat) :
    c ∉ (Text.Hex.padded width n).toList := by
  intro hc
  obtain ⟨d, hd, hdigit⟩ := Text.Hex.exists_digit_of_mem_padded hc
  exact other d hd hdigit

theorem blank_notMem_padded (width n : Nat) : ' ' ∉ (Text.Hex.padded width n).toList :=
  notMem_padded (by decide) width n

/-- A blank ends what stands before it. -/
theorem bounded_blank (cs : List Char) : Assembly.Bounded ' ' (' ' :: cs) :=
  fun _ hc => (Option.some.inj hc).symm

/-- The numeral of a stack pointer is read back. -/
theorem sp_of_toString {m n : Int} (hm : -1 ≤ m ∧ m ≤ 15) (hn : -1 ≤ n ∧ n ≤ 15)
    (h : toString m = toString n) : m = n := by
  have hall : ∀ a b : Fin 17, toString ((a.val : Int) - 1) = toString ((b.val : Int) - 1) →
      a = b := by
    decide +kernel
  have hcast : ∀ k : Int, -1 ≤ k ∧ k ≤ 15 → ∃ a : Fin 17, k = (a.val : Int) - 1 :=
    fun k hk => ⟨⟨(k + 1).toNat, by omega⟩, by simp only; omega⟩
  obtain ⟨a, rfl⟩ := hcast m hm
  obtain ⟨b, rfl⟩ := hcast n hn
  rw [hall a b h]

theorem blank_notMem_sp {n : Int} (hn : -1 ≤ n ∧ n ≤ 15) : ' ' ∉ (toString n).toList := by
  have hall : ∀ a : Fin 17, ' ' ∉ (toString ((a.val : Int) - 1)).toList := by decide +kernel
  obtain ⟨a, rfl⟩ : ∃ a : Fin 17, n = (a.val : Int) - 1 :=
    ⟨⟨(n + 1).toNat, by omega⟩, by simp only; omega⟩
  exact hall a

/-- Parts with blanks between them are read back, if there is no blank in any. -/
theorem parts_of_intercalate {ps qs : List String} (length : ps.length = qs.length)
    (hps : ∀ p ∈ ps, ' ' ∉ p.toList) (hqs : ∀ q ∈ qs, ' ' ∉ q.toList)
    (h : " ".intercalate ps = " ".intercalate qs) : ps = qs := by
  induction ps generalizing qs with
  | nil => exact (List.length_eq_zero_iff.mp length.symm).symm
  | cons p ps ih =>
    cases qs with
    | nil => cases length
    | cons q qs =>
      have hrest : ps.length = qs.length := Nat.succ.inj length
      obtain ⟨hp, hps⟩ := List.forall_mem_cons.mp hps
      obtain ⟨hq, hqs⟩ := List.forall_mem_cons.mp hqs
      cases ps with
      | nil =>
        obtain rfl := List.length_eq_zero_iff.mp hrest.symm
        simpa using h
      | cons p' ps =>
        cases qs with
        | nil => cases hrest
        | cons q' qs =>
          have hseparator : " ".toList = [' '] := rfl
          have hchars := congrArg String.toList h
          simp only [String.intercalate_cons_cons, String.toList_append, hseparator,
            List.append_assoc, List.singleton_append] at hchars
          obtain ⟨hfirst, hothers⟩ := Assembly.append_inj_of_bounded hp hq (bounded_blank _)
            (bounded_blank _) hchars
          have htail := ih hrest hps hqs (String.toList_inj.mp (List.cons.inj hothers).2)
          rw [String.toList_inj.mp hfirst, htail]

/-- Bytes in hexadecimal with blanks between them are read back. -/
theorem bytes_of_intercalate {bs cs : List Byte} (length : bs.length = cs.length)
    (h : " ".intercalate (bs.map fun b => Text.Hex.padded 2 b.toNat) =
      " ".intercalate (cs.map fun b => Text.Hex.padded 2 b.toNat)) : bs = cs := by
  have hblank : ∀ bs : List Byte,
      ∀ p ∈ bs.map fun b => Text.Hex.padded 2 b.toNat, ' ' ∉ p.toList := by
    intro bs p hp
    obtain ⟨b, -, rfl⟩ := List.mem_map.mp hp
    exact blank_notMem_padded 2 b.toNat
  have hparts := parts_of_intercalate (by simpa using length) (hblank bs) (hblank cs) h
  exact List.map_injective_iff.mpr
    (fun _ _ hbyte => UInt8.toNat_inj.mp (Text.Hex.padded_injective hbyte)) hparts

/-- A line, field by field. -/
theorem toList_line (r : Registers) (w : Word) :
    (line r w).toList =
      (Text.Hex.padded 3 r.pc).toList ++ ':' :: ' ' :: ((Text.Hex.padded 4 w.toNat).toList ++
        ' ' :: ((filled 16 (Pattern.disassemble w)).toList ++
          ' ' :: '|' :: ' ' :: 'I' :: ':' :: ' ' :: ((Text.Hex.padded 3 r.i).toList ++
            ' ' :: '|' :: ' ' :: 'S' :: 'P' :: ':' :: ' ' :: ((toString r.sp).toList ++
              ' ' :: '|' :: ' ' :: 'V' :: ':' :: ' ' ::
                (" ".intercalate
                  (r.v.toList.map fun b => Text.Hex.padded 2 b.toNat)).toList)))) := by
  have htoString : ∀ s : String, toString s = s := fun _ => rfl
  simp [line_eq, behindWord, htoString]

/-- The texts of a line, one after the other: the program counter, the word, its
disassembly, the index register, the stack pointer and the byte registers. -/
def lineTexts (r : Registers) (w : Word) : List String :=
  [Text.Hex.padded 3 r.pc, ": ", Text.Hex.padded 4 w.toNat, " ",
    filled 16 (Pattern.disassemble w), " | I: ", Text.Hex.padded 3 r.i, " | SP: ", toString r.sp,
    " | V: ", " ".intercalate (r.v.toList.map fun b => Text.Hex.padded 2 b.toNat)]

theorem line_eq_join (r : Registers) (w : Word) : line r w = String.join (lineTexts r w) := by
  refine String.toList_inj.mp ?_
  rw [toList_line]
  simp [lineTexts, String.join]

/-- **A line shows a word and the registers that go with it**, and nothing else
of the registers. -/
theorem line_eq_iff {top : Int} (hr : r.InRange top) (hs : s.InRange top) :
    line r w = line s v ↔ SameView r s w v := by
  constructor
  · intro h
    obtain ⟨pc, hpc⟩ := Int.eq_ofNat_of_zero_le hr.pc_nonneg
    obtain ⟨pc', hpc'⟩ := Int.eq_ofNat_of_zero_le hs.pc_nonneg
    obtain ⟨i, hi⟩ := Int.eq_ofNat_of_zero_le hr.i_nonneg
    obtain ⟨i', hi'⟩ := Int.eq_ofNat_of_zero_le hs.i_nonneg
    have hsp : -1 ≤ r.sp ∧ r.sp ≤ 15 := ⟨hr.sp_ge, hr.sp_le⟩
    have hsp' : -1 ≤ s.sp ∧ s.sp ≤ 15 := ⟨hs.sp_ge, hs.sp_le⟩
    have hcolon : ∀ cs : List Char, Assembly.Bounded ':' (':' :: cs) :=
      fun _ _ hc => (Option.some.inj hc).symm
    have hchars := congrArg String.toList h
    rw [toList_line, toList_line, hpc, hpc', hi, hi'] at hchars
    -- field after field, each up to the character that ends it
    obtain ⟨hfirst, hrest⟩ := Assembly.append_inj_of_bounded (notMem_padded (by decide) 3 pc)
      (notMem_padded (by decide) 3 pc') (hcolon _) (hcolon _) hchars
    simp only [List.cons.injEq, true_and] at hrest
    obtain ⟨hword, hrest⟩ := Assembly.append_inj_of_bounded (blank_notMem_padded 4 w.toNat)
      (blank_notMem_padded 4 v.toNat) (bounded_blank _) (bounded_blank _) hrest
    obtain rfl : w = v :=
      UInt16.toNat_inj.mp (Text.Hex.padded_injective (String.toList_inj.mp hword))
    simp only [List.cons.injEq, true_and, List.append_cancel_left_eq] at hrest
    obtain ⟨hindex, hrest⟩ := Assembly.append_inj_of_bounded (blank_notMem_padded 3 i)
      (blank_notMem_padded 3 i') (bounded_blank _) (bounded_blank _) hrest
    simp only [List.cons.injEq, true_and] at hrest
    obtain ⟨hpointer, hrest⟩ := Assembly.append_inj_of_bounded (blank_notMem_sp hsp)
      (blank_notMem_sp hsp') (bounded_blank _) (bounded_blank _) hrest
    simp only [List.cons.injEq, true_and] at hrest
    have hbytes : r.v.toList = s.v.toList :=
      bytes_of_intercalate (by simp) (String.toList_inj.mp hrest)
    exact {
      word := rfl
      pc := by rw [hpc, hpc', Text.Hex.padded_injective (String.toList_inj.mp hfirst)]
      index := by rw [hi, hi', Text.Hex.padded_injective (String.toList_inj.mp hindex)]
      sp := sp_of_toString hsp hsp' (String.toList_inj.mp hpointer)
      bytes := Vector.toList_inj.mp hbytes }
  · rintro ⟨rfl, hpc, hindex, hsp, hbytes⟩
    simp only [line_eq, behindWord, hpc, hindex, hsp, hbytes]

end Trace

/-! ## Failures and the program counter -/

theorem Machine.pc_of_call_error {m : Machine} {target : Nat} {halted : Halted}
    (failed : m.call target = .error halted) : halted.machine.registers.pc = m.registers.pc := by
  unfold call at failed
  simp only at failed
  split at failed
  · injection failed with failed
    rw [← failed]
  · split at failed
    · injection failed with failed
      rw [← failed]
      rfl
    · split at failed
      · injection failed with failed
        rw [← failed]
        rfl
      · cases failed

namespace Processor

variable {p : Processor} {keys : Keypad} {w : Word}

/-- An instruction that fails leaves the program counter alone. -/
theorem pc_of_failed {i : Instruction} {f : Fault} (failed : (p.perform keys i).flow = .error f) :
    (p.perform keys i).processor.registers.pc = p.registers.pc := by
  have hsame : .pc ∉ i.touches p.machine →
      (p.perform keys i).processor.registers.pc = p.registers.pc := fun h => perform_same h
  cases i with
  | jump | jumpOffset | skipEqByte | skipNeByte | skipEq | skipNe => cases failed
  | ret =>
    simp only [perform] at failed ⊢
    unfold Machine.ret at failed ⊢
    simp only at failed ⊢
    split at failed <;> rename_i hsp
    · rw [if_pos hsp]
      rfl
    · rw [if_neg hsp]
      cases hslot : Machine.slotOf p.machine.registers.sp with
      | error g => rfl
      | ok k =>
        rw [hslot] at failed
        cases failed
  | call target =>
    simp only [perform] at failed ⊢
    cases hcall : p.machine.call target with
    | error halted => exact Machine.pc_of_call_error hcall
    | ok m =>
      rw [hcall] at failed
      cases failed
  | skipPressed x =>
    simp only [perform, Machine.skipPressed] at failed ⊢
    cases hdown : p.machine.keyDown x keys with
    | error g => rfl
    | ok down =>
      rw [hdown] at failed
      cases failed
  | skipReleased x =>
    simp only [perform, Machine.skipReleased] at failed ⊢
    cases hdown : p.machine.keyDown x keys with
    | error g => rfl
    | ok down =>
      rw [hdown] at failed
      cases failed
  | digits | store => exact hsame (by simp [Instruction.touches, Machine.span])
  | _ => exact hsame (by simp [Instruction.touches])

/-- **A step that fails leaves the program counter alone.** -/
theorem step_pc_of_failed {f : Fault} (failed : (p.step keys).result = .error f) :
    (p.step keys).processor.registers.pc = p.registers.pc := by
  have htraced : p.traced.registers = p.registers := congrArg Machine.registers p.traced_machine
  cases p.stepCase keys with
  | unfetched g fetched step => rw [step]
  | undecoded w fetched decoded step =>
    rw [step]
    exact congrArg Registers.pc htraced
  | failed w i g fetched decoded flow step =>
    rw [step]
    exact (pc_of_failed flow).trans (congrArg Registers.pc htraced)
  | done w i flow fetched decoded flowed step =>
    rw [step] at failed
    cases failed

/-! ## The history -/

/-- The line that a command writes: that of the next word, if the command is a
step, a word can be fetched and tracing is on. -/
def line? (p : Processor) : Command → Option String
  | .step _ =>
      match p.machine.memory.fetch p.registers.pc with
      | .ok w => if p.tracing then some (Trace.line p.registers w) else none
      | .error _ => none
  | .wait _ | .load _ | .trace _ => none

/-- The lines that commands write, in order. -/
def lines (p : Processor) : List Command → List String
  | [] => []
  | c :: cs => (p.line? c).toList ++ (p.obey c).lines cs

theorem trace_step_of_unfetched {f : Fault}
    (unfetched : p.machine.memory.fetch p.registers.pc = .error f) (keys : Keypad) :
    (p.step keys).processor.trace = p.trace := by
  unfold step
  rw [unfetched]

/-- A step whose word is fetched adds its line, if tracing is on. -/
theorem trace_step_of_fetched (fetched : p.machine.memory.fetch p.registers.pc = .ok w)
    (keys : Keypad) :
    (p.step keys).processor.trace =
      if p.tracing then p.trace.push (Trace.line p.registers w) else p.trace := by
  rw [(step_trace fetched keys).1]
  unfold record
  split <;> rfl

/-- **A command adds its line to the trace**, and changes nothing else of it. -/
theorem obey_trace (p : Processor) (c : Command) :
    (p.obey c).trace =
      match p.line? c with
      | some line => p.trace.push line
      | none => p.trace := by
  cases c with
  | step keys =>
    show (p.step keys).processor.trace = _
    unfold line?
    cases hfetch : p.machine.memory.fetch p.registers.pc with
    | error f => exact trace_step_of_unfetched hfetch keys
    | ok w =>
      rw [trace_step_of_fetched hfetch]
      cases p.tracing <;> rfl
  | load program =>
    rw [obey_load]
    rfl
  | wait delta => rfl
  | trace on => rfl

/-- A command leaves the last lines of what there was and what it adds. -/
theorem toList_trace_obey (room : p.trace.toList.length ≤ Trace.capacity) (c : Command) :
    (p.obey c).trace.toList =
      (p.trace.toList ++ (p.line? c).toList).rtake Trace.capacity := by
  rw [obey_trace]
  cases p.line? c with
  | some line => exact Trace.toList_push p.trace line
  | none =>
    rw [Option.toList_none, List.append_nil, List.rtake, Nat.sub_eq_zero_of_le room]
    rfl

/-- **The trace of a run holds the last of its lines.** -/
theorem toList_trace_run (room : p.trace.toList.length ≤ Trace.capacity) (cs : List Command) :
    (p.run cs).trace.toList = (p.trace.toList ++ p.lines cs).rtake Trace.capacity := by
  induction cs generalizing p with
  | nil =>
    rw [lines, List.append_nil, List.rtake, Nat.sub_eq_zero_of_le room]
    rfl
  | cons c cs ih =>
    have hnow := toList_trace_obey room c
    have hroom : (p.obey c).trace.toList.length ≤ Trace.capacity := by
      rw [hnow, length_rtake]
      exact min_le_left _ _
    show ((p.obey c).run cs).trace.toList = _
    rw [ih hroom, hnow, rtake_rtake_append, lines, List.append_assoc]

theorem Fresh.trace {p : Processor} (fresh : p.Fresh) : p.trace = {} := by
  obtain ⟨made, listeners, tracing⟩ := fresh
  obtain ⟨-, -, rfl⟩ := make_eq_ok_iff.mp made
  rfl

/-- The last line after a step whose word was fetched. -/
theorem getLast?_trace_step (tracing : p.tracing = true)
    (fetched : p.machine.memory.fetch p.registers.pc = .ok w)
    (keys : Keypad) :
    (p.step keys).processor.trace.toList.getLast? = some (Trace.line p.registers w) := by
  rw [trace_step_of_fetched fetched, if_pos tracing, Trace.toList_push]
  have hcapacity : Trace.capacity = 1023 + 1 := rfl
  rw [hcapacity, List.rtake_concat_succ, List.getLast?_concat]

/-- **The trace is the recent history.** At every moment of every run, however
tracing was switched, the trace holds the last lines of the words fetched while
it was on, 1024 or as many as there were, each written before its word was
executed. A line shows the program counter, the word, its disassembly, the index
register, the stack pointer and the byte registers, and is the line of no other
moment in which one of them differs. When a step fails with tracing on, either no word was
fetched and the trace is as it was, or its last line is that of the word that
failed, at the program counter where the step left it. -/
theorem trace_is_recent_history (fresh : p.Fresh) (cs : List Command) :
    let q := p.run cs
    q.trace.toList = (p.lines cs).rtake 1024 ∧
    q.trace.toList.length = min 1024 (p.lines cs).length ∧
    (∀ w, Trace.line q.registers w = String.join (Trace.lineTexts q.registers w)) ∧
    (∀ q' : Processor, q'.Regular → ∀ w v : Word,
      Trace.line q.registers w = Trace.line q'.registers v ↔
        Trace.SameView q.registers q'.registers w v) ∧
    ∀ keys f, (q.step keys).result = .error f →
      (q.step keys).processor.registers.pc = q.registers.pc ∧
      (∀ w, q.machine.memory.fetch q.registers.pc = .ok w → q.tracing = true →
        (q.step keys).processor.trace.toList.getLast? = some (Trace.line q.registers w)) ∧
      ∀ g, q.machine.memory.fetch q.registers.pc = .error g →
        (q.step keys).processor.trace = q.trace := by
  intro q
  have hempty : p.trace.toList = [] := by
    rw [fresh.trace]
    rfl
  have htrace : q.trace.toList = (p.lines cs).rtake Trace.capacity := by
    have hrun := toList_trace_run (p := p) (by rw [hempty]; exact Nat.zero_le _) cs
    rwa [hempty, List.nil_append] at hrun
  have hlength : q.trace.toList.length = min Trace.capacity (p.lines cs).length := by
    rw [htrace, length_rtake]
  refine ⟨htrace, hlength, Trace.line_eq_join q.registers, ?_,
    fun keys f failed => ⟨step_pc_of_failed failed, ?_, ?_⟩⟩
  · intro q' regular w v
    exact Trace.line_eq_iff (fresh.regular.run cs).machine.registers regular.machine.registers
  · intro w fetched tracing
    exact getLast?_trace_step tracing fetched keys
  · intro g unfetched
    exact trace_step_of_unfetched unfetched keys

/-- With tracing on from the second step on, a return without a call fails twice,
and writes its line both times. -/
theorem trace_is_recent_history_lone_return :
    ∃ p : Processor, p.Fresh ∧
      let q := p.run [.step Keypad.released, .trace true, .step Keypad.released]
      let line := "202: 00EE RET              | I: 000 | SP: -1 | V: 05" ++
        String.join (List.replicate 15 " 00")
      q.trace.toList = [line] ∧ (q.step Keypad.released).result = .error (.stackUnderflow 0x202) ∧
      (q.step Keypad.released).processor.trace.toList.getLast? = some line := by
  have fresh : ({ boot [0x60, 0x05, 0x00, 0xEE] (RandomSource.cycle []) 1 (by decide) with
      listeners := [.named "screen"], tracing := false } : Processor).Fresh :=
    .intro (make_eq_ok_iff.mpr ⟨by decide, by decide, rfl⟩) [.named "screen"] false
  obtain ⟨htrace, -, -, -, hfailed⟩ := trace_is_recent_history fresh
    [.step Keypad.released, .trace true, .step Keypad.released]
  obtain ⟨-, hlast, -⟩ := hfailed Keypad.released (.stackUnderflow 0x202) (by decide +kernel)
  refine ⟨_, fresh, htrace.trans ?_, by decide +kernel, ?_⟩
  · decide +kernel
  · exact (hlast 0x00EE (by decide +kernel) (by decide +kernel)).trans (by decide +kernel)

end Processor

end Chip8
