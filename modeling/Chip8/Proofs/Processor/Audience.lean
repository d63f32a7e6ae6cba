/-
Chip8.Proofs.Processor.Audience — what the listeners get to see.

The next step makes a picture or makes none (`painting?`). One that makes a
picture hands it to the listeners before the first that cannot be called
(`step_of_painting`); one that makes none hands out nothing and leaves the
picture (`step_of_no_painting`), and so does every other command
(`emitted_received`). So what a listener received last is the picture of the
machine, at every moment of every run (`journal_received`).

`audience_follows_picture` puts this together, for listeners that can all be
called and for a row of listeners with one that cannot. In the second case
the step is compared with the same step before the callable ones alone
(`Interrupted`): the picture is made, and the step is not counted.
-/
import Chip8.Proofs.Processor.Footprint
import Chip8.Proofs.Processor.Run

namespace Chip8

/-! ## Pictures in a journal -/

/-- The picture that an effect hands to a listener. -/
def Entry.picture? : Entry → Option (String × Frame)
  | .frame listener picture => some (listener, picture)
  | .poll | .keypad | .toneOn | .toneOff | .log _ => none

namespace Journal

/-- The pictures handed out, in order, each with the listener that got it. -/
def pictures (j : Journal) : List (String × Frame) := j.filterMap Entry.picture?

/-- The pictures that one listener received, in order. -/
def received (listener : String) (j : Journal) : List Frame :=
  j.pictures.filterMap fun shown => if shown.1 = listener then some shown.2 else none

@[simp] theorem pictures_append (j k : Journal) :
    pictures (j ++ k) = pictures j ++ pictures k := List.filterMap_append

@[simp] theorem received_append (listener : String) (j k : Journal) :
    received listener (j ++ k) = received listener j ++ received listener k := by
  unfold received
  rw [pictures_append, List.filterMap_append]

/-- Log records hand out no picture. -/
theorem pictures_of_logs {j : Journal} (h : ∀ e ∈ j, ∃ r, e = .log r) : pictures j = [] := by
  refine List.filterMap_eq_nil_iff.mpr fun e he => ?_
  obtain ⟨r, rfl⟩ := h e he
  rfl

/-- A picture that was handed to every one of several listeners is the last
that each of them received. -/
theorem getLast?_received {names : List String} {listener : String} {picture : Frame} {j : Journal}
    (h : j.pictures = names.map fun name => (name, picture)) (member : listener ∈ names) :
    (j.received listener).getLast? = some picture := by
  have hall : ∀ f ∈ j.received listener, f = picture := by
    intro f hf
    unfold received at hf
    rw [h] at hf
    simp only [List.filterMap_map, List.mem_filterMap, Function.comp_apply,
      Option.ite_none_right_eq_some, Option.some.injEq] at hf
    obtain ⟨-, -, -, rfl⟩ := hf
    rfl
  have hsome : picture ∈ j.received listener := by
    unfold received
    rw [h, List.filterMap_map, List.mem_filterMap]
    exact ⟨listener, member, if_pos rfl⟩
  have hne := List.ne_nil_of_mem hsome
  rw [List.getLast?_eq_some_getLast hne, hall _ (List.getLast_mem hne)]

end Journal

/-- The listeners that are reached: those before the first that cannot be
called. -/
def Listener.reached : List Listener → List String
  | .named name :: rest => name :: reached rest
  | .dead :: _ | [] => []

@[simp] theorem Listener.reached_named (names : List String) :
    reached (names.map .named) = names := by
  induction names with
  | nil => rfl
  | cons name names ih => exact congrArg (name :: ·) ih

theorem Listener.reached_dead (names : List String) (rest : List Listener) :
    reached (names.map .named ++ .dead :: rest) = names := by
  induction names with
  | nil => rfl
  | cons name names ih => exact congrArg (name :: ·) ih

theorem Listener.dead_notMem_named (names : List String) : dead ∉ names.map named := by
  rw [List.mem_map]
  rintro ⟨name, -, h⟩
  cases h

/-- Whether an instruction is one of the two that make pictures. -/
def Instruction.paints : Instruction → Bool
  | .clear | .draw .. => true
  | _ => false

namespace Machine

variable {m m' : Machine} {i : Instruction}

theorem draw_error {x y : Index} {rows : Nat} {halted : Halted}
    (h : m.draw x y rows = .error halted) : halted.machine = m := by
  unfold draw at h
  split at h
  · injection h with h
    rw [← h]
  · split at h
    · injection h with h
      rw [← h]
    · cases h

theorem paints_of_painted (h : m.painted? i = some m') : i.paints = true := by
  cases i with
  | clear | draw => rfl
  | _ => cases h

/-- Making a picture does not move the program counter. -/
theorem painted_pc (h : m.painted? i = some m') : m'.registers.pc = m.registers.pc := by
  cases i with
  | clear =>
    injection h with h
    rw [← h]
    rfl
  | draw x y rows =>
    have hsame : Part.pc.Same m (m.draw x y rows).machine :=
      Part.same_draw (by simp) (by simp)
    rw [painted_draw_eq_some.mp h] at hsame
    exact hsame
  | _ => cases h

end Machine

namespace Processor

variable {p : Processor} {m : Machine} {i : Instruction}

/-! ## One instruction -/

/-- A picture is handed to the listeners that are reached, in their order. -/
theorem announce_journal (p : Processor) :
    p.announce.journal = (Listener.reached p.listeners).map (.frame · p.machine.frame) := by
  unfold announce
  simp only
  induction p.listeners with
  | nil => rfl
  | cons l ls ih =>
    cases l with
    | named name => exact congrArg (Entry.frame name p.machine.frame :: ·) ih
    | dead => rfl

theorem announce_pictures (p : Processor) :
    p.announce.journal.pictures =
      (Listener.reached p.listeners).map fun name => (name, p.machine.frame) := by
  rw [announce_journal]
  unfold Journal.pictures
  rw [List.filterMap_map]
  exact congrFun (List.filterMap_eq_map (f := fun name => (name, p.machine.frame))) _

/-- One that cannot be called ends the row. -/
theorem announce_flow_of_dead (h : Listener.dead ∈ p.listeners) :
    p.announce.flow = .error .deadListener := by
  unfold announce
  simp only
  refine if_neg fun hlength => ?_
  have hall := (List.takeWhile_prefix (· ≠ Listener.dead)).eq_of_length hlength
  rw [List.takeWhile_eq_self_iff] at hall
  exact absurd rfl (of_decide_eq_true (hall _ h))

/-- An instruction that makes no picture hands out none. -/
theorem perform_pictures (h : p.machine.painted? i = none) (keys : Keypad) :
    (p.perform keys i).journal.pictures = [] := by
  rcases perform_journal h keys with hj | hj <;> rw [hj] <;> rfl

/-- An instruction that makes no picture leaves the one there is. -/
theorem perform_frame (h : p.machine.painted? i = none) (keys : Keypad) :
    (p.perform keys i).processor.machine.frame = p.machine.frame := by
  cases i with
  | clear => cases h
  | draw x y rows =>
    obtain ⟨halted, hdraw⟩ := Machine.painted_draw_eq_none.mp h
    simp only [perform]
    rw [hdraw]
    exact congrArg Machine.frame (Machine.draw_error hdraw)
  | _ =>
    refine perform_same (q := .picture) ?_
    simp [Instruction.touches, Machine.span]

/-- An instruction of the two that make pictures fails if it made none, and
the machine alone decides with what fault. -/
theorem exists_fault_of_unpainted (h : m.painted? i = none) (paints : i.paints = true) :
    ∃ f, ∀ (p : Processor) (keys : Keypad), p.machine = m →
      (p.perform keys i).flow = .error f := by
  cases i with
  | clear => cases h
  | draw x y rows =>
    obtain ⟨halted, hdraw⟩ := Machine.painted_draw_eq_none.mp h
    refine ⟨halted.fault, fun p keys hp => ?_⟩
    rw [← hp] at hdraw
    simp only [perform]
    rw [hdraw]
    rfl
  | _ => cases paints

/-! ## One step -/

/-- The next step executes one of the two instructions that make pictures. -/
def Paints (p : Processor) : Prop := ∃ i, p.next? = some i ∧ i.paints = true

/-- The machine with the picture that the next step makes, if it makes one. -/
def painting? (p : Processor) : Option Machine := p.next?.bind p.machine.painted?

/-- What a step hands out is what its instruction hands out; the trace hands
out nothing. -/
theorem step_pictures_of_next (hnext : p.next? = some i) (keys : Keypad) :
    (p.step keys).journal.pictures = (p.traced.perform keys i).journal.pictures := by
  obtain ⟨w, ⟨f, -, hstep⟩ | ⟨flow, -, hstep⟩⟩ := stepCase_of_next hnext keys
  all_goals
    rw [hstep, Journal.pictures_append,
      Journal.pictures_of_logs fun _ he => log_of_mem_record he, List.nil_append]

/-- A step that makes a picture hands it to the listeners that are reached.
It succeeds and moves on if they are all; else it stops with the picture
made, and does not count. -/
theorem step_of_painting (h : p.painting? = some m) (keys : Keypad) :
    (p.step keys).journal.pictures =
        ((Listener.reached p.listeners).map fun name => (name, m.frame)) ∧
      (Listener.dead ∉ p.listeners →
        (p.step keys).result = .ok none ∧
          (p.step keys).processor.machine = m.mapRegisters Registers.skip) ∧
      (Listener.dead ∈ p.listeners →
        (p.step keys).result = .error .deadListener ∧ (p.step keys).processor.machine = m) := by
  obtain ⟨i, hnext, hpaint⟩ := Option.bind_eq_some_iff.mp h
  rw [← traced_machine] at hpaint
  have hperform := perform_of_painted hpaint keys
  have hlisteners : (p.traced.withMachine m).listeners = p.listeners := traced_listeners p
  refine ⟨?_, ?_, ?_⟩
  · rw [step_pictures_of_next hnext, hperform, announce_pictures, hlisteners]
    rfl
  · intro callable
    rw [← hlisteners] at callable
    have hflow := announce_flow callable
    rw [← hperform] at hflow
    obtain ⟨hresult, hprocessor⟩ := step_of_next hnext hflow
    rw [hresult, hprocessor, hperform]
    exact ⟨rfl, rfl⟩
  · intro dead
    rw [← hlisteners] at dead
    have hflow := announce_flow_of_dead dead
    rw [← hperform] at hflow
    obtain ⟨hresult, hprocessor⟩ := step_of_next_error hnext hflow
    rw [hresult, hprocessor, hperform]
    exact ⟨rfl, rfl⟩

/-- Either way the picture that was made is the picture there is. -/
theorem step_frame_of_painting (h : p.painting? = some m) (keys : Keypad) :
    (p.step keys).processor.machine.frame = m.frame := by
  obtain ⟨-, hcallable, hdead⟩ := step_of_painting h keys
  by_cases hany : Listener.dead ∈ p.listeners
  · rw [(hdead hany).2]
  · rw [(hcallable hany).2]
    rfl

/-- A step that makes no picture hands out none and leaves the one there is. -/
theorem step_of_no_painting (h : p.painting? = none) (keys : Keypad) :
    (p.step keys).journal.pictures = [] ∧
      (p.step keys).processor.machine.frame = p.machine.frame := by
  cases hnext : p.next? with
  | none =>
    unfold next? at hnext
    cases p.stepCase keys with
    | unfetched f fetched step =>
      rw [step]
      exact ⟨rfl, rfl⟩
    | undecoded w fetched decoded step =>
      rw [step, traced_machine, Journal.pictures_append,
        Journal.pictures_of_logs fun _ he => log_of_mem_record he]
      exact ⟨rfl, rfl⟩
    | failed w i f fetched decoded flow step =>
      simp only [fetched, decoded] at hnext
      cases hnext
    | done w i flow fetched decoded flowed step =>
      simp only [fetched, decoded] at hnext
      cases hnext
  | some i =>
    have hpaint : p.traced.machine.painted? i = none := by
      unfold painting? at h
      rwa [hnext, Option.bind_some, ← traced_machine] at h
    refine ⟨?_, ?_⟩
    · rw [step_pictures_of_next hnext, perform_pictures hpaint]
    · have hframe := perform_frame hpaint keys
      rw [traced_machine] at hframe
      cases hflow : (p.traced.perform keys i).flow with
      | error f => rw [(step_of_next_error hnext hflow).2, hframe]
      | ok flow => rw [(step_of_next hnext hflow).2, finish_machine, ← hframe]; rfl

/-- A step with one of the two instructions makes a picture, or fails with
what the machine alone decides. -/
theorem painting_or_fault (paints : p.Paints) :
    (∃ m, p.painting? = some m) ∨
      p.painting? = none ∧ ∃ f, ∀ (listeners : List Listener) (keys : Keypad),
        ({ p with listeners }.step keys).result = .error f := by
  obtain ⟨i, hnext, hi⟩ := paints
  have hpainting : p.painting? = p.machine.painted? i := by
    unfold painting?
    rw [hnext, Option.bind_some]
  cases hpaint : p.machine.painted? i with
  | some m => exact Or.inl ⟨m, hpainting.trans hpaint⟩
  | none =>
    obtain ⟨f, hfails⟩ := exists_fault_of_unpainted hpaint hi
    refine Or.inr ⟨hpainting.trans hpaint, f, fun listeners keys => ?_⟩
    have hflow := hfails ({ p with listeners } : Processor).traced keys (traced_machine _)
    exact (step_of_next_error (p := { p with listeners }) hnext hflow).1

/-- A step with any other instruction, or with none, makes no picture. -/
theorem painting_of_not_paints (h : ¬p.Paints) : p.painting? = none := by
  rw [Option.eq_none_iff_forall_ne_some]
  intro m hm
  obtain ⟨i, hnext, hpaint⟩ := Option.bind_eq_some_iff.mp hm
  exact h ⟨i, hnext, Machine.paints_of_painted hpaint⟩

/-! ## Commands and runs -/

/-- What a command does on the outside. -/
def emitted (p : Processor) : Command → Journal
  | .step keys => (p.step keys).journal
  | .wait delta => (p.updateTimers delta).journal
  | .load program => (p.load program).2
  | .trace _ => []

/-- What a run does on the outside. -/
def journal (p : Processor) : List Command → Journal
  | [] => []
  | c :: cs => p.emitted c ++ (p.obey c).journal cs

theorem updateTimers_pictures (p : Processor) (delta : Int) :
    (p.updateTimers delta).journal.pictures = [] :=
  Journal.pictures_of_logs fun _ he => log_of_mem_updateTimers he

theorem load_pictures (p : Processor) (program : List Byte) :
    (p.load program).2.pictures = [] := by
  unfold load
  split <;> rfl

/-- **A command hands a listener the new picture, or leaves the picture it
has.** -/
theorem emitted_received {listener : String} (reached : listener ∈ Listener.reached p.listeners)
    (c : Command) :
    ((p.emitted c).received listener).getLast?.getD p.machine.frame = (p.obey c).machine.frame := by
  have hquiet : ∀ {j : Journal}, j.pictures = [] → j.received listener = [] := by
    intro j hj
    unfold Journal.received
    rw [hj, List.filterMap_nil]
  cases c with
  | step keys =>
    cases hpaint : p.painting? with
    | none =>
      obtain ⟨hpictures, hframe⟩ := step_of_no_painting hpaint keys
      simp only [emitted, obey]
      rw [hquiet hpictures, hframe]
      rfl
    | some m =>
      have hpictures := (step_of_painting hpaint keys).1
      simp only [emitted, obey]
      rw [Journal.getLast?_received hpictures reached, step_frame_of_painting hpaint]
      rfl
  | wait delta =>
    simp only [emitted]
    rw [hquiet (p.updateTimers_pictures delta)]
    rfl
  | load program =>
    have hframe : (p.machine.load program).machine.frame = p.machine.frame := by
      unfold Machine.load
      split <;> rfl
    simp only [emitted]
    rw [hquiet (p.load_pictures program), obey_load]
    exact hframe.symm
  | trace on => rfl

/-- What a listener received last in a run is the picture at its end. -/
theorem journal_received {listener : String} (reached : listener ∈ Listener.reached p.listeners)
    (cs : List Command) :
    ((p.journal cs).received listener).getLast?.getD p.machine.frame = (p.run cs).machine.frame := by
  induction cs generalizing p with
  | nil => rfl
  | cons c cs ih =>
    have hreached : listener ∈ Listener.reached (p.obey c).listeners := by rwa [obey_listeners]
    have hrest := ih hreached
    have hfirst := emitted_received reached c
    show ((p.emitted c ++ (p.obey c).journal cs).received listener).getLast?.getD p.machine.frame =
      ((p.obey c).run cs).machine.frame
    rw [Journal.received_append, List.getLast?_append, ← hrest, ← hfirst]
    cases (((p.obey c).journal cs).received listener).getLast? <;> rfl

/-! ## The statement -/

/-- What listeners that can all be called get from a step. -/
structure Shown (p : Processor) (names : List String) (keys : Keypad) : Prop where
  /-- A picture that was made goes to each of them once, in their order. -/
  painting : ∀ event, p.Paints → (p.step keys).result = .ok event →
    (p.step keys).journal.pictures =
      names.map fun name => (name, (p.step keys).processor.machine.frame)
  other : ¬p.Paints → (p.step keys).journal.pictures = []
  failing : ∀ f, (p.step keys).result = .error f → (p.step keys).journal.pictures = []

/-- What becomes of a step that makes a picture when the listeners `names`
are followed by one that cannot be called: compared with the same step before
these listeners alone, the picture and the flag are the same, and the step
does not move on and does not count. -/
structure Interrupted (p : Processor) (names : List String) (keys : Keypad) : Prop where
  result : (p.step keys).result = .error .deadListener
  pictures : (p.step keys).journal.pictures =
    names.map fun name => (name, (p.step keys).processor.machine.frame)
  frame : (p.step keys).processor.machine.frame =
    ({ p with listeners := names.map .named }.step keys).processor.machine.frame
  flag : (p.step keys).processor.registers.flag =
    ({ p with listeners := names.map .named }.step keys).processor.registers.flag
  pc : (p.step keys).processor.registers.pc = p.registers.pc
  steps : (p.step keys).processor.steps = p.steps

theorem shown {names : List String} (h : p.listeners = names.map .named) (keys : Keypad) :
    p.Shown names keys := by
  have callable : Listener.dead ∉ p.listeners := by
    rw [h]
    exact Listener.dead_notMem_named names
  refine ⟨?_, ?_, ?_⟩
  · intro event paints succeeds
    rcases painting_or_fault paints with ⟨m, hm⟩ | ⟨-, f, hfails⟩
    · obtain ⟨hpictures, hcallable, -⟩ := step_of_painting hm keys
      rw [hpictures, (hcallable callable).2, h, Listener.reached_named]
      rfl
    · rw [hfails p.listeners keys] at succeeds
      cases succeeds
  · intro paints
    exact (step_of_no_painting (painting_of_not_paints paints) keys).1
  · intro f fails
    cases hpaint : p.painting? with
    | none => exact (step_of_no_painting hpaint keys).1
    | some m =>
      obtain ⟨-, hcallable, -⟩ := step_of_painting hpaint keys
      rw [(hcallable callable).1] at fails
      cases fails

/-- A row of listeners with one that cannot be called decides whether a step
with one of the two instructions is interrupted, and not whether it fails
before it made a picture. -/
theorem interrupted {names : List String} {rest : List Listener}
    (h : p.listeners = names.map .named ++ .dead :: rest) (paints : p.Paints) (keys : Keypad) :
    (∀ event, ({ p with listeners := names.map .named }.step keys).result = .ok event →
      p.Interrupted names keys) ∧
    ∀ f, ({ p with listeners := names.map .named }.step keys).result = .error f →
      (p.step keys).result = .error f ∧ (p.step keys).journal.pictures = [] := by
  have dead : Listener.dead ∈ p.listeners := by
    rw [h]
    simp
  rcases painting_or_fault paints with ⟨m, hm⟩ | ⟨hnone, f, hfails⟩
  · obtain ⟨i, -, hpaint⟩ := Option.bind_eq_some_iff.mp hm
    obtain ⟨hpictures, -, hdead⟩ := step_of_painting hm keys
    obtain ⟨hresult, hmachine⟩ := hdead dead
    obtain ⟨-, hcallable, -⟩ := step_of_painting (p := { p with listeners := names.map .named })
      hm keys
    obtain ⟨hgood, hmoved⟩ := hcallable (Listener.dead_notMem_named names)
    constructor
    · intro event succeeds
      have hsteps := p.step_steps keys
      rw [hresult] at hsteps
      refine ⟨hresult, ?_, ?_, ?_, ?_, hsteps⟩
      · rw [hpictures, hmachine, h, Listener.reached_dead]
      · rw [hmachine, hmoved]
        rfl
      · unfold registers
        rw [hmachine, hmoved]
        rfl
      · unfold registers
        rw [hmachine]
        exact Machine.painted_pc hpaint
    · intro f fails
      rw [hgood] at fails
      cases fails
  · constructor
    · intro event succeeds
      rw [hfails] at succeeds
      cases succeeds
    · intro g fails
      rw [hfails] at fails
      rw [← fails]
      exact ⟨hfails p.listeners keys, (step_of_no_painting hnone keys).1⟩

/-- **The listeners never miss a change of the picture.** At every moment of
every run of a fresh processor with callable listeners a step shows them what
`Shown` says, time, loading and tracing show them nothing, and what each of
them received last is the picture that the machine has. With a listener among
them that cannot be called, clearing and drawing reach the ones before it and
are then interrupted, unless they fail before there is a picture. -/
theorem audience_follows_picture (fresh : p.Fresh) (cs : List Command) :
    (∀ names, p.listeners = names.map .named →
      (∀ keys, (p.run cs).Shown names keys) ∧
      (∀ c, (∀ keys, c ≠ .step keys) → ((p.run cs).emitted c).pictures = []) ∧
      ∀ name ∈ names,
        ((p.journal cs).received name).getLast?.getD (Frame.dark 64 32) =
          (p.run cs).machine.frame) ∧
    ∀ names rest, p.listeners = names.map .named ++ .dead :: rest →
      (p.run cs).Paints → ∀ keys,
        (∀ event, ({ p.run cs with listeners := names.map .named }.step keys).result = .ok event →
          (p.run cs).Interrupted names keys) ∧
        ∀ f, ({ p.run cs with listeners := names.map .named }.step keys).result = .error f →
          ((p.run cs).step keys).result = .error f ∧
            ((p.run cs).step keys).journal.pictures = [] := by
  constructor
  · intro names h
    refine ⟨?_, ?_, ?_⟩
    · intro keys
      exact shown (by rw [run_listeners, h]) keys
    · intro c other
      cases c with
      | step keys => exact absurd rfl (other keys)
      | wait delta => exact updateTimers_pictures _ delta
      | load program => exact load_pictures _ program
      | trace on => rfl
    · intro name member
      have hdark : p.machine.frame = Frame.dark 64 32 := by
        obtain ⟨made, listeners, tracing⟩ := fresh
        obtain ⟨-, hperiod, rfl⟩ := make_eq_ok_iff.mp made
        rfl
      rw [← hdark]
      exact journal_received (by rwa [h, Listener.reached_named]) cs
  · intro names rest h paints keys
    exact interrupted (by rw [run_listeners, h]) paints keys

/-- A program that draws the digit zero: two listeners get the picture; with
one between them that cannot be called the first does, and the step fails. -/
theorem audience_follows_picture_digit :
    ∃ p q : Processor, p.Fresh ∧ q.Fresh ∧
      p.listeners = ["window", "recorder"].map .named ∧
      q.listeners = ["window"].map .named ++ .dead :: [.named "recorder"] ∧
      ((p.journal [.step Keypad.released]).received "recorder").getLast?.getD (Frame.dark 64 32) =
        (p.run [.step Keypad.released]).machine.frame ∧
      (p.run [.step Keypad.released]).machine.frame.lit 0 = true ∧
      (q.step Keypad.released).result = .error .deadListener ∧
      (q.step Keypad.released).journal.pictures =
        [("window", (q.step Keypad.released).processor.machine.frame)] := by
  have freshWith : ∀ listeners, ({ boot [0xD0, 0x05] (RandomSource.cycle []) 1 (by decide) with
      listeners, tracing := false } : Processor).Fresh := fun listeners =>
    .intro (make_eq_ok_iff.mpr ⟨by decide, by decide, rfl⟩) listeners false
  obtain ⟨p, hp, hlisteners, hlit⟩ : ∃ p : Processor, p.Fresh ∧
      p.listeners = ["window", "recorder"].map .named ∧
      (p.run [.step Keypad.released]).machine.frame.lit 0 = true :=
    ⟨_, freshWith (["window", "recorder"].map .named), rfl, by decide +kernel⟩
  obtain ⟨q, hq, hbroken, hpaints, hdone⟩ : ∃ q : Processor, q.Fresh ∧
      q.listeners = ["window"].map .named ++ .dead :: [.named "recorder"] ∧ q.Paints ∧
      ({ q with listeners := ["window"].map .named }.step Keypad.released).result = .ok none :=
    ⟨_, freshWith (["window"].map .named ++ .dead :: [.named "recorder"]), rfl,
      ⟨.draw 0 0 5, by decide +kernel, rfl⟩, by decide +kernel⟩
  have hlast := ((audience_follows_picture hp [.step Keypad.released]).1 _ hlisteners).2.2
  have hbreak := ((audience_follows_picture hq []).2 _ _ hbroken hpaints Keypad.released).1 _ hdone
  exact ⟨p, q, hp, hq, hlisteners, hbroken, hlast "recorder" (by simp), hlit, hbreak.result,
    hbreak.pictures⟩

end Processor

end Chip8
