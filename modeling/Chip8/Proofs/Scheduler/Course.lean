/-
Chip8.Proofs.Scheduler.Course — which iterations a run consists of.

`agenda` is what a script leads to if nothing comes between: each poll at
the next reading of the clock, and a request to quit when the script is
used up. A run follows its agenda up to some iteration and ends with it.
`LoopCase` lists the two ways to end: the host quits or stops the scheduler
in an iteration without a fault, or the iteration fails. Before the last
iteration nobody quits, nobody stops, and nothing fails.

Everything that can be said of a run is read off from these cases and never
from the recursion of the loop again.
-/
import Chip8.Proofs.Scheduler.Iteration

namespace Chip8.Scheduler

/-- What a run does if nothing comes between. -/
def agenda : List Poll → Clock → List (Int × Poll)
  | [], clock => [(clock.read.1, { goOn := false })]
  | poll :: script, clock => (clock.read.1, poll) :: agenda script clock.read.2

theorem length_agenda (script : List Poll) (clock : Clock) :
    (agenda script clock).length = script.length + 1 := by
  induction script generalizing clock with
  | nil => rfl
  | cons poll script ih => rw [agenda, List.length_cons, ih, List.length_cons]

theorem mem_of_mem_agenda {script : List Poll} {clock : Clock} {one : Int × Poll}
    (h : one ∈ agenda script clock) : one.2 ∈ script ∨ one.2 = { goOn := false } := by
  induction script generalizing clock with
  | nil => exact Or.inr (congrArg Prod.snd (List.mem_singleton.mp h))
  | cons poll script ih =>
    rcases List.mem_cons.mp h with rfl | hrest
    · exact Or.inl List.mem_cons_self
    · exact (ih hrest).imp_left (List.mem_cons_of_mem poll)

/-- A poll after which a run goes on, if nothing fails. -/
def GoesOn (one : Int × Poll) : Prop := one.2.goOn = true ∧ one.2.stop = false

/-- The ways a run can end. -/
inductive LoopCase (script : List Poll) (clock : Clock) (s : Scheduler)
    (journal : Array Entry) : Prop
  /-- The host quits or stops the scheduler. -/
  | ended (before : List (Int × Poll)) (now : Int) (poll : Poll)
      (planned : before ++ [(now, poll)] <+: agenda script clock)
      (undisturbed : ∀ one ∈ before, GoesOn one)
      (final : ¬GoesOn (now, poll))
      (faultless : s.faults (before ++ [(now, poll)]) = [])
      (stopped : (s.iterateAll (before ++ [(now, poll)])).1.running = false)
      (loop : loop script clock s journal =
        (s.iterateAll (before ++ [(now, poll)])).1.conclude
          (journal ++ (s.iterateAll (before ++ [(now, poll)])).2))
  /-- An iteration fails. -/
  | halted (before : List (Int × Poll)) (now : Int) (poll : Poll) (f : Fault)
      (planned : before ++ [(now, poll)] <+: agenda script clock)
      (undisturbed : ∀ one ∈ before, GoesOn one)
      (faultless : s.faults before = [])
      (fault : ((s.iterateAll before).1.iterate now poll).fault = some f)
      (loop : loop script clock s journal =
        (s.iterateAll (before ++ [(now, poll)])).1.abort f
          (journal ++ (s.iterateAll (before ++ [(now, poll)])).2))

/-! ## One iteration of the loop -/

theorem goesOn_iff_running {s : Scheduler} (running : s.running = true) (now : Int) (poll : Poll) :
    GoesOn (now, poll) ↔ (s.iterate now poll).scheduler.running = true := by
  rw [iterate_running, running]
  simp [GoesOn]

theorem loop_of_fault {s : Scheduler} {clock : Clock} {poll : Poll} {f : Fault}
    (h : (s.iterate clock.read.1 poll).fault = some f) (script : List Poll)
    (journal : Array Entry) :
    loop (poll :: script) clock s journal =
      (s.iterate clock.read.1 poll).scheduler.abort f
        (journal ++ (s.iterate clock.read.1 poll).journal) := by
  rw [loop]
  simp only [h]

theorem loop_of_running {s : Scheduler} {clock : Clock} {poll : Poll}
    (h : (s.iterate clock.read.1 poll).fault = none)
    (running : (s.iterate clock.read.1 poll).scheduler.running = true) (script : List Poll)
    (journal : Array Entry) :
    loop (poll :: script) clock s journal =
      loop script clock.read.2 (s.iterate clock.read.1 poll).scheduler
        (journal ++ (s.iterate clock.read.1 poll).journal) := by
  rw [loop]
  simp only [h, running, if_true]

theorem loop_of_stopped {s : Scheduler} {clock : Clock} {poll : Poll}
    (h : (s.iterate clock.read.1 poll).fault = none)
    (stopped : (s.iterate clock.read.1 poll).scheduler.running = false) (script : List Poll)
    (journal : Array Entry) :
    loop (poll :: script) clock s journal =
      (s.iterate clock.read.1 poll).scheduler.conclude
        (journal ++ (s.iterate clock.read.1 poll).journal) := by
  rw [loop]
  simp only [h, stopped, Bool.false_eq_true, if_false]

/-! ## The whole loop -/

/-- The journal of an iteration comes before that of the iterations after
it. -/
theorem append_iterateAll_cons (s : Scheduler) (now : Int) (poll : Poll)
    (script : List (Int × Poll)) (journal : Array Entry) :
    journal ++ (s.iterateAll ((now, poll) :: script)).2 =
      journal ++ (s.iterate now poll).journal ++
        ((s.iterate now poll).scheduler.iterateAll script).2 := by
  apply Array.toList_inj.mp
  simp [iterateAll]

/-- What the rest of a script leads to, with the iteration before it. -/
theorem LoopCase.cons {s : Scheduler} {clock : Clock} {poll : Poll} {script : List Poll}
    {journal : Array Entry} (fault : (s.iterate clock.read.1 poll).fault = none)
    (goes : GoesOn (clock.read.1, poll))
    (running : (s.iterate clock.read.1 poll).scheduler.running = true)
    (rest : LoopCase script clock.read.2 (s.iterate clock.read.1 poll).scheduler
      (journal ++ (s.iterate clock.read.1 poll).journal)) :
    LoopCase (poll :: script) clock s journal := by
  have hloop := loop_of_running fault running script journal
  have hundisturbed : ∀ {before : List (Int × Poll)}, (∀ one ∈ before, GoesOn one) →
      ∀ one ∈ (clock.read.1, poll) :: before, GoesOn one := fun h one hone =>
    (List.mem_cons.mp hone).elim (fun heq => heq ▸ goes) (h one)
  have hfaults : ∀ rest, s.faults ((clock.read.1, poll) :: rest) =
      (s.iterate clock.read.1 poll).scheduler.faults rest := fun rest => by
    rw [faults, fault]
    rfl
  cases rest with
  | ended before now last planned undisturbed final faultless stopped loop =>
    refine .ended ((clock.read.1, poll) :: before) now last ?_ (hundisturbed undisturbed) final
      ?_ stopped ?_
    · exact List.cons_prefix_cons.mpr ⟨rfl, planned⟩
    · exact (hfaults _).trans faultless
    · rw [hloop, loop, List.cons_append, append_iterateAll_cons]
      rfl
  | halted before now last f planned undisturbed faultless failed loop =>
    refine .halted ((clock.read.1, poll) :: before) now last f ?_ (hundisturbed undisturbed) ?_
      failed ?_
    · exact List.cons_prefix_cons.mpr ⟨rfl, planned⟩
    · exact (hfaults _).trans faultless
    · rw [hloop, loop, List.cons_append, append_iterateAll_cons]
      rfl

theorem loopCase {s : Scheduler} (running : s.running = true) (script : List Poll) (clock : Clock)
    (journal : Array Entry) : LoopCase script clock s journal := by
  induction script generalizing s clock journal with
  | nil =>
    refine .ended [] clock.read.1 { goOn := false } List.prefix_rfl (by simp) (by simp [GoesOn])
      ?_ ?_ ?_
    · rw [List.nil_append, faults_singleton, iterate_of_quit rfl]
      rfl
    · rw [List.nil_append, iterateAll_singleton, iterate_of_quit rfl]
      rfl
    · rw [List.nil_append, iterateAll_singleton]
      rfl
  | cons poll script ih =>
    -- the run ends with this iteration, or the rest of the script decides
    have hfirst : [(clock.read.1, poll)] <+: agenda (poll :: script) clock :=
      ⟨agenda script clock.read.2, rfl⟩
    have hgoes := goesOn_iff_running running clock.read.1 poll
    cases hfault : (s.iterate clock.read.1 poll).fault with
    | some f =>
      refine .halted [] clock.read.1 poll f hfirst (by simp) rfl hfault ?_
      rw [List.nil_append, iterateAll_singleton, loop_of_fault hfault]
    | none =>
      cases hrunning : (s.iterate clock.read.1 poll).scheduler.running with
      | true =>
        exact (ih hrunning clock.read.2 _).cons hfault (hgoes.mpr hrunning) hrunning
      | false =>
        refine .ended [] clock.read.1 poll hfirst (by simp) ?_ ?_ hrunning ?_
        · rw [hgoes, hrunning]
          exact Bool.false_ne_true
        · rw [List.nil_append, faults_singleton, hfault]
          rfl
        · rw [List.nil_append, iterateAll_singleton, loop_of_stopped hfault hrunning]

/-- If nobody stops the scheduler and nothing fails, a run goes through its
whole agenda. -/
theorem loop_of_undisturbed {s : Scheduler} (running : s.running = true) {script : List Poll}
    {clock : Clock} (undisturbed : ∀ poll ∈ script, poll.goOn = true ∧ poll.stop = false)
    (faultless : s.faults (agenda script clock) = []) (journal : Array Entry) :
    loop script clock s journal =
      (s.iterateAll (agenda script clock)).1.conclude
        (journal ++ (s.iterateAll (agenda script clock)).2) := by
  induction script generalizing s clock journal with
  | nil =>
    rw [agenda, iterateAll_singleton]
    rfl
  | cons poll script ih =>
    rw [agenda, faults, List.append_eq_nil_iff, Option.toList_eq_nil_iff] at faultless
    have hrunning := (goesOn_iff_running running clock.read.1 poll).mp
      (undisturbed poll List.mem_cons_self)
    rw [loop_of_running faultless.1 hrunning, agenda, append_iterateAll_cons]
    exact ih hrunning (fun other h => undisturbed other (List.mem_cons_of_mem poll h))
      faultless.2 _

end Chip8.Scheduler
