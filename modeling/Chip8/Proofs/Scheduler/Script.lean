/-
Chip8.Proofs.Scheduler.Script — a scheduler that is iterated from outside.

`iterateAll` iterates with a script of times and polls, and goes on after
a fault and after a request to quit, as a caller may. An iteration begins
with a poll (`polled`); what follows depends on whether the host goes on
(`iterate_of_goOn`, `iterate_of_quit`).
-/
import Chip8.Proofs.Processor.Run
import Chip8.Scheduler

namespace Chip8.Scheduler

/-- Iterate at the given times with the given polls, whatever comes of it. -/
def iterateAll (s : Scheduler) : List (Int × Poll) → Scheduler × Journal
  | [] => (s, [])
  | (now, poll) :: script =>
      let one := s.iterate now poll
      let rest := one.scheduler.iterateAll script
      (rest.1, one.journal ++ rest.2)

/-- A scheduler is made if the period is positive, and is at rest. -/
theorem make_eq_some_iff {p : Processor} {period : Int} {s : Scheduler} :
    make p period = some s ↔ ∃ h : 0 < period, s = ⟨p, period, false, 0, none, h⟩ := by
  unfold make
  by_cases hperiod : 0 < period
  · rw [dif_pos hperiod, Option.some_inj]
    exact ⟨fun h => ⟨hperiod, h.symm⟩, fun ⟨_, h⟩ => h.symm⟩
  · rw [dif_neg hperiod]
    exact ⟨nofun, fun ⟨h, _⟩ => absurd h hperiod⟩

theorem processor_of_make {p : Processor} {period : Int} {s : Scheduler}
    (h : make p period = some s) : s.processor = p := by
  obtain ⟨hperiod, rfl⟩ := make_eq_some_iff.mp h
  rfl

/-! ## Iterations -/

/-- The scheduler after a poll, with nothing else done. -/
def polled (s : Scheduler) (now : Int) (poll : Poll) : Scheduler :=
  let seen := { s with lastTime := some now }
  if poll.stop then seen.stop else seen

theorem polled_processor (s : Scheduler) (now : Int) (poll : Poll) :
    (s.polled now poll).processor = s.processor := by
  unfold polled
  simp only
  split <;> rfl

theorem iterate_of_goOn {poll : Poll} (h : poll.goOn = true) (s : Scheduler) (now : Int) :
    s.iterate now poll =
      let advanced := (s.polled now poll).advance (s.elapsed now)
      { advanced.1.tick poll.keys with
        journal := .poll :: (advanced.2 ++ (advanced.1.tick poll.keys).journal) } := by
  unfold iterate
  simp only [h, if_true]
  rfl

theorem iterate_of_quit {poll : Poll} (h : poll.goOn = false) (s : Scheduler) (now : Int) :
    s.iterate now poll =
      { scheduler := (s.polled now poll).stop
        fault := none
        journal := [.poll, .log (Log.info "Quit requested")] } := by
  unfold iterate
  simp only [h]
  rfl

end Chip8.Scheduler
