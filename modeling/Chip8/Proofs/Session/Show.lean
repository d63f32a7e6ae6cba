/-
Chip8.Proofs.Session.Show — the pictures of a run at the window.

A regular processor hands out pictures of the screen's size only
(`step_screens`), and so does a run (`Ending.screens`). For an open window
of that size a picture is never of the wrong size, so what is left to fail
is the window system: a journal is shown to its end, or up to the first
picture that a call of the system fails on (`Watching`, `watching_watch`).
-/
import Chip8.Proofs.Processor.Audience
import Chip8.Proofs.Scheduler.Outcome
import Chip8.Proofs.Screen.Layout

namespace Chip8

/-! ## Pictures of the screen's size -/

namespace Journal

/-- All pictures handed out are pictures of the screen. -/
def Screens (j : Journal) : Prop := ∀ shown ∈ j.pictures, shown.2.IsScreen

theorem screens_of_none {j : Journal} (h : j.pictures = []) : j.Screens := by
  unfold Screens
  rw [h]
  exact List.forall_mem_nil _

theorem screens_append_iff {j k : Journal} : (j ++ k).Screens ↔ j.Screens ∧ k.Screens := by
  unfold Screens
  rw [pictures_append]
  exact List.forall_mem_append

theorem Screens.append {j k : Journal} (hj : j.Screens) (hk : k.Screens) : (j ++ k).Screens :=
  screens_append_iff.mpr ⟨hj, hk⟩

end Journal

/-- The picture of a regular processor is one of the screen after every step,
and it is what a step hands out. -/
theorem Processor.step_screens {p : Processor} (h : p.Regular) (keys : Keypad) :
    (p.step keys).journal.Screens := by
  cases hpaint : p.painting? with
  | none => exact Journal.screens_of_none (step_of_no_painting hpaint keys).1
  | some m =>
    have hscreen : (p.step keys).processor.machine.frame.IsScreen :=
      (h.run [.step keys]).machine.frame
    rw [step_frame_of_painting hpaint] at hscreen
    intro shown hshown
    rw [(step_of_painting hpaint keys).1] at hshown
    obtain ⟨name, -, rfl⟩ := List.mem_map.mp hshown
    exact hscreen

namespace Scheduler

variable {s : Scheduler}

theorem toneFor_pictures (events : List TimerEvent) :
    Journal.pictures (events.map toneFor) = [] := by
  refine List.filterMap_eq_nil_iff.mpr fun e he => ?_
  obtain ⟨event, -, rfl⟩ := List.mem_map.mp he
  cases event <;> rfl

theorem waitJournal_pictures (s : Scheduler) (now : Int) : (s.waitJournal now).pictures = [] := by
  unfold waitJournal
  simp only [Journal.pictures_append, Processor.updateTimers_pictures, toneFor_pictures,
    List.append_nil]

theorem iterate_screens (h : s.processor.Regular) (now : Int) (poll : Poll) :
    (s.iterate now poll).journal.Screens := by
  have hpoll : Journal.Screens [.poll] := Journal.screens_of_none rfl
  have hwait : (s.waitJournal now).Screens := Journal.screens_of_none (waitJournal_pictures s now)
  have hstep : ((s.waited now).step poll.keys).journal.Screens :=
    Processor.step_screens (h.updateTimers (s.elapsed now)) poll.keys
  cases s.iterateCase now poll with
  | quit goOn orders iterate =>
    rw [iterate]
    exact Journal.screens_of_none rfl
  | idle goOn due orders iterate =>
    rw [iterate]
    exact hpoll.append hwait
  | done goOn due orders event result iterate =>
    have htone : Journal.Screens (event.map toneFor).toList := by
      refine Journal.screens_of_none ?_
      rcases event with _ | _ | _ <;> rfl
    rw [iterate]
    exact hpoll.append (hwait.append (hstep.append htone))
  | failed goOn due orders f result iterate =>
    rw [iterate]
    exact hpoll.append (hwait.append hstep)

theorem iterateAll_screens (h : s.processor.Regular) (script : List (Int × Poll)) :
    (s.iterateAll script).2.Screens := by
  induction script generalizing s with
  | nil => exact Journal.screens_of_none rfl
  | cons one script ih =>
    obtain ⟨now, poll⟩ := one
    exact (iterate_screens h now poll).append (ih (iterate_regular h now poll))

/-- The pictures of a run are those of its iterations. -/
theorem Ending.screens {start : Scheduler} (h : start.processor.Regular) {journal : Array Entry}
    (told : Journal.Screens journal.toList) {before : List (Int × Poll)} {now : Int} {poll : Poll}
    {final : Finished} (ending : start.Ending journal before now poll final) :
    final.journal.Screens := by
  obtain ⟨record, hjournal⟩ := ending.journal
  rw [hjournal]
  exact (told.append (iterateAll_screens h _)).append (Journal.screens_of_none rfl)

end Scheduler

/-! ## Showing them -/

namespace Display

variable {system : WindowSystem} {d : Display}

/-- An open window of the screen's size. -/
structure OfScreen (d : Display) : Prop where
  width : d.width = screenWidth
  height : d.height = screenHeight
  isOpen : d.isOpen = true

/-- The window after some more pictures. -/
def after (d : Display) (shown : Nat) : Display := { d with frames := d.frames + shown }

theorem OfScreen.after (h : d.OfScreen) (shown : Nat) : (d.after shown).OfScreen :=
  ⟨h.width, h.height, h.isOpen⟩

/-- What comes of a journal at a window. -/
inductive Watching (system : WindowSystem) (d : Display) (j : Journal) : Watched → Prop
  /-- All pictures are shown. -/
  | whole : Watching system d j ⟨d.after j.pictures.length, j, none⟩
  /-- The window system fails on a picture, and nothing happens after it. -/
  | broken (before later : Journal) (listener : String) (picture : Frame)
      (parts : j = before ++ .frame listener picture :: later) (screen : picture.IsScreen)
      (failure : WindowSystem.Failure)
      (fails : system.present (d.after before.pictures.length) picture.cells = .error failure) :
      Watching system d j ⟨d.after before.pictures.length, before ++ [.frame listener picture],
        some (.system failure)⟩

/-- A picture of the screen is up to the window system. -/
theorem draw_of_screen (system : WindowSystem) (h : d.OfScreen) {picture : Frame}
    (screen : picture.IsScreen) :
    d.draw system picture.cells = (system.present d picture.cells).mapError .system >>= fun _ =>
      .ok (d.after 1) := by
  have hcount : d.pixelCount = screenWidth * screenHeight := by
    unfold pixelCount
    rw [h.width, h.height]
  exact draw_of_size (by rw [hcount]; decide) (by rw [hcount, screen.size]) h.isOpen

/-- An effect that hands out no picture is passed over. -/
theorem watching_cons_of_quiet {e : Entry} (quiet : e.picture? = none) {j : Journal} {w : Watched}
    (h : Watching system d j w) :
    Watching system d (e :: j) { w with journal := e :: w.journal } := by
  have hpictures : ∀ k : Journal, Journal.pictures (e :: k) = k.pictures :=
    fun k => List.filterMap_cons_none quiet
  cases h with
  | whole =>
    rw [← hpictures j]
    exact .whole
  | broken before later listener picture parts screen failure fails =>
    rw [← hpictures before] at fails ⊢
    exact .broken (e :: before) later listener picture (congrArg (e :: ·) parts) screen failure
      fails

/-- A picture that is shown is one more. -/
theorem watching_cons_of_shown {listener : String} {picture : Frame} {j : Journal} {w : Watched}
    (h : Watching system (d.after 1) j w) :
    Watching system d (.frame listener picture :: j)
      { w with journal := .frame listener picture :: w.journal } := by
  have hpictures : ∀ k : Journal, (d.after 1).after k.pictures.length =
      d.after (Journal.pictures (.frame listener picture :: k)).length := by
    intro k
    show _ = d.after (k.pictures.length + 1)
    unfold after
    simp only [Nat.add_assoc, Nat.add_comm 1]
  cases h with
  | whole =>
    rw [hpictures j]
    exact .whole
  | broken before later name shown parts screen failure fails =>
    rw [hpictures before] at fails ⊢
    exact .broken (.frame listener picture :: before) later name shown
      (congrArg (.frame listener picture :: ·) parts) screen failure fails

/-- **What comes of pictures of the screen at an open window of its size.** -/
theorem watching_watch (system : WindowSystem) (h : d.OfScreen) {j : Journal}
    (screens : j.Screens) : Watching system d j (d.watch system j) := by
  induction j generalizing d with
  | nil => exact .whole
  | cons e j ih =>
    obtain ⟨hfirst, hrest⟩ := (Journal.screens_append_iff (j := [e])).mp screens
    cases e with
    | frame listener picture =>
      have hscreen : picture.IsScreen := hfirst (listener, picture) (List.mem_singleton_self _)
      have hdraw := draw_of_screen system h hscreen
      simp only [watch]
      cases hpresent : system.present d picture.cells with
      | error failure =>
        rw [hpresent] at hdraw
        rw [hdraw]
        exact .broken [] j listener picture rfl hscreen failure hpresent
      | ok _ =>
        rw [hpresent] at hdraw
        rw [hdraw]
        exact watching_cons_of_shown (ih (h.after 1) hrest)
    | _ => exact watching_cons_of_quiet rfl (ih h hrest)

end Display

end Chip8
