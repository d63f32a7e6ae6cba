/-
Chip8.Proofs.Sound.Tone — what a beeper makes of a journal.

The tone after a journal is what its last entry about the tone says
(`Journal.tone`), and a beeper that follows the journal plays exactly then
(`follow_playing`). The calls of the device are the switches on the way: no
call is repeated, the first one depends on the tone at the beginning only,
and plays and stops differ by the tone at the end (`follow_chain`,
`follow_count`). That a beeper ignores what it does already is what makes
the calls alternate, whatever the journal repeats.
-/
import Chip8.Sound.Beeper
import Mathlib.Tactic

namespace Chip8

/-! ## The tone of a journal -/

/-- What an effect says of the tone. -/
def Entry.tone? : Entry → Option Bool
  | .toneOn => some true
  | .toneOff => some false
  | .poll | .keypad | .frame .. | .log _ => none

/-- The tone after a journal, given the tone before. -/
def Journal.tone (on : Bool) (j : Journal) : Bool :=
  j.foldl (fun on entry => entry.tone?.getD on) on

@[simp] theorem Journal.tone_append (on : Bool) (j k : Journal) :
    tone on (j ++ k) = tone (tone on j) k := List.foldl_append

/-- A journal that says nothing of the tone leaves it. -/
theorem Journal.tone_of_silent {on : Bool} {j : Journal} (h : ∀ e ∈ j, e.tone? = none) :
    tone on j = on := by
  induction j with
  | nil => rfl
  | cons e j ih =>
    have hhead : e.tone?.getD on = on := by rw [h e List.mem_cons_self, Option.getD_none]
    show tone (e.tone?.getD on) j = on
    rw [hhead]
    exact ih fun e he => h e (List.mem_cons_of_mem _ he)

namespace Beeper

/-- A new beeper is silent. -/
theorem playing_of_make {frequency amplitude : Int} {enable : Bool} {memory : Number.Room}
    {audio : Audio} {b : Beeper} (h : (make frequency amplitude enable memory audio).1 = .ok b) :
    b.playing = false := by
  unfold make at h
  simp only at h
  split at h
  · injection h with h
    rw [← h]
  · split at h
    · cases h
    · split at h
      · injection h with h
        rw [← h]
      · split at h
        · cases h
        · split at h
          all_goals
            injection h with h
            rw [← h]

/-- The call that switches a tone. -/
def switching (on : Bool) : DeviceCall := if on then .stop else .play

/-! ## One effect -/

theorem react_playing (b : Beeper) (e : Entry) :
    (b.react e).1.playing = e.tone?.getD b.playing := by
  cases e with
  | toneOn | toneOff =>
    unfold react
    cases hplaying : b.playing <;> simp [start, stop, hplaying, Entry.tone?]
  | _ => rfl

theorem react_available (b : Beeper) (e : Entry) : (b.react e).1.available = b.available := by
  cases e with
  | toneOn | toneOff =>
    unfold react
    cases hplaying : b.playing <;> simp [start, stop, hplaying, available]
  | _ => rfl

/-- The device is called if the tone is switched, and not otherwise. -/
theorem react_call {b : Beeper} (h : b.available = true) (e : Entry) :
    (b.react e).2 =
      if (b.react e).1.playing = b.playing then none else some (switching b.playing) := by
  cases e with
  | toneOn | toneOff =>
    unfold react
    cases hplaying : b.playing <;> simp [start, stop, hplaying, h, switching]
  | _ => exact (if_pos rfl).symm

/-! ## A journal -/

theorem follow_cons (b : Beeper) (e : Entry) (j : Journal) :
    b.follow (e :: j) =
      (((b.react e).1.follow j).1, (b.react e).2.toList ++ ((b.react e).1.follow j).2) := rfl

/-- **A beeper plays exactly when the journal leaves the tone on.** -/
theorem follow_playing (b : Beeper) (j : Journal) :
    (b.follow j).1.playing = j.tone b.playing := by
  induction j generalizing b with
  | nil => rfl
  | cons e j ih =>
    rw [follow_cons]
    show ((b.react e).1.follow j).1.playing = Journal.tone (e.tone?.getD b.playing) j
    rw [ih, react_playing]

/-- Plays and stops differ by the tone at the end and at the beginning. -/
theorem follow_count {b : Beeper} (h : b.available = true) (j : Journal) :
    ((b.follow j).2.count .play : Int) - (b.follow j).2.count .stop =
      (b.follow j).1.playing.toInt - b.playing.toInt := by
  induction j generalizing b with
  | nil => exact (sub_self b.playing.toInt).symm
  | cons e j ih =>
    have hrest := ih ((react_available b e).trans h)
    rw [follow_cons, react_call h]
    by_cases hsame : (b.react e).1.playing = b.playing
    · rw [if_pos hsame]
      rw [hsame] at hrest
      exact hrest
    · rw [if_neg hsame]
      simp only [Option.toList_some, List.singleton_append]
      cases hplaying : b.playing with
      | false =>
        have hon : (b.react e).1.playing = true := by simpa [hplaying] using hsame
        have hcall : switching false = .play := rfl
        rw [hon, Bool.toInt_true] at hrest
        rw [hcall, List.count_cons_self, List.count_cons_of_ne (by decide), Bool.toInt_false]
        push_cast
        omega
      | true =>
        have hoff : (b.react e).1.playing = false := by simpa [hplaying] using hsame
        have hcall : switching true = .stop := rfl
        rw [hoff, Bool.toInt_false] at hrest
        rw [hcall, List.count_cons_self, List.count_cons_of_ne (by decide), Bool.toInt_true]
        push_cast
        omega

/-- The calls alternate, and the first one switches the tone there was at
the beginning. -/
theorem follow_chain {b : Beeper} (h : b.available = true) (j : Journal) :
    (b.follow j).2.IsChain (· ≠ ·) ∧
      ∀ c ∈ (b.follow j).2.head?, c = switching b.playing := by
  induction j generalizing b with
  | nil => exact ⟨List.isChain_nil, fun c hc => by cases hc⟩
  | cons e j ih =>
    obtain ⟨hchain, hhead⟩ := ih ((react_available b e).trans h)
    rw [follow_cons, react_call h]
    by_cases hsame : (b.react e).1.playing = b.playing
    · rw [if_pos hsame]
      rw [hsame] at hhead
      exact ⟨hchain, hhead⟩
    · rw [if_neg hsame]
      simp only [Option.toList_some, List.singleton_append]
      refine ⟨List.isChain_cons.mpr ⟨fun c hc => ?_, hchain⟩, fun c hc => ?_⟩
      · rw [hhead c hc]
        unfold switching
        cases hplaying : b.playing <;> simp_all
      · exact (Option.mem_some_iff.mp hc).symm

end Beeper

end Chip8
