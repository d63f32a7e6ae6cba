/-
Chip8.Proofs.Scheduler.Tone — the tone follows the sound register.

One fact is carried through four layers: the tone that a journal leaves on
is the tone that the sound register asks for. An instruction reports the
event that its new sound register calls for (`perform_tone`), a step hands
it on (`step_tone`), the sound timer reports the moment when the register
comes to zero, however many periods it counts at once
(`updateTimers_tone`), and one iteration has the timer's event before the
instruction's (`iterate_tone`). With `Beeper.follow_playing` the beeper
plays exactly while the register is above zero, after every iteration of
every script (`beeper_follows_sound`).
-/
import Chip8.Proofs.Processor.Footprint
import Chip8.Proofs.Scheduler.Iteration
import Chip8.Proofs.Sound.Tone

namespace Chip8

namespace Processor

/-! ## Instructions -/

/-- Whether the sound register asks for the tone. -/
def sounding (p : Processor) : Bool := decide (0 < p.registers.sound)

theorem sounding_congr {p q : Processor} (h : q.registers.sound = p.registers.sound) :
    q.sounding = p.sounding := by
  unfold sounding
  rw [h]

/-- A fresh processor asks for no tone. -/
theorem Fresh.not_sounding {p : Processor} (h : p.Fresh) : p.sounding = false := by
  obtain ⟨made, listeners, tracing⟩ := h
  obtain ⟨-, hperiod, rfl⟩ := make_eq_ok_iff.mp made
  rfl

/-- Handing out a picture says nothing of the tone. -/
theorem announce_silent {p : Processor} {e : Entry} (h : e ∈ p.announce.journal) :
    e.tone? = none := by
  obtain ⟨listener, -, hlistener⟩ := List.mem_filterMap.mp h
  cases listener with
  | named name =>
    injection hlistener with hlistener
    rw [← hlistener]
    rfl
  | dead => cases hlistener

/-- What an instruction does on the outside says nothing of the tone. -/
theorem perform_silent {p : Processor} {keys : Keypad} {i : Instruction} {e : Entry}
    (h : e ∈ (p.perform keys i).journal) : e.tone? = none := by
  cases hpaint : p.machine.painted? i with
  | some m =>
    rw [perform_of_painted hpaint] at h
    exact announce_silent h
  | none =>
    rcases perform_journal hpaint keys with hj | hj
    · rw [hj] at h
      cases h
    · rw [hj] at h
      rw [List.mem_singleton.mp h]
      rfl

/-- The event of an instruction says what the sound register asks for
afterwards; without one it asks for what it asked for before. -/
theorem perform_tone {p : Processor} (h : p.Wired) (keys : Keypad) (i : Instruction) :
    Journal.tone p.sounding ((p.perform keys i).event.map Scheduler.toneFor).toList =
      (p.perform keys i).processor.sounding := by
  by_cases hset : ∃ x, i = .setSound x
  · obtain ⟨x, rfl⟩ := hset
    have hsounding : (p.perform keys (.setSound x)).processor.sounding =
        decide ((0 : Int) < p.registers.value x) := rfl
    rw [perform_setSound_event h, hsounding]
    by_cases hpos : (0 : Int) < p.registers.value x
    · rw [if_pos hpos, decide_eq_true hpos]
      rfl
    · rw [if_neg hpos, decide_eq_false hpos]
      rfl
  · have hsound : Machine.Part.sound ∉ i.touches p.machine := by
      cases i with
      | setSound x => exact absurd ⟨x, rfl⟩ hset
      | _ => simp [Instruction.touches, Machine.span]
    rw [(p.perform_event keys i).resolve_right hset, sounding_congr (perform_same hsound)]
    rfl

/-! ## Steps and time -/

theorem finish_sounding (p : Processor) (flow : Flow) : (p.finish flow).sounding = p.sounding := by
  refine sounding_congr ?_
  unfold registers
  rw [finish_machine]
  cases flow <;> rfl

/-- What a step does on the outside says nothing of the tone. -/
theorem step_silent {p : Processor} {keys : Keypad} {e : Entry} (h : e ∈ (p.step keys).journal) :
    e.tone? = none := by
  have hrecord : ∀ {w}, e ∈ (p.record w).2 → e.tone? = none := by
    intro w he
    obtain ⟨r, rfl⟩ := log_of_mem_record he
    rfl
  cases p.stepCase keys with
  | unfetched f fetched step => rw [step] at h; cases h
  | undecoded w fetched decoded step =>
    rw [step] at h
    rcases List.mem_append.mp h with he | he
    · exact hrecord he
    · rw [List.mem_singleton.mp he]
      rfl
  | failed w i f fetched decoded flow step =>
    rw [step] at h
    exact (List.mem_append.mp h).elim hrecord perform_silent
  | done w i flow fetched decoded flowed step =>
    rw [step] at h
    exact (List.mem_append.mp h).elim hrecord perform_silent

/-- The event that a step reports says what the sound register asks for
afterwards; a step that fails leaves the sound register alone. -/
theorem step_tone {p : Processor} (h : p.Wired) (keys : Keypad) :
    Journal.tone p.sounding
        (match (p.step keys).result with
          | .ok event => (event.map Scheduler.toneFor).toList
          | .error _ => []) =
      (p.step keys).processor.sounding := by
  have hsounding : p.traced.sounding = p.sounding :=
    sounding_congr (by unfold registers; rw [traced_machine])
  have htraced : ∀ i, Journal.tone p.sounding
      ((p.traced.perform keys i).event.map Scheduler.toneFor).toList =
        (p.traced.perform keys i).processor.sounding := by
    intro i
    rw [← hsounding]
    refine perform_tone ?_ keys i
    rw [traced_eq]
    exact ⟨h.1, h.2, h.3, h.4⟩
  cases p.stepCase keys with
  | unfetched f fetched step => rw [step]; rfl
  | undecoded w fetched decoded step => rw [step]; exact hsounding.symm
  | failed w i f fetched decoded flow step =>
    have hevent : (p.traced.perform keys i).event = none := by
      refine (p.traced.perform_event keys i).resolve_right ?_
      rintro ⟨x, rfl⟩
      cases flow
    have hsame := htraced i
    rw [hevent] at hsame
    rw [step]
    exact hsame
  | done w i flow fetched decoded flowed step =>
    rw [step]
    exact (htraced i).trans (finish_sounding _ flow).symm

theorem updateTimers_silent {p : Processor} {delta : Int} {e : Entry}
    (h : e ∈ (p.updateTimers delta).journal) : e.tone? = none := by
  obtain ⟨record, rfl⟩ := log_of_mem_updateTimers h
  rfl

/-- However many periods are counted at once, the sound timer reports that
the register came to zero. -/
theorem updateTimers_tone {p : Processor} (h : p.Regular) (delta : Int) :
    Journal.tone p.sounding ((p.updateTimers delta).events.map Scheduler.toneFor) =
      (p.updateTimers delta).processor.sounding := by
  have hafter : (p.updateTimers delta).processor.sounding =
      decide (0 < max 0 (p.registers.sound - p.soundTimer.rounds delta)) := by
    unfold sounding registers
    rw [updateTimers_machine h]
    rfl
  rw [updateTimers_events h, hafter]
  split
  · rename_i hzero
    rw [decide_eq_false (by omega)]
    rfl
  · rename_i hkept
    unfold sounding
    refine decide_eq_decide.mpr ?_
    omega

end Processor

namespace Scheduler

/-! ## Iterations -/

/-- Instructions and time: what a tick and the time before it add to the
journal says what the sound register asks for. -/
theorem tick_tone {s : Scheduler} (h : s.processor.Wired) (keys : Keypad) :
    (s.tick keys).journal.tone s.processor.sounding =
      (s.tick keys).scheduler.processor.sounding := by
  have hstep := Processor.step_tone h keys
  have hsilent : Journal.tone s.processor.sounding (s.processor.step keys).journal =
      s.processor.sounding := Journal.tone_of_silent fun _ he => Processor.step_silent he
  unfold tick
  split
  · cases hresult : (s.processor.step keys).result with
    | error f =>
      simp only [hresult] at hstep ⊢
      rw [hsilent, ← hstep]
      rfl
    | ok event =>
      simp only [hresult] at hstep ⊢
      rw [Journal.tone_append, hsilent, hstep]
  · rfl

theorem advance_tone {s : Scheduler} (h : s.processor.Regular) (delta : Int) :
    (s.advance delta).2.tone s.processor.sounding = (s.advance delta).1.processor.sounding := by
  have hsilent : Journal.tone s.processor.sounding (s.processor.updateTimers delta).journal =
      s.processor.sounding := Journal.tone_of_silent fun _ he => Processor.updateTimers_silent he
  unfold advance
  simp only
  rw [Journal.tone_append, hsilent, Processor.updateTimers_tone h]

/-- An iteration, also one that fails or is the last, adds to the journal
what the sound register asks for. -/
theorem iterate_tone {s : Scheduler} (h : s.processor.Regular) (now : Int) (poll : Poll) :
    (s.iterate now poll).journal.tone s.processor.sounding =
      (s.iterate now poll).scheduler.processor.sounding := by
  have hsounding : (s.polled now poll).processor.sounding = s.processor.sounding := by
    rw [polled_processor]
  cases hgo : poll.goOn with
  | false =>
    rw [iterate_of_quit hgo]
    exact hsounding.symm
  | true =>
    have hpolled : (s.polled now poll).processor.Regular := by rwa [polled_processor]
    have hadvance := advance_tone hpolled (s.elapsed now)
    have hwired : ((s.polled now poll).advance (s.elapsed now)).1.processor.Wired :=
      (hpolled.updateTimers (s.elapsed now)).timers
    rw [iterate_of_goOn hgo]
    show Journal.tone s.processor.sounding
      (((s.polled now poll).advance (s.elapsed now)).2 ++ _) = _
    rw [Journal.tone_append, ← hsounding, hadvance, tick_tone hwired]

theorem iterateAll_tone {s : Scheduler} (h : s.processor.Regular) (script : List (Int × Poll)) :
    (s.iterateAll script).2.tone s.processor.sounding =
      (s.iterateAll script).1.processor.sounding := by
  induction script generalizing s with
  | nil => rfl
  | cons one script ih =>
    obtain ⟨now, poll⟩ := one
    have hrest := ih (iterate_regular h now poll)
    show Journal.tone _ (_ ++ _) = _
    rw [Journal.tone_append, iterate_tone h, hrest]
    rfl

/-! ## The statement -/

/-- **The tone follows the sound register.** A fresh processor, a new
scheduler and a new beeper: after every script of iterations, with any
times, polls and faults, the beeper plays exactly if the sound register is
above zero. A device that can be heard was started once more than it was
stopped if the tone is on, and as often if it is off; the first call was a
start, and starts and stops alternate. -/
theorem beeper_follows_sound {p : Processor} {s : Scheduler} {b : Beeper}
    {period frequency amplitude : Int} {enable : Bool} {memory : Number.Room} {audio : Audio}
    (fresh : p.Fresh) (made : Scheduler.make p period = some s)
    (built : (Beeper.make frequency amplitude enable memory audio).1 = .ok b)
    (script : List (Int × Poll)) :
    ((b.follow (s.iterateAll script).2).1.playing = true ↔
      0 < (s.iterateAll script).1.processor.registers.sound) ∧
    (b.available = true →
      ((b.follow (s.iterateAll script).2).2.count .play : Int) -
          (b.follow (s.iterateAll script).2).2.count .stop =
        (if (b.follow (s.iterateAll script).2).1.playing then 1 else 0) ∧
      (b.follow (s.iterateAll script).2).2.IsChain (· ≠ ·) ∧
      ∀ c ∈ (b.follow (s.iterateAll script).2).2.head?, c = .play) := by
  have hprocessor := processor_of_make made
  have hregular : s.processor.Regular := by
    rw [hprocessor]
    exact fresh.regular
  have hsilent : b.playing = false := Beeper.playing_of_make built
  have hquiet : s.processor.sounding = false := by
    rw [hprocessor]
    exact fresh.not_sounding
  have hplaying : (b.follow (s.iterateAll script).2).1.playing =
      (s.iterateAll script).1.processor.sounding := by
    rw [Beeper.follow_playing, hsilent, ← hquiet, iterateAll_tone hregular]
  refine ⟨?_, fun havailable => ⟨?_, ?_⟩⟩
  · rw [hplaying]
    exact decide_eq_true_iff
  · rw [Beeper.follow_count havailable, hsilent, Bool.toInt_false, sub_zero]
    cases (b.follow (s.iterateAll script).2).1.playing <;> rfl
  · obtain ⟨hchain, hfirst⟩ := Beeper.follow_chain havailable (s.iterateAll script).2
    rw [hsilent] at hfirst
    exact ⟨hchain, hfirst⟩

/-- A program that sets the sound register to 5, with a device of four
samples a second. -/
theorem beeper_follows_sound_set :
    ∃ (p : Processor) (s : Scheduler) (b : Beeper), p.Fresh ∧ Scheduler.make p 1 = some s ∧
      (Beeper.make 1 1 true .ample { device := .ok ⟨4, 1⟩ }).1 = .ok b ∧ b.available = true ∧
      (b.follow (s.iterateAll [(0, {}), (1, {}), (2, {})]).2).1.playing = true ∧
      ((b.follow (s.iterateAll [(0, {}), (1, {}), (2, {})]).2).2.count .play : Int) -
        (b.follow (s.iterateAll [(0, {}), (1, {}), (2, {})]).2).2.count .stop = 1 := by
  have fresh : (Processor.boot [0x60, 0x05, 0xF0, 0x18] (RandomSource.cycle []) 1
      (by decide)).Fresh :=
    .intro (Processor.make_eq_ok_iff.mpr ⟨by decide, by decide, rfl⟩) [] false
  have made : Scheduler.make (Processor.boot [0x60, 0x05, 0xF0, 0x18] (RandomSource.cycle []) 1
      (by decide)) 1 = some ⟨_, 1, false, 0, none, by decide⟩ := rfl
  have built : (Beeper.make 1 1 true .ample { device := .ok ⟨4, 1⟩ }).1 =
      .ok ⟨1, 1, some ⟨4, 128, 1⟩, false⟩ := by decide +kernel
  obtain ⟨hplaying, hcalls⟩ := beeper_follows_sound fresh made built [(0, {}), (1, {}), (2, {})]
  have hon := hplaying.mpr (by decide +kernel)
  refine ⟨_, _, _, fresh, made, built, rfl, hon, ?_⟩
  rw [(hcalls rfl).1, if_pos hon]

end Scheduler

end Chip8
