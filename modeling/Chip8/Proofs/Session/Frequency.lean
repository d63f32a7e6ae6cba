/-
Chip8.Proofs.Session.Frequency — which accepted frequencies can be run.

The check of settings asks of a frequency that it is positive; the clockwork
asks of a period that it is a positive number of nanoseconds. A period is a
second over the frequency, rounded down, so the two agree up to one beat a
nanosecond and no further (`period_pos_iff`). Beyond that a session breaks
off with its image loaded and its window open (`accepted_frequencies`,
`accepted_frequency_breaks_off`).
-/
import Chip8.Proofs.Session.Stage

namespace Chip8

/-- A frequency leaves a whole nanosecond up to one beat a nanosecond. -/
theorem period_pos_iff {hz : Int} (h : 0 < hz) :
    0 < nanosPerSecond / hz ↔ hz ≤ nanosPerSecond := by
  have hone : 0 < nanosPerSecond / hz ↔ 1 ≤ nanosPerSecond / hz := Iff.rfl
  rw [hone, Int.le_ediv_iff_mul_le h, one_mul]

namespace Session

/-- What becomes of a session by its frequencies. -/
structure RunBy (settings : Settings) (host : Host) (argv : List String)
    (batches : List (List Event)) (clock : Clock) : Prop where
  /-- No period is left for the timers. -/
  noTimerPeriod : nanosPerSecond < settings.timerHz →
    (run host argv batches clock).result =
      .error (.processor (.timer .periodNotPositive))
  /-- No period is left for the instructions. -/
  noTickPeriod : settings.timerHz ≤ nanosPerSecond → nanosPerSecond < settings.cpuHz →
    (run host argv batches clock).result = .error .tickPeriod
  /-- The session gets its periods. -/
  ready : settings.timerHz ≤ nanosPerSecond → settings.cpuHz ≤ nanosPerSecond →
    ∃ stage, begin host argv = .ok stage ∧
      stage.scheduler.tickPeriod = nanosPerSecond / settings.cpuHz ∧
      stage.scheduler.processor.delayTimer.period = nanosPerSecond / settings.timerHz ∧
      stage.scheduler.processor.soundTimer.period = nanosPerSecond / settings.timerHz
  /-- It then ends with an exit code, unless the window system fails on a
  picture or it ran for more seconds than can be told. -/
  ends : settings.timerHz ≤ nanosPerSecond → settings.cpuHz ≤ nanosPerSecond →
    Ended host clock (run host argv batches clock).result

variable {host : Host} {argv : List String} {table : Table} {settings : Settings} {rom : Rom}
  {display : Display} {beeper : Beeper}

theorem Opened.fits (h : Opened host argv table settings rom display) :
    rom.data.length ≤ maxProgramSize := by
  obtain ⟨location, -, hrom, -⟩ := h.shown
  exact image_fits hrom

theorem Opened.ofScreen (h : Opened host argv table settings rom display) :
    display.OfScreen := by
  obtain ⟨location, -, -, hdisplay⟩ := h.shown
  obtain ⟨hwidth, hheight, -, hopen⟩ := Display.fresh_of_make hdisplay
  exact ⟨Int.ofNat_inj.mp hwidth, Int.ofNat_inj.mp hheight, hopen⟩

/-- With image, window and tone, the periods decide. -/
theorem runBy_of_opened (opened : Opened host argv table settings rom display)
    (toned : tone host.memory host.audio table settings = .ok beeper)
    (batches : List (List Event)) (clock : Clock) : RunBy settings host argv batches clock := by
  have hbounds := Settings.inBounds_of_check opened.checked
  have htimer := period_pos_iff hbounds.timerHz
  have hcpu := period_pos_iff hbounds.cpuHz
  obtain ⟨told, hbegin⟩ := begin_of_tone opened toned
  rw [assemble_result opened.fits] at hbegin
  have hready : settings.timerHz ≤ nanosPerSecond → settings.cpuHz ≤ nanosPerSecond →
      ∃ timer cpu, begin host argv = .ok { stageOf settings display beeper (schedulerOf host
        (argv.contains debugFlag) settings rom timer cpu) with logs := told } := by
    intro hslow hslow'
    rw [dif_pos (htimer.mpr hslow), dif_pos (hcpu.mpr hslow')] at hbegin
    exact ⟨_, _, hbegin⟩
  refine ⟨fun hfast => ?_, fun hslow hfast => ?_, fun hslow hslow' => ?_, fun hslow hslow' => ?_⟩
  · rw [dif_neg (htimer.not.mpr (not_le.mpr hfast))] at hbegin
    exact run_of_begin_error hbegin batches clock
  · rw [dif_pos (htimer.mpr hslow), dif_neg (hcpu.not.mpr (not_le.mpr hfast))] at hbegin
    exact run_of_begin_error hbegin batches clock
  · obtain ⟨timer, cpu, hstage⟩ := hready hslow hslow'
    exact ⟨_, hstage, rfl, rfl, rfl⟩
  · obtain ⟨timer, cpu, hstage⟩ := hready hslow hslow'
    have halive : Listener.dead ∉ [Listener.named "display"] := by decide
    exact run_of_begin hstage (processorOf_fresh timer opened.fits host _) halive
      opened.ofScreen batches clock

/-! ## The statement -/

/-- **Accepted frequencies can be run up to one beat a nanosecond.** The check
accepts any positive frequency. Its period is positive exactly if there are
no more beats a second than nanoseconds. With image, window and tone a
session then runs to an exit code, whatever events come at its polls and
whatever the clock tells, unless the window system fails on a picture or the
run took too long to be told; with more beats it breaks off, over the timers
or else over the instructions. -/
theorem accepted_frequencies (accepted : Settings.check table = .ok settings) :
    (0 < nanosPerSecond / settings.timerHz ↔ settings.timerHz ≤ nanosPerSecond) ∧
    (0 < nanosPerSecond / settings.cpuHz ↔ settings.cpuHz ≤ nanosPerSecond) ∧
    ∀ (host : Host) (argv : List String) (rom : Rom) (display : Display) (beeper : Beeper),
      Opened host argv table settings rom display →
      tone host.memory host.audio table settings = .ok beeper →
      ∀ (batches : List (List Event)) (clock : Clock), RunBy settings host argv batches clock := by
  have hbounds := Settings.inBounds_of_check accepted
  exact ⟨period_pos_iff hbounds.timerHz, period_pos_iff hbounds.cpuHz,
    fun _ _ _ _ _ opened toned => runBy_of_opened opened toned⟩

/-- The frequencies of the defaults, on a host without a settings file or an
audio device and with a clock that stands still: whatever events come, there
is an exit code. -/
theorem accepted_frequencies_defaults :
    ∃ settings, Settings.check Settings.defaults = .ok settings ∧
      ∀ batches, ∃ code ≤ 1, (run (smallHost .absent .ample { device := .error "none" })
        smallArguments batches (.fixed 0)).result = .ok code := by
  have accepted : Settings.check Settings.defaults =
      .ok ⟨20, 500, 60, true, 440, 128, Settings.defaultKeyboard⟩ := rfl
  obtain ⟨-, -, hsession⟩ := accepted_frequencies accepted
  have loaded : (Settings.load (Toml.maxDepth - 1) (Location.join "/w" "config.toml").text
      .absent).1 = .ok Settings.defaults := rfl
  obtain ⟨display, opened⟩ := opened_small .ample { device := .error "none" } loaded accepted
    (by decide +kernel)
  have hmake : (Beeper.make 440 128 true .ample { device := .error "none" }).1 =
      .ok ⟨440, 128, none, false⟩ := by decide +kernel
  have toned : tone .ample { device := .error "none" } Settings.defaults
      ⟨20, 500, 60, true, 440, 128, Settings.defaultKeyboard⟩ = .ok ⟨440, 128, none, false⟩ := by
    rw [tone_of_known (by decide +kernel), hmake]
    rfl
  refine ⟨_, accepted, fun batches => ?_⟩
  have hrun := hsession _ _ _ _ _ opened toned batches (.fixed 0)
  refine (hrun.ends (by decide) (by decide)).exits (fun d screen picture shape => ?_)
    (fun last _ => ?_)
  · exact WindowSystem.present_offscreen (by rw [screen.width]; decide)
      (by rw [screen.height]; decide) .ample picture.cells
  · show Stopwatch.seconds? 0 ≠ none
    decide +kernel

/-- A settings file that asks for one beat more than nanoseconds. -/
def fastFile : Settings.Source :=
  .content "[general]\ntimer_hz = 1000000001\nscale = 1\n[audio]\nenable = false\n".toUTF8.toList

/-- The settings of that file are accepted, the period of its timers is zero,
and the session breaks off. -/
theorem accepted_frequency_breaks_off :
    ∃ table settings, (Settings.load (Toml.maxDepth - 1) (Location.join "/w" "config.toml").text
        fastFile).1 = .ok table ∧
      Settings.check table = .ok settings ∧ settings.timerHz = 1000000001 ∧
      ¬0 < nanosPerSecond / settings.timerHz ∧
      ∀ memory audio batches clock,
        (run (smallHost fastFile memory audio) smallArguments batches clock).result =
          .error (.processor (.timer .periodNotPositive)) := by
  obtain ⟨table, settings, loaded, checked, hvalues⟩ := Settings.exists_of_told
    (f := fun t s => (s.timerHz, s.scale, s.enable, unknownAudioKey? t))
    (show Settings.told _ (Toml.maxDepth - 1) (Location.join "/w" "config.toml").text fastFile =
      some (1000000001, 1, false, none) by decide +kernel)
  simp only [Prod.mk.injEq] at hvalues
  obtain ⟨htimer, hscale, henable, hknown⟩ := hvalues
  refine ⟨table, settings, loaded, checked, htimer, by rw [htimer]; decide,
    fun memory audio batches clock => ?_⟩
  obtain ⟨display, opened⟩ := opened_small memory audio loaded checked
    (by rw [hscale]; decide +kernel)
  have toned : tone memory audio table settings =
      .ok { frequency := settings.frequency, amplitude := settings.amplitude } := by
    rw [tone_of_known hknown, henable]
    rfl
  exact (runBy_of_opened opened toned batches clock).noTimerPeriod (by rw [htimer]; decide)

end Session

end Chip8
