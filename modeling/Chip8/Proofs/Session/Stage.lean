/-
Chip8.Proofs.Session.Stage — how far a session gets.

`Opened` is a session that has its settings, its image and its window. What
is left before the run is the tone and the clockwork: such a session breaks
off exactly where `equip` does (`begin_of_opened`), and that is where the
tone fails (`Session.tone`) or, with a tone, where the clockwork does
(`equip_result`, `assemble_result`). A session with a stage that was put
together so ends with an exit code, whatever events come and whatever the
clock tells, unless the window system fails on a picture or the run took
longer than can be told (`Ended`, `run_of_begin`).
-/
import Chip8.Proofs.Scheduler.Order
import Chip8.Proofs.Session.Show
import Chip8.Proofs.Settings.Accepted
import Chip8.Screen.Offscreen
import Chip8.Session

namespace Chip8.Session

/-- A session that has its settings, its image and its window. -/
structure Opened (host : Host) (argv : List String) (table : Table) (settings : Settings)
    (rom : Rom) (display : Display) : Prop where
  loaded : (Settings.load (Toml.maxDepth - 1)
    (Location.join host.workingDirectory "config.toml").text host.settings).1 = .ok table
  checked : Settings.check table = .ok settings
  shown : ∃ location, romLocation? host.workingDirectory argv = .ok (some location) ∧
    (Rom.ofFile location.text (host.look location)).1 = .ok rom ∧
    (Display.make host.windows s!"PyCHIP8 - {location.name}" screenWidth screenHeight
      settings.scale).1 = .ok display

/-- The beeper of a session, or why it has none. -/
def tone (memory : Number.Room) (audio : Audio) (table : Table) (settings : Settings) :
    Except Interruption Beeper :=
  match unknownAudioKey? table with
  | some key => .error (.unknownAudioKey key)
  | none =>
      (Beeper.make settings.frequency settings.amplitude settings.enable memory audio).1.mapError
        .wave

theorem tone_of_known {memory : Number.Room} {audio : Audio} {table : Table} {settings : Settings}
    (known : unknownAudioKey? table = none) :
    tone memory audio table settings =
      (Beeper.make settings.frequency settings.amplitude settings.enable memory
        audio).1.mapError .wave := by
  unfold tone
  rw [known]

/-- The stage of a session, with nothing said yet. -/
def stageOf (settings : Settings) (display : Display) (beeper : Beeper) (scheduler : Scheduler) :
    Stage :=
  { display, beeper, control := (Control.make settings.keyboard).1, scheduler, logs := [] }

section Opening

variable {host : Host} {argv : List String} {table : Table} {settings : Settings} {rom : Rom}
  {display : Display}

theorem image_fits {path : String} {found : Found} (h : (Rom.ofFile path found).1 = .ok rom) :
    rom.data.length ≤ maxProgramSize := by
  cases found with
  | content bytes =>
    simp only [Rom.ofFile, Rom.ofBytes] at h
    split at h
    · cases h
    · injection h with h
      rw [← h]
      exact not_lt.mp ‹_›
  | _ => cases h

/-- Tone first, then the clockwork. -/
theorem equip_result (host : Host) (debug : Bool) (table : Table) (settings : Settings) (rom : Rom)
    (display : Display) :
    (equip host debug table settings rom display).1 = do
      let beeper ← tone host.memory host.audio table settings
      let scheduler ← (assemble host debug settings rom).1
      return stageOf settings display beeper scheduler := by
  unfold equip tone
  cases unknownAudioKey? table with
  | some key => rfl
  | none =>
    simp only
    cases (Beeper.make settings.frequency settings.amplitude settings.enable host.memory
      host.audio).1 with
    | error e => rfl
    | ok beeper =>
      simp only
      cases (assemble host debug settings rom).1 <;> rfl

theorem openStage_result {name : String} (h : (Display.make host.windows s!"PyCHIP8 - {name}"
      screenWidth screenHeight settings.scale).1 = .ok display) (debug : Bool) (table : Table)
    (rom : Rom) (logs : List Log.Record) :
    ∃ told, openStage host debug table settings rom name logs =
      match (equip host debug table settings rom display).1 with
      | .error e => .error ⟨.error e, told⟩
      | .ok stage => .ok { stage with logs := told } := by
  unfold openStage
  simp only [h]
  cases (equip host debug table settings rom display).1 with
  | error e => exact ⟨_, rfl⟩
  | ok stage => exact ⟨_, rfl⟩

/-- With settings, image and window, what becomes of a session is decided by
tone and clockwork. -/
theorem begin_of_opened (h : Opened host argv table settings rom display) :
    ∃ told, begin host argv =
      match (equip host (argv.contains debugFlag) table settings rom display).1 with
      | .error e => .error ⟨.error e, told⟩
      | .ok stage => .ok { stage with logs := told } := by
  obtain ⟨location, hlocation, hrom, hdisplay⟩ := h.shown
  unfold begin
  simp only [h.loaded, h.checked, loadImage, hlocation, hrom]
  exact openStage_result hdisplay _ table rom _

/-- A session without a tone breaks off on that. -/
theorem begin_of_no_tone (h : Opened host argv table settings rom display) {e : Interruption}
    (failed : tone host.memory host.audio table settings = .error e) :
    ∃ told, begin host argv = .error ⟨.error e, told⟩ := by
  obtain ⟨told, hbegin⟩ := begin_of_opened h
  rw [equip_result, failed] at hbegin
  exact ⟨told, hbegin⟩

/-- A session with a tone breaks off where the clockwork cannot be put
together, and is ready to run otherwise. -/
theorem begin_of_tone (h : Opened host argv table settings rom display) {beeper : Beeper}
    (toned : tone host.memory host.audio table settings = .ok beeper) :
    ∃ told, begin host argv =
      match (assemble host (argv.contains debugFlag) settings rom).1 with
      | .error e => .error ⟨.error e, told⟩
      | .ok scheduler => .ok { stageOf settings display beeper scheduler with logs := told } := by
  obtain ⟨told, hbegin⟩ := begin_of_opened h
  rw [equip_result, toned] at hbegin
  refine ⟨told, hbegin.trans ?_⟩
  cases (assemble host (argv.contains debugFlag) settings rom).1 <;> rfl

end Opening

/-! ## The clockwork -/

section Clockwork

variable {host : Host} {settings : Settings} {rom : Rom}

/-- The processor of a session. -/
def processorOf (host : Host) (debug : Bool) (rom : Rom) (period : Int) (h : 0 < period) :
    Processor :=
  { Processor.boot rom.data host.random period h with
    listeners := [.named "display"], tracing := debug }

/-- The scheduler of a session, given that both frequencies leave a period. -/
def schedulerOf (host : Host) (debug : Bool) (settings : Settings) (rom : Rom)
    (timer : 0 < nanosPerSecond / settings.timerHz) (cpu : 0 < nanosPerSecond / settings.cpuHz) :
    Scheduler where
  processor := processorOf host debug rom _ timer
  tickPeriod := nanosPerSecond / settings.cpuHz
  tickPeriod_pos := cpu

theorem processorOf_fresh {period : Int} (h : 0 < period) (fits : rom.data.length ≤ maxProgramSize)
    (host : Host) (debug : Bool) : (processorOf host debug rom period h).Fresh :=
  .intro (Processor.make_eq_ok_iff.mpr ⟨fits, h, rfl⟩) [.named "display"] debug

/-- The clockwork of a session: the periods are whole numbers of nanoseconds,
and there is none for a frequency that leaves no nanosecond. -/
theorem assemble_result (fits : rom.data.length ≤ maxProgramSize) (host : Host) (debug : Bool)
    (settings : Settings) :
    (assemble host debug settings rom).1 =
      if timer : 0 < nanosPerSecond / settings.timerHz then
        if cpu : 0 < nanosPerSecond / settings.cpuHz then
          .ok (schedulerOf host debug settings rom timer cpu)
        else .error .tickPeriod
      else .error (.processor (.timer .periodNotPositive)) := by
  unfold assemble
  by_cases h : 0 < nanosPerSecond / settings.timerHz
  · have hmake : (Processor.make rom.data host.random (nanosPerSecond / settings.timerHz)).1 =
        .ok (Processor.boot rom.data host.random _ h) :=
      Processor.make_eq_ok_iff.mpr ⟨fits, h, rfl⟩
    rw [dif_pos h]
    simp only [hmake]
    by_cases h' : 0 < nanosPerSecond / settings.cpuHz
    · rw [dif_pos h', Scheduler.make, dif_pos h']
      rfl
    · rw [dif_neg h', Scheduler.make, dif_neg h']
  · have hmake := Processor.make_of_no_period fits h host.random
    rw [dif_neg h]
    simp only [hmake]

end Clockwork

/-! ## The run -/

/-- Polls are answered with whole keypads. -/
theorem keys_of_mem_polls {c : Control} {batches : List (List Event)} :
    ∀ poll ∈ c.polls batches, poll.keys.length = 16 := by
  have htimed : batches = (batches.map fun events => ((0 : Int), events)).map Prod.snd := by
    rw [List.map_map]
    exact (List.map_id batches).symm
  rw [htimed, Control.polls_eq_script]
  intro poll hpoll
  obtain ⟨one, hone, rfl⟩ := List.mem_map.mp hpoll
  exact Control.keys_of_mem_script one hone

/-- How a session that came to its run ends. -/
inductive Ended (host : Host) (clock : Clock) : Except Interruption Nat → Prop
  /-- With an exit code. -/
  | exit (code : Nat) (known : code ≤ 1) : Ended host clock (.ok code)
  /-- The run took more seconds than can be told. -/
  | elapsed (last : Nat) (later : clock.taken < last)
      (long : Stopwatch.seconds? (clock.reading last - clock.reading clock.taken) = none) :
      Ended host clock (.error .elapsed)
  /-- The window system failed on a picture of the run. -/
  | unshown (d : Display) (screen : d.OfScreen) (picture : Frame) (shape : picture.IsScreen)
      (failure : WindowSystem.Failure)
      (fails : host.windows.present d picture.cells = .error failure) :
      Ended host clock (.error (.display (.system failure)))

/-- With a window system that shows every picture of the screen and a clock
that can be told, only the exit codes are left. -/
theorem Ended.exits {host : Host} {clock : Clock} {result : Except Interruption Nat}
    (h : Ended host clock result)
    (shows : ∀ d : Display, d.OfScreen → ∀ picture : Frame, picture.IsScreen →
      host.windows.present d picture.cells = .ok ())
    (told : ∀ last > clock.taken,
      Stopwatch.seconds? (clock.reading last - clock.reading clock.taken) ≠ none) :
    ∃ code ≤ 1, result = .ok code := by
  cases h with
  | exit code known => exact ⟨code, known, rfl⟩
  | elapsed last later long => exact absurd long (told last later)
  | unshown d screen picture shape failure fails =>
    rw [shows d screen picture shape] at fails
    cases fails

/-- After a run whose result is told, that is what is left. -/
theorem ended_finish {host : Host} {clock : Clock} {stage : Stage} {finished : Finished}
    {outcome : Outcome} (told : finished.result = .ok outcome) (screen : stage.display.OfScreen)
    (screens : finished.journal.Screens) {last : Nat} (later : clock.taken < last) :
    Ended host clock
      (finish host.windows stage finished
        (clock.reading last - clock.reading clock.taken)).result := by
  have hwatching := Display.watching_watch host.windows screen screens
  unfold finish
  simp only
  generalize stage.display.watch host.windows finished.journal = watched at hwatching
  cases hwatching with
  | broken before later listener picture parts shape failure fails =>
    exact .unshown _ (screen.after _) picture shape failure fails
  | whole =>
    cases outcome with
    | failure fault =>
      simp only [told]
      exact .exit 1 le_rfl
    | success steps =>
      simp only [told]
      cases hseconds : Stopwatch.seconds? (clock.reading last - clock.reading clock.taken) with
      | none => exact .elapsed last later hseconds
      | some seconds => exact .exit 0 (Nat.zero_le 1)

theorem run_of_begin_error {host : Host} {argv : List String} {e : Interruption}
    {told : List Log.Record} (h : begin host argv = .error ⟨.error e, told⟩)
    (batches : List (List Event)) (clock : Clock) :
    (run host argv batches clock).result = .error e := by
  unfold run
  rw [h]

/-- A session that is ready, with a fresh processor, listeners that can be
called and a window for the screen, ends as `Ended` has it. -/
theorem run_of_begin {host : Host} {argv : List String} {stage : Stage}
    (begun : begin host argv = .ok stage) (fresh : stage.scheduler.processor.Fresh)
    (alive : Listener.dead ∉ stage.scheduler.processor.listeners)
    (screen : stage.display.OfScreen) (batches : List (List Event)) (clock : Clock) :
    Ended host clock (run host argv batches clock).result := by
  unfold run
  simp only [begun]
  have hregular : (stage.scheduler.begin clock.read.2.read.1).processor.Regular := fresh.regular
  obtain ⟨before, now, poll, -, hending⟩ := Scheduler.loop_ending
    (show (stage.scheduler.begin clock.read.2.read.1).running = true from rfl) hregular alive
    keys_of_mem_polls clock.read.2.read.2 #[.log stage.scheduler.beginRecord]
  have hscreens := hending.screens hregular (Journal.screens_of_none rfl)
  -- the last reading comes after the first, that of the run and those of its polls
  have hlater : ∀ polls, clock.taken < clock.taken + 1 + (1 + polls) := by omega
  rcases hending.result with ⟨htold, -⟩ | ⟨f, htold, -⟩
  · exact ended_finish htold screen hscreens (hlater _)
  · exact ended_finish htold screen hscreens (hlater _)

/-! ## A small host -/

/-- A host with an image of two zeros at every path, and a window system
without a screen. -/
def smallHost (source : Settings.Source) (memory : Number.Room) (audio : Audio) : Host where
  workingDirectory := "/w"
  look := fun _ => .content [0x00, 0x00]
  settings := source
  memory := memory
  audio := audio
  windows := .offscreen .ample
  random := RandomSource.cycle []
  windowing := "2.5"

/-- The arguments that name an image in the working directory. -/
def smallArguments : List String := ["main.py", "p"]

theorem romLocation_small :
    romLocation? "/w" smallArguments = .ok (some ⟨"/w", ["p"]⟩) := by
  have hsplit : "p".splitOn "/" = ["p"] := by
    unfold String.splitOn
    rw [if_neg (by decide), String.splitOnAux, if_neg (by decide +kernel),
      if_neg (by decide +kernel), String.splitOnAux, if_pos (by decide +kernel)]
    decide +kernel
  have hparts : Location.partsOf "p" = ["p"] := by
    unfold Location.partsOf
    rw [hsplit]
    decide
  have hlast : ((smallArguments.drop 1).filter fun arg => !arg.startsWith "--").getLast? =
      some "p" := by decide +kernel
  unfold romLocation? Location.resolve
  rw [hlast]
  simp only [hparts]
  decide +kernel

theorem opened_small {source : Settings.Source} (memory : Number.Room) (audio : Audio)
    {table : Table} {settings : Settings} (loaded : (Settings.load (Toml.maxDepth - 1)
      (Location.join "/w" "config.toml").text source).1 = .ok table)
    (checked : Settings.check table = .ok settings)
    (window : (Display.make (.offscreen .ample) "PyCHIP8 - p" screenWidth screenHeight
      settings.scale).1.isOk = true) :
    ∃ display, Opened (smallHost source memory audio) smallArguments table settings
      ⟨"/w/p", [0x00, 0x00]⟩ display := by
  cases hdisplay : (Display.make (.offscreen .ample) "PyCHIP8 - p" screenWidth screenHeight
      settings.scale).1 with
  | error e =>
    rw [hdisplay] at window
    cases window
  | ok display =>
    have himage : (Rom.ofFile (⟨"/w", ["p"]⟩ : Location).text (.content [0x00, 0x00])).1 =
        .ok ⟨"/w/p", [0x00, 0x00]⟩ := by decide +kernel
    exact ⟨display, loaded, checked, ⟨"/w", ["p"]⟩, romLocation_small, himage, hdisplay⟩

end Chip8.Session
