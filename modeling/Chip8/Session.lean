/-
Chip8.Session — one run of the whole program.

A session reads the settings, finds and loads the program image, opens
the window, the tone and the keyboard, and runs the scheduler until the
host quits or the program faults. `Session.begin` does all up to the run
and `Session.finish` all after it, so that the run itself can be driven
by a script of polls or by a real host.

Everything the program says is collected in order. A session ends with an
exit code; only settings of an unusable shape, numbers beyond what the
clockwork and the tone can take, paths that are none and a window system
that fails make it break off (`Interruption`).

How far a session gets is proved in `Proofs.Session.Stage`.
-/
import Chip8.Files
import Chip8.Keypad.Control
import Chip8.Screen.Display
import Chip8.Settings.Load
import Chip8.Sound.Beeper
import Chip8.Stopwatch

namespace Chip8

/-- The surroundings of a session. -/
structure Host where
  workingDirectory : String
  /-- What is found at a path. -/
  look : Location → Found
  settings : Settings.Source
  /-- The memory that the wave of the tone is built in. -/
  memory : Number.Room
  audio : Audio
  windows : WindowSystem
  random : RandomSource
  /-- The version of the windowing library. -/
  windowing : String

/-- Why a session breaks off without an exit code. -/
inductive Interruption where
  | settings (problem : Problem)
  | path (problem : Location.Unresolvable)
  | image (refusal : Rom.Refusal)
  /-- An entry of the audio table that no beeper knows. -/
  | unknownAudioKey (key : String)
  | display (error : DisplayError)
  | wave (error : WaveError)
  | processor (refusal : Processor.Refusal)
  | tickPeriod
  | fault (fault : Fault)
  /-- A run that took longer than seconds can be counted in a double. -/
  | elapsed

/-- The wording for an entry that no beeper knows. -/
def unknownAudioKeyMessage (key : String) : String :=
  if key = "self" then "Beeper.__init__() got multiple values for argument 'self'"
  else s!"Beeper.__init__() got an unexpected keyword argument '{key}'"

def Interruption.message : Interruption → String
  | .settings (.flaw f) => f.message
  | .settings (.breach b) => b.message
  | .path problem => problem.message
  | .image refusal => refusal.message
  | .unknownAudioKey key => unknownAudioKeyMessage key
  | .display e => e.message
  | .wave e => e.message
  | .processor refusal => refusal.message
  | .tickPeriod => Scheduler.periodMessage
  | .fault f => f.message
  | .elapsed => Number.Binary64.outOfRangeText

/-- A session that has ended, with all that was said. -/
structure Report where
  result : Except Interruption Nat
  logs : List Log.Record

/-- A session that is ready to run. -/
structure Stage where
  display : Display
  beeper : Beeper
  control : Control
  scheduler : Scheduler
  logs : List Log.Record

namespace Session

def programName : String := "PyCHIP8 0.1.0-dev.0"

/-- The flag that asks for debug records and a trace. -/
def debugFlag : String := "--debug"

/-- The path of the program image: the last argument that is no flag. -/
def romLocation? (workingDirectory : String) (argv : List String) :
    Except Location.Unresolvable (Option Location) :=
  match ((argv.drop 1).filter fun arg => !arg.startsWith "--").getLast? with
  | some arg => (Location.resolve workingDirectory arg).map some
  | none => .ok none

/-- What is said when the host is let go. -/
def shutDown : Log.Record := Log.info "Pygame: Shutting down"

/-- The entries of the audio table that a beeper knows. -/
def audioKeys : List String := ["frequency", "amplitude", "enable"]

/-- The first entry of the audio table that no beeper knows. -/
def unknownAudioKey? (table : Table) : Option String :=
  match Table.get? table "audio" with
  | some (.table audio) =>
      (Table.keys audio).find? fun key => !audioKeys.contains key
  | _ => none

/-- The processor and scheduler for a program, listening to the control and
showing on the display. -/
def assemble (host : Host) (debug : Bool) (settings : Settings) (rom : Rom) :
    Except Interruption Scheduler × List Log.Record :=
  let (made, journal) := Processor.make rom.data host.random (nanosPerSecond / settings.timerHz)
  match made with
  | .error refusal => (.error (.processor refusal), journal.records)
  | .ok processor =>
      let processor := { processor with listeners := [.named "display"], tracing := debug }
      match Scheduler.make processor (nanosPerSecond / settings.cpuHz) with
      | none => (.error .tickPeriod, journal.records)
      | some scheduler => (.ok scheduler, journal.records)

/-- Open tone and keyboard and put the clockwork together. -/
def equip (host : Host) (debug : Bool) (table : Table) (settings : Settings) (rom : Rom)
    (display : Display) : Except Interruption Stage × List Log.Record :=
  match unknownAudioKey? table with
  | some key => (.error (.unknownAudioKey key), [])
  | none =>
      let (beeper, beeperLogs) :=
        Beeper.make settings.frequency settings.amplitude settings.enable host.memory host.audio
      match beeper with
      | .error e => (.error (.wave e), beeperLogs)
      | .ok beeper =>
          let (control, controlLogs) := Control.make settings.keyboard
          let (scheduler, schedulerLogs) := assemble host debug settings rom
          let logs := beeperLogs ++ controlLogs ++ schedulerLogs
          (scheduler.map fun scheduler => { display, beeper, control, scheduler, logs := [] }, logs)

/-- Open the window and everything else for a loaded image. -/
def openStage (host : Host) (debug : Bool) (table : Table) (settings : Settings) (rom : Rom)
    (name : String) (logs : List Log.Record) : Except Report Stage :=
  let (display, displayLogs) :=
    Display.make host.windows s!"PyCHIP8 - {name}" screenWidth screenHeight settings.scale
  let logs := logs ++ displayLogs
  match display with
  | .error e =>
      if e.isOwn then
        .error ⟨.ok 1, logs ++ [Log.error s!"Unable to start: {e.message}", shutDown]⟩
      else .error ⟨.error (.display e), logs ++ [shutDown]⟩
  | .ok display =>
      let (stage, stageLogs) := equip host debug table settings rom display
      let logs := logs ++ stageLogs
      match stage with
      | .error e => .error ⟨.error e, logs ++ display.close.2 ++ [shutDown]⟩
      | .ok stage => .ok { stage with logs }

/-- Find and load the image that the arguments name. -/
def loadImage (host : Host) (argv : List String) (table : Table) (settings : Settings)
    (logs : List Log.Record) : Except Report Stage :=
  let logs := logs ++ [Log.info s!"Starting {programName}"]
  match romLocation? host.workingDirectory argv with
  | .error problem => .error ⟨.error (.path problem), logs⟩
  | .ok none => .error ⟨.ok 1, logs ++ [Log.error "Usage: main.py [--debug] <rom>"]⟩
  | .ok (some location) =>
      let (rom, romLogs) := Rom.ofFile location.text (host.look location)
      let logs := logs ++ romLogs
      match rom with
      | .error refusal =>
          if refusal.breaksOff then .error ⟨.error (.image refusal), logs⟩
          else .error ⟨.ok 1, logs ++ [Log.error refusal.message]⟩
      | .ok rom =>
          let loaded :=
            [Log.info s!"Loaded: {location.name} ({rom.size} bytes)",
              Log.info s!"Starting pygame community edition {host.windowing}"]
          openStage host (argv.contains debugFlag) table settings rom location.name (logs ++ loaded)

/-- Everything up to the run: a session that is ready, or one that ended
before it began. -/
def begin (host : Host) (argv : List String) : Except Report Stage :=
  let path := (Location.join host.workingDirectory "config.toml").text
  let (table, logs) := Settings.load (Toml.maxDepth - 1) path host.settings
  match table with
  | .error b => .error ⟨.error (.settings (.breach b)), logs⟩
  | .ok table =>
      match Settings.check table with
      | .error problem => .error ⟨.error (.settings problem), logs⟩
      | .ok settings => loadImage host argv table settings logs

/-- The report of a program's fault: its kind and wording, and the trace if
there is one. -/
def faultRecords (fault : Fault) (trace : Trace) : List Log.Record :=
  let lines := trace.toList
  let history := if lines.isEmpty then []
    else [Log.error ("Last instructions:\n" ++ "\n".intercalate lines)]
  Log.error s!"{fault.kind}: {fault.message}" :: history

def secondsLayout : Number.Layout := { precision := some 2, type := some 'f' }

/-- Everything after the run: close the window and tell how it went, given
the nanoseconds that the run took. The window shows what the run drew; a
picture that the window system fails on broke the run off there. -/
def finish (windows : WindowSystem) (stage : Stage) (finished : Finished) (nanos : Int) : Report :=
  let watched := stage.display.watch windows finished.journal
  let logs := stage.logs ++ stage.beeper.narrate watched.journal
    ++ watched.display.close.2 ++ [shutDown]
  match watched.failure, finished.result with
  | some e, _ => ⟨.error (.display e), logs⟩
  | none, .error fault => ⟨.error (.fault fault), logs⟩
  | none, .ok (.failure fault) =>
      ⟨.ok 1, logs ++ faultRecords fault finished.scheduler.processor.trace⟩
  | none, .ok (.success steps) =>
      match Stopwatch.seconds? nanos with
      | none => ⟨.error .elapsed, logs⟩
      | some seconds =>
          ⟨.ok 0, logs ++ [Log.info s!"Ran {steps} steps in {secondsLayout.render seconds}s"]⟩

/-- A session whose host has a batch of events at each poll, and quits when
they are used up. The clock is looked at once before the run, in the run
at its beginning and at each poll, and once after it. -/
def run (host : Host) (argv : List String) (batches : List (List Event)) (clock : Clock) :
    Report :=
  match begin host argv with
  | .error report => report
  | .ok stage =>
      let (began, clock) := clock.read
      let finished := stage.scheduler.run (stage.control.polls batches) clock
      let (ended, _) := (clock.skip (1 + finished.journal.polls)).read
      finish host.windows stage finished (ended - began)

end Session

end Chip8
