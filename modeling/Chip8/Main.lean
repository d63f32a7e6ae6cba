/-
Chip8.Main — the command line.

    chip8 [--debug] <rom>

runs a program image in real time. Settings are read from `config.toml` in
the working directory. The picture is written to standard output, two
characters a cell, whenever the program has drawn; what the program says
goes to standard error, debug records only with `--debug`. A terminal has
no key events, so that no key is ever down.

Everything that decides anything is in `Chip8.Session` and below; here are
only the clock, the files and the terminal.
-/
import Chip8.Session

namespace Chip8.Main

/-- Write records to standard error, unless they are too light. -/
def tell (debug : Bool) (records : List Log.Record) : IO Unit := do
  for record in records do
    if debug || record.level ≠ .debug then
      IO.eprintln s!"[{record.level.name}] {record.text}"

def pictureText (frame : Frame) : String :=
  String.join <| (List.range frame.height).map fun row =>
    let cells := (List.range frame.width).map fun column =>
      if frame.lit (row * frame.width + column) then "██" else "  "
    String.join cells ++ "\n"

/-- Write the pictures of a journal over one another. -/
def display (journal : Journal) : IO Unit := do
  for entry in journal do
    if let .frame _ picture := entry then
      IO.print ("\x1b[H" ++ pictureText picture)

/-- What is found at a path of the file system. -/
def look (l : Location) : IO Found := do
  if l.hasNull then return .nothing
  if l.parts.any fun part => part.utf8ByteSize > Location.maxNameSize then return .nameTooLong
  try
    return .content (← IO.FS.readBinFile l.text).toList
  catch
    | .noFileOrDirectory .. => return .nothing
    | .inappropriateType .. => return .directory
    | .permissionDenied _ code details => return .locked code.toNat details
    | e => return .locked 0 (toString e)

/-- What is found at a path, as a place to read settings from. -/
def settingsAt (l : Location) : IO Settings.Source := do
  match ← look l with
  | .content bytes => return .content bytes
  | .directory => return .directory
  | .nothing | .nameTooLong | .locked .. => return .absent

/-- Iterate in real time until the program ends; the beeper and the run as
they are then. -/
partial def play (debug : Bool) (stage : Stage) (s : Scheduler) : IO (Stage × Finished) := do
  let now ← IO.monoNanosNow
  let one := s.iterate now { keys := stage.control.snapshot }
  tell debug (stage.beeper.narrate one.journal)
  display one.journal
  let beeper := (stage.beeper.follow one.journal).1
  let stage := { stage with beeper, scheduler := one.scheduler }
  match one.fault with
  | some fault => return (stage, one.scheduler.abort fault #[])
  | none =>
      if one.scheduler.running then play debug stage one.scheduler
      else return (stage, one.scheduler.conclude #[])

def perform (debug : Bool) (windows : WindowSystem) (stage : Stage) : IO Report := do
  tell debug (stage.logs ++ [stage.scheduler.beginRecord])
  let began ← IO.monoNanosNow
  let (stage, finished) ← play debug { stage with logs := [] } (stage.scheduler.begin began)
  let ended ← IO.monoNanosNow
  return Session.finish windows stage finished ((ended : Int) - began)

/-- The surroundings of a session that looks for its image in the file
system. -/
def host (argv : List String) : IO Host := do
  let workingDirectory := (← IO.currentDir).toString
  let image ← match Session.romLocation? workingDirectory argv with
    | .ok (some location) => look location
    | _ => pure .nothing
  let settings ← settingsAt (Location.join workingDirectory "config.toml")
  let bytes ← IO.getRandomBytes 4096
  return {
    workingDirectory, settings, look := fun _ => image
    memory := .ample
    audio := { device := .error "no audio in a terminal" }
    windows := .willing
    random := RandomSource.cycle (bytes.toList.map fun b => (b.toNat : Int))
    windowing := "none" }

end Chip8.Main

/-- Run the image that the arguments name; the exit code tells how it
went. -/
def main (arguments : List String) : IO UInt32 := do
  let argv := "chip8" :: arguments
  let debug := argv.contains Chip8.Session.debugFlag
  let host ← Chip8.Main.host argv
  let report ← match Chip8.Session.begin host argv with
    | .error report => pure report
    | .ok stage => Chip8.Main.perform debug host.windows stage
  Chip8.Main.tell debug report.logs
  match report.result with
  | .ok code => return UInt32.ofNat code
  | .error interruption =>
      IO.eprintln interruption.message
      return 1
