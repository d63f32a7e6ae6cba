/-
Chip8.Screen.Display — the window that shows the picture.

A display turns a flat row-major picture into colours by column and row,
and shows it in a window, every cell `scale` pixels wide and high. The
picture is laid onto a surface of its own and stretched from there over
the window.

Surface and window belong to the window system, and what comes of a call
of it is all that is known here (`WindowSystem`). An error of its own that
keeps the window from being opened becomes an error of the display; any
other is passed on as it is.

`watch` shows the pictures of a journal. A picture that cannot be shown
ends what the journal tells.

The colours are those of the picture (`Proofs.Screen.Layout`), and a run is
shown to its end or up to a failure (`Proofs.Session.Show`).
-/
import Chip8.Log.Journal
import Chip8.Number.Range
import Chip8.Text.Quoted

namespace Chip8

/-- The colour of a cell. -/
inductive Shade where
  | foreground | background
deriving DecidableEq, Repr

/-- The red, green and blue of a shade. -/
def Shade.channels : Shade → List UInt8
  | .foreground => [255, 255, 255]
  | .background => [0, 0, 0]

/-- A window over a picture of `width × height` cells. -/
structure Display where
  width : Nat
  height : Nat
  windowWidth : Nat
  windowHeight : Nat
  frames : Nat := 0
  isOpen : Bool := true
deriving DecidableEq, Repr

/-- How a call of a window system fails. -/
inductive WindowSystem.Failure where
  /-- With an error of its own. -/
  | refused (reason : String)
  /-- With an error of another kind, as over arguments it cannot take. -/
  | unfit (kind reason : String)
deriving DecidableEq, Repr

namespace WindowSystem.Failure

/-- The name of the kind of a failure, as it is reported. -/
def kind : Failure → String
  | .refused _ => "error"
  | .unfit kind _ => kind

def message : Failure → String
  | .refused reason | .unfit _ reason => reason

end WindowSystem.Failure

/-- A window system, by what comes of the calls of it. A display counts the
pictures it has shown, so that a call can come to something else at every
picture. -/
structure WindowSystem where
  /-- Make a surface of a width and a height. -/
  surface : Int → Int → Except WindowSystem.Failure Unit
  /-- Open a window of a width and a height; the answer is the size it has. -/
  window : Int → Int → Except WindowSystem.Failure (Nat × Nat)
  /-- Lay a picture onto the surface of a display. -/
  blit : Display → Array Bool → Except WindowSystem.Failure Unit
  /-- Stretch the surface of a display over its window. -/
  scale : Display → Except WindowSystem.Failure Unit
  /-- Bring the window of a display to the screen. -/
  flip : Display → Except WindowSystem.Failure Unit
  /-- No surface has a negative side. -/
  sides_nonneg : ∀ {width height : Int}, surface width height = .ok () → 0 ≤ width ∧ 0 ≤ height

namespace WindowSystem

/-- A window system that does as it is asked. -/
def willing : WindowSystem where
  surface width height :=
    if 0 ≤ width ∧ 0 ≤ height then .ok () else .error (.refused "Invalid resolution for Surface")
  window width height := .ok (width.toNat, height.toNat)
  blit _ _ := .ok ()
  scale _ := .ok ()
  flip _ := .ok ()
  sides_nonneg h := by
    split at h
    · assumption
    · cases h

/-- The calls that show a picture, up to the first that fails. -/
def present (system : WindowSystem) (d : Display) (pixels : Array Bool) : Except Failure Unit := do
  system.blit d pixels
  system.scale d
  system.flip d

end WindowSystem

/-- What can go wrong with a window. -/
inductive DisplayError where
  /-- A window whose size is too long a number to be logged. -/
  | unwritable
  | noWindow (reason : String)
  | sizeMismatch (expected got : Nat)
  /-- A picture whose colours are more than a machine word can count. -/
  | uncountable
  | closed
  /-- A failure of the window system that is passed on. -/
  | system (failure : WindowSystem.Failure)
deriving DecidableEq, Repr

def DisplayError.message : DisplayError → String
  | .unwritable => Number.unwritableText
  | .noWindow reason => s!"Failed to create window: {reason}"
  | .sizeMismatch expected got => s!"Size mismatch: expected {expected} pixels, got {got}"
  | .uncountable => Number.uncountableText
  | .closed => "Window is closed"
  | .system failure => failure.message

/-- The name of the kind of an error, as it is reported. -/
def DisplayError.kind : DisplayError → String
  | .unwritable | .uncountable => "ValueError"
  | .noWindow _ | .sizeMismatch .. | .closed => "DisplayError"
  | .system failure => failure.kind

/-- Whether an error is the display's own. The others are those of numbers
that it was asked for with and of the window system. -/
def DisplayError.isOwn : DisplayError → Bool
  | .noWindow _ | .sizeMismatch .. | .closed => true
  | .unwritable | .uncountable | .system _ => false

namespace Display

/-- Open a window. A surface for the pictures is made first, and of the
window only an error of the system's own is an error of the display. -/
def make (system : WindowSystem) (title : String) (width height scale : Int) :
    Except DisplayError Display × List Log.Record :=
  match system.surface width height with
  | .error failure => (.error (.system failure), [])
  | .ok () =>
      let (across, down) := (width * scale, height * scale)
      if !(Number.isWritable across && Number.isWritable down) then (.error .unwritable, [])
      else
        let made := match system.window across down with
          | .error (.refused reason) => .error (.noWindow reason)
          | .error failure => .error (.system failure)
          | .ok (windowWidth, windowHeight) =>
              .ok { width := width.toNat, height := height.toNat, windowWidth, windowHeight }
        (made, [Log.debug
          s!"Creating window {Text.Quoted.quote title} with the size of {across}x{down}"])

def pixelCount (d : Display) : Nat := d.width * d.height

/-- Reject a picture that is not of the display's size. A picture without
cells still has its lengths, and three bytes a colour along each of them. -/
def checkSize (d : Display) (pixels : Array Bool) : Except DisplayError Unit :=
  if pixels.size ≠ d.pixelCount then .error (.sizeMismatch d.pixelCount pixels.size)
  else if d.pixelCount = 0 ∧ !Number.fitsLong (3 * (max 1 d.width * max 1 d.height) : Nat) then
    .error .uncountable
  else .ok ()

/-- The colours of a picture, column by column. -/
def colours (d : Display) (pixels : Array Bool) : Except DisplayError (List (List Shade)) :=
  match d.checkSize pixels with
  | .error e => .error e
  | .ok () => .ok <| (List.range d.width).map fun x => (List.range d.height).map fun y =>
      if pixels.getD (y * d.width + x) false then .foreground else .background

/-- The colours of a picture in red, green and blue, column by column. -/
def rgb (d : Display) (pixels : Array Bool) : Except DisplayError (List (List (List UInt8))) :=
  (d.colours pixels).map (·.map (·.map Shade.channels))

/-- Show a picture. The size of the picture is looked at first. -/
def draw (system : WindowSystem) (d : Display) (pixels : Array Bool) :
    Except DisplayError Display :=
  match d.checkSize pixels with
  | .error e => .error e
  | .ok () =>
      if !d.isOpen then .error .closed
      else match system.present d pixels with
        | .error failure => .error (.system failure)
        | .ok () => .ok { d with frames := d.frames + 1 }

/-- Close the window, unless it is closed. -/
def close (d : Display) : Display × List Log.Record :=
  if d.isOpen then ({ d with isOpen := false }, [Log.debug "Closing window"]) else (d, [])

/-- What comes of a journal at a window: the display after it, the part of
the journal that happened, and what ended it before its end. -/
structure Watched where
  display : Display
  journal : Journal
  failure : Option DisplayError

/-- Show the pictures of a journal one after the other. Nothing happens
after one that cannot be shown. -/
def watch (system : WindowSystem) (d : Display) : Journal → Watched
  | [] => { display := d, journal := [], failure := none }
  | entry :: rest =>
      let shown := match entry with
        | .frame _ picture => d.draw system picture.cells
        | .poll | .keypad | .toneOn | .toneOff | .log _ => .ok d
      match shown with
      | .error e => { display := d, journal := [entry], failure := some e }
      | .ok after =>
          let watched := after.watch system rest
          { watched with journal := entry :: watched.journal }

end Display

end Chip8
