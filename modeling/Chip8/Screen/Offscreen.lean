/-
Chip8.Screen.Offscreen — a window system without a screen.

Sizes are counted in thirty-two bits. A window that is to have no pixels at
all is as large as the desktop, and every other is at least one pixel and at
most `longestSide` pixels wide and high. Negative sizes are refused, and
those for which there is no memory; sizes beyond machine words are no sizes.

A surface can be stretched up to sixteen bits in either direction, so
`present_offscreen` shows every picture of an ordinary size. What is seen
then is `windowRows`.
-/
import Chip8.Screen.Display

namespace Chip8

namespace WindowSystem

namespace Offscreen

/-- The pixels of the desktop in either direction. -/
def desktop : Nat × Nat := (1024, 768)

/-- The most pixels that a window has in one direction. -/
def longestSide : Nat := 16384

/-- Whether there is memory for pixels, at four bytes each; a row is bounded
on its own. -/
def hasPixels (memory : Number.Room) (across down : Nat) : Bool :=
  4 * across < Number.twoTo 31 && memory.grants (4 * (across * down))

/-- What is said where there is no memory. -/
def noMemory : Failure := .refused "Out of memory"

def surface (memory : Number.Room) (width height : Int) : Except Failure Unit :=
  if !(Number.fitsLong width && Number.fitsLong height) then
    .error (.unfit "ValueError" "size needs to be (number width, number height)")
  else
    let (across, down) := (Number.wrapped width, Number.wrapped height)
    if across < 0 ∨ down < 0 ∨ width < 0 ∨ height < 0 then
      .error (.refused "Invalid resolution for Surface")
    else if hasPixels memory across.toNat down.toNat then .ok ()
    else .error noMemory

/-- The pixels of a window, given how many are wanted. -/
def window (memory : Number.Room) (width height : Int) : Except Failure (Nat × Nat) :=
  if !(Number.fitsLong width && Number.fitsLong height) then
    .error (.unfit "TypeError" "size must be two numbers")
  else
    let (across, down) := (Number.wrapped width, Number.wrapped height)
    if across < 0 ∨ down < 0 then .error noMemory
    else if across = 0 ∧ down = 0 then .ok desktop
    else
      let side (wanted : Int) : Nat := max 1 (min wanted.toNat longestSide)
      if hasPixels memory (side across) (side down) then .ok (side across, side down)
      else .error noMemory

/-- Lay a picture onto a surface. It has to have the size of the surface,
which is counted in thirty-two bits. -/
def blit (d : Display) : Except Failure Unit :=
  if Number.wrapped d.width = d.width ∧ Number.wrapped d.height = d.height then .ok ()
  else .error (.unfit "ValueError" "array must match surface dimensions")

/-- Stretch a surface over a window. One without cells needs no stretching. -/
def scale (d : Display) : Except Failure Unit :=
  if d.pixelCount = 0 ∨ (d.width < 65536 ∧ d.height < 65536) then .ok ()
  else .error (.refused "Size too large for scaling")

end Offscreen

theorem Offscreen.sides_nonneg {memory : Number.Room} {width height : Int}
    (h : surface memory width height = .ok ()) : 0 ≤ width ∧ 0 ≤ height := by
  unfold surface at h
  simp only at h
  split at h
  · cases h
  · split at h
    · cases h
    · omega

/-- The window system without a screen, given its memory. -/
def offscreen (memory : Number.Room) : WindowSystem where
  surface := Offscreen.surface memory
  window := Offscreen.window memory
  blit d _ := Offscreen.blit d
  scale := Offscreen.scale
  flip _ := .ok ()
  sides_nonneg := Offscreen.sides_nonneg

/-- Pictures of an ordinary size are shown. -/
theorem present_offscreen {d : Display} (wide : d.width < 65536) (high : d.height < 65536)
    (memory : Number.Room) (pixels : Array Bool) :
    (offscreen memory).present d pixels = .ok () := by
  have hword : ∀ n : Nat, n < 65536 → Number.wrapped n = n := by
    intro n hn
    have htwo : Number.twoTo 32 = 4294967296 := by decide +kernel
    unfold Number.wrapped
    rw [htwo, Int.bmod_def]
    split <;> omega
  have hblit : Offscreen.blit d = .ok () := if_pos ⟨hword _ wide, hword _ high⟩
  have hscale : Offscreen.scale d = .ok () := if_pos (Or.inr ⟨wide, high⟩)
  simp only [present, offscreen, hblit, hscale]
  rfl

end WindowSystem

namespace Display

/-- The cell that is shown at a place of the window, in one direction, when
`cells` are stretched over `places`: a place takes the cell that its middle
lies in, counted in steps that are a whole number of 65536ths of a cell. -/
def stretched (cells places place : Nat) : Nat :=
  let step := cells * 65536 / places
  (step / 2 + place * step) / 65536

/-- Whether a pixel of the window is lit once a picture is shown. -/
def windowPixel (d : Display) (pixels : Array Bool) (across down : Nat) : Bool :=
  let (x, y) := (stretched d.width d.windowWidth across, stretched d.height d.windowHeight down)
  pixels.getD (y * d.width + x) false

/-- The rows of the window once a picture is shown. -/
def windowRows (d : Display) (pixels : Array Bool) : List (List Bool) :=
  (List.range d.windowHeight).map fun down =>
    (List.range d.windowWidth).map fun across => d.windowPixel pixels across down

end Display

end Chip8
