/-
Chip8.Proofs.Screen.Layout — the machine and the window lay a picture out the
same way.

A window turns a picture into colours by column and row, and a picture of any
other size is refused (`rgb_of_size`, `rgb_of_other_size`). The colour at a
column and a row is that of the cell in which the machine has them, row after
row (`Shows`), and so the picture can be read back from its colours
(`picture_of_shows`).

A sprite is drawn by the machine in cells. That the colours it changes are at
the columns and rows of its bits (`drawn_colours`) takes that two cells are one
only if their columns and their rows are (`cell_inj`), and that on a picture
with room for the sprite no two of its bits fall on one cell.

A picture that is not shown leaves the window as it was, and so the frames of
a window count the pictures that were shown (`frames_serveAll`). A picture of
the right size is shown by an open window unless a call of the window system
fails (`draw_ok_iff`), whichever and whenever that is.
-/
import Chip8.Proofs.Machine.Drawing
import Chip8.Screen.Display

namespace Chip8

/-- A cell of a grid has one column and one row. -/
theorem cell_inj {width x y x' y' : Nat} (hx : x < width) (hx' : x' < width) :
    y * width + x = y' * width + x' ↔ x = x' ∧ y = y' := by
  constructor
  · intro h
    have hmod := congrArg (· % width) h
    simp only [Nat.mul_add_mod_self_right, Nat.mod_eq_of_lt hx, Nat.mod_eq_of_lt hx'] at hmod
    subst hmod
    exact ⟨rfl, Nat.eq_of_mul_eq_mul_right (by omega) (Nat.add_right_cancel h)⟩
  · rintro ⟨rfl, rfl⟩
    rfl

theorem cell_lt {width height x y : Nat} (hx : x < width) (hy : y < height) :
    y * width + x < width * height := by
  calc y * width + x < y * width + width := Nat.add_lt_add_left hx _
    _ = width * (y + 1) := by rw [Nat.mul_comm, Nat.mul_succ]
    _ ≤ width * height := Nat.mul_le_mul_left _ hy

namespace Display

/-- Colours in red, green and blue, column by column. -/
abbrev Image := List (List (List UInt8))

def colourAt (image : Image) (x y : Nat) : Option (List UInt8) :=
  image[x]?.bind fun column => column[y]?

/-- The colours of a picture on a display: a column for each of its columns, a
colour in each of its rows, three numbers a colour, and the bright colour where
the cell is lit. -/
structure Shows (d : Display) (pixels : Array Bool) (image : Image) : Prop where
  columns : image.length = d.width
  rows : ∀ column ∈ image, column.length = d.height
  channels : ∀ column ∈ image, ∀ colour ∈ column, colour.length = 3
  entry : ∀ x y, x < d.width → y < d.height → ∃ lit, pixels[y * d.width + x]? = some lit ∧
    colourAt image x y = some (if lit then [255, 255, 255] else [0, 0, 0])

/-- The picture that is read back from its colours. -/
def picture (d : Display) (image : Image) : Array Bool :=
  Array.ofFn fun p : Fin d.pixelCount =>
    colourAt image (p.val % d.width) (p.val / d.width) = some Shade.foreground.channels

variable {d : Display} {pixels : Array Bool} {image : Image}

/-! ## Colours -/

theorem rgb_of_other_size (h : pixels.size ≠ d.pixelCount) :
    d.rgb pixels = .error (.sizeMismatch d.pixelCount pixels.size) := by
  unfold rgb colours checkSize
  rw [if_pos h]
  rfl

theorem checkSize_of_size (cells : 0 < d.pixelCount) (h : pixels.size = d.pixelCount) :
    d.checkSize pixels = .ok () := by
  unfold checkSize
  rw [if_neg (not_not.mpr h), if_neg (by omega)]

/-- A picture of the size of the display is shown as it is. -/
theorem rgb_of_size (cells : 0 < d.pixelCount) (h : pixels.size = d.pixelCount) :
    ∃ image, d.rgb pixels = .ok image ∧ d.Shows pixels image := by
  unfold rgb colours
  rw [checkSize_of_size cells h]
  refine ⟨_, rfl, ?_, ?_, ?_, ?_⟩
  · rw [List.length_map, List.length_map, List.length_range]
  · simp
  · simp only [List.mem_map]
    rintro column ⟨shades, -, rfl⟩ colour hcolour
    obtain ⟨shade, -, rfl⟩ := List.mem_map.mp hcolour
    cases shade <;> rfl
  · intro x y hx hy
    have hcell : y * d.width + x < pixels.size := h ▸ cell_lt hx hy
    refine ⟨pixels[y * d.width + x], Array.getElem?_eq_getElem hcell, ?_⟩
    unfold colourAt
    simp only [List.getElem?_map, List.getElem?_range hx, List.getElem?_range hy, Option.map_some,
      Option.bind_some, Array.getD_eq_getD_getElem?, Array.getElem?_eq_getElem hcell,
      Option.getD_some]
    cases pixels[y * d.width + x] <;> rfl

/-- **A picture can be read back from its colours.** -/
theorem picture_of_shows (h : pixels.size = d.pixelCount) (shows : d.Shows pixels image) :
    d.picture image = pixels := by
  unfold picture
  refine Array.ext ((Array.size_ofFn ..).trans h.symm) fun p hp hp' => ?_
  have hcell : p < d.width * d.height := lt_of_lt_of_eq hp' h
  have hwidth : 0 < d.width := Nat.pos_of_mul_pos_right (by omega : 0 < d.width * d.height)
  obtain ⟨lit, hlit, hcolour⟩ := shows.entry (p % d.width) (p / d.width) (Nat.mod_lt _ hwidth)
    (Nat.div_lt_of_lt_mul hcell)
  rw [Nat.mul_comm, Nat.div_add_mod, Array.getElem?_eq_getElem hp'] at hlit
  rw [Array.getElem_ofFn, Option.some.inj hlit]
  simp only [hcolour]
  cases lit <;> rfl

/-! ## Colours of a drawing -/

/-- The colours at one place of two pictures differ if the cell does. -/
theorem colourAt_ne_iff {f g : Frame} {image' : Image} (before : d.Shows f.cells image)
    (after : d.Shows g.cells image') {x y : Nat} (hx : x < d.width) (hy : y < d.height) :
    colourAt image x y ≠ colourAt image' x y ↔
      f.lit (y * d.width + x) ≠ g.lit (y * d.width + x) := by
  have hcell : ∀ {f : Frame} {image : Image}, d.Shows f.cells image → colourAt image x y =
      some (if f.lit (y * d.width + x) then [255, 255, 255] else [0, 0, 0]) := by
    intro f image shows
    obtain ⟨lit, hlit, hcolour⟩ := shows.entry x y hx hy
    rw [hcolour, Frame.lit, Array.getD_eq_getD_getElem?, hlit, Option.getD_some]
  rw [hcell before, hcell after]
  cases f.lit (y * d.width + x) <;> cases g.lit (y * d.width + x) <;> simp

end Display

namespace Frame

variable {f : Frame} {memory : Memory} {address rows x y X Y : Nat}

/-- On a picture with room for a sprite, a cell is covered an odd number of
times if one of the bits falls on its column and row. -/
theorem odd_coverage_iff (wide : 8 ≤ f.width) (high : rows ≤ f.height) (hX : X < f.width) :
    Odd (f.coverage memory address rows x y (Y * f.width + X)) ↔
      ∃ row < rows, ∃ place < 8, (memory.read (address + row)).toNat.testBit (7 - place) = true ∧
        X = (x + place) % f.width ∧ Y = (y + row) % f.height := by
  have hone : f.coverage memory address rows x y (Y * f.width + X) ≤ 1 := coverage_le_one wide high
  have hodd : Odd (f.coverage memory address rows x y (Y * f.width + X)) ↔
      0 < f.coverage memory address rows x y (Y * f.width + X) := by
    constructor
    · exact Odd.pos
    · intro hpos
      rw [le_antisymm hone hpos]
      exact odd_one
  rw [hodd, coverage, Finset.card_pos]
  constructor
  · rintro ⟨⟨row, place⟩, hbit⟩
    simp only [Finset.mem_filter, Finset.mem_product, Finset.mem_range] at hbit
    obtain ⟨⟨hrow, hplace⟩, hset, hcell⟩ := hbit
    exact ⟨row, hrow, place, hplace, hset,
      (cell_inj hX (Nat.mod_lt _ (by omega))).mp hcell⟩
  · rintro ⟨row, hrow, place, hplace, hset, hcell⟩
    refine ⟨(row, place), ?_⟩
    simp only [Finset.mem_filter, Finset.mem_product, Finset.mem_range]
    exact ⟨⟨hrow, hplace⟩, hset, (cell_inj hX (Nat.mod_lt _ (by omega))).mpr hcell⟩

end Frame

namespace Machine

variable {m after : Machine} {x y : Index} {rows : Nat}

/-- A sprite is drawn exactly if it lies inside the memory. -/
theorem draw_ok_iff (grid : m.frame.IsGrid) :
    (∃ after, m.draw x y rows = .ok after) ↔
      0 ≤ m.registers.i ∧ m.registers.i + rows ≤ m.memory.size := by
  constructor
  · rintro ⟨after, hdraw⟩
    unfold draw at hdraw
    cases hchecked : m.memory.checked m.registers.i rows with
    | error fault =>
      rw [hchecked] at hdraw
      cases hdraw
    | ok address =>
      obtain ⟨hlow, hhigh, -⟩ := Memory.bounds_of_checked hchecked
      exact ⟨hlow, hhigh⟩
  · rintro ⟨hlow, hhigh⟩
    obtain ⟨after, hdraw, -⟩ := exists_drawn (x := x) (y := y) grid hlow hhigh
    exact ⟨after, hdraw⟩

/-- What a sprite that is drawn changes. -/
theorem drawn_of_draw (grid : m.frame.IsGrid) (drew : m.draw x y rows = .ok after) :
    m.Drawn x y rows after := by
  obtain ⟨hlow, hhigh⟩ := (draw_ok_iff grid).mp ⟨after, drew⟩
  obtain ⟨after', hdraw, hdrawn⟩ := exists_drawn (x := x) (y := y) grid hlow hhigh
  rw [drew] at hdraw
  rw [Except.ok.inj hdraw]
  exact hdrawn

end Machine

namespace Display

variable {d : Display}

/-- **The colours that a drawing changes** are those at the columns and rows of
the set bits of the sprite. -/
theorem drawn_colours {m after : Machine} {x y : Index} {rows : Nat} (grid : m.frame.IsGrid)
    (width : m.frame.width = d.width) (height : m.frame.height = d.height) (wide : 8 ≤ d.width)
    (high : rows ≤ d.height) (drew : m.draw x y rows = .ok after) :
    ∃ image image', d.rgb m.frame.cells = .ok image ∧ d.rgb after.frame.cells = .ok image' ∧
      ∀ X Y, X < d.width → Y < d.height →
        (colourAt image X Y ≠ colourAt image' X Y ↔
          ∃ row < rows, ∃ place < 8,
            (m.memory.read (m.registers.i.toNat + row)).toNat.testBit (7 - place) = true ∧
              X = (m.registers.value x + place) % d.width ∧
              Y = (m.registers.value y + row) % d.height) := by
  have drawn := Machine.drawn_of_draw grid drew
  have hsize : m.frame.cells.size = d.pixelCount := by
    rw [grid.size, width, height]
    rfl
  have cells : 0 < d.pixelCount := by
    rw [← hsize, grid.size]
    exact Nat.mul_pos grid.width_pos grid.height_pos
  obtain ⟨image, hrgb, before⟩ := rgb_of_size cells hsize
  obtain ⟨image', hrgb', shows⟩ := rgb_of_size cells (drawn.size.trans hsize)
  refine ⟨image, image', hrgb, hrgb', fun X Y hX hY => ?_⟩
  rw [colourAt_ne_iff before shows hX hY, drawn.lit, ← width, ← height]
  rw [← Frame.odd_coverage_iff (width.symm ▸ wide) (height.symm ▸ high) (width.symm ▸ hX)]
  unfold Machine.coverage
  cases m.frame.lit (Y * m.frame.width + X) <;> simp

/-! ## Frames -/

/-- What a window is asked for. -/
inductive Request where
  | draw (pixels : Array Bool)
  | close

/-- Do as asked, and tell whether a picture was shown. -/
def serve (system : WindowSystem) (d : Display) : Request → Display × Bool
  | .draw pixels =>
      match d.draw system pixels with
      | .ok after => (after, true)
      | .error _ => (d, false)
  | .close => (d.close.1, false)

def serveAll (system : WindowSystem) (d : Display) : List Request → Display × List Bool
  | [] => (d, [])
  | request :: rest =>
      let (after, shown) := d.serve system request
      let (last, later) := after.serveAll system rest
      (last, shown :: later)

variable {system : WindowSystem}

/-- A picture that is shown is one frame more. -/
theorem eq_of_draw {pixels : Array Bool} {after : Display}
    (drew : d.draw system pixels = .ok after) : after = { d with frames := d.frames + 1 } := by
  unfold draw at drew
  split at drew
  · cases drew
  · split at drew
    · cases drew
    · split at drew
      · cases drew
      · exact (Except.ok.inj drew).symm

/-- A picture of the right size on an open window is up to the window system. -/
theorem draw_of_size {pixels : Array Bool} (cells : 0 < d.pixelCount)
    (size : pixels.size = d.pixelCount) (opened : d.isOpen = true) :
    d.draw system pixels = (system.present d pixels).mapError .system >>= fun _ =>
      .ok { d with frames := d.frames + 1 } := by
  unfold draw
  rw [checkSize_of_size cells size, opened]
  cases system.present d pixels <;> rfl

/-- The calls that show a picture succeed if each of them does. -/
theorem present_ok_iff {pixels : Array Bool} :
    system.present d pixels = .ok () ↔
      system.blit d pixels = .ok () ∧ system.scale d = .ok () ∧ system.flip d = .ok () := by
  unfold WindowSystem.present
  cases system.blit d pixels <;> cases system.scale d <;> cases system.flip d <;>
    simp [bind, Except.bind]

/-- A picture is shown if it has the size of the window, the window is open,
and no call of the window system fails. -/
theorem draw_ok_iff {pixels : Array Bool} (cells : 0 < d.pixelCount) :
    (∃ after, d.draw system pixels = .ok after) ↔
      pixels.size = d.pixelCount ∧ d.isOpen = true ∧ system.present d pixels = .ok () := by
  unfold draw
  by_cases hsize : pixels.size = d.pixelCount
  · rw [checkSize_of_size cells hsize]
    cases d.isOpen <;> cases system.present d pixels <;> simp [hsize]
  · have herror : d.checkSize pixels = .error (.sizeMismatch d.pixelCount pixels.size) := by
      unfold checkSize
      rw [if_pos hsize]
    rw [herror]
    simp [hsize]

/-- A request that shows a picture counts one frame, and no other does. -/
theorem frames_serve (system : WindowSystem) (d : Display) (request : Request) :
    (d.serve system request).1.frames = d.frames + (d.serve system request).2.toNat := by
  cases request with
  | draw pixels =>
    cases hdraw : d.draw system pixels with
    | error e => simp only [serve, hdraw, Bool.toNat_false, Nat.add_zero]
    | ok after => simp only [serve, hdraw, eq_of_draw hdraw, Bool.toNat_true]
  | close =>
    unfold serve close
    cases d.isOpen <;> rfl

/-- **The frames of a window are the pictures that were shown.** -/
theorem frames_serveAll (system : WindowSystem) (d : Display) (requests : List Request) :
    (d.serveAll system requests).1.frames =
      d.frames + (d.serveAll system requests).2.count true := by
  induction requests generalizing d with
  | nil => rfl
  | cons request rest ih =>
    show ((d.serve system request).1.serveAll system rest).1.frames = d.frames +
      ((d.serve system request).2 :: ((d.serve system request).1.serveAll system rest).2).count true
    rw [ih, frames_serve, List.count_cons]
    cases (d.serve system request).2
    · rfl
    · exact Nat.add_right_comm ..

/-- A window that was opened has the sides that were asked for, is open, and has
shown nothing. -/
theorem fresh_of_make {title : String} {width height scale : Int}
    (made : (make system title width height scale).1 = .ok d) :
    d.width = width ∧ d.height = height ∧ d.frames = 0 ∧ d.isOpen = true := by
  unfold make at made
  cases hsurface : system.surface width height with
  | error failure =>
    rw [hsurface] at made
    cases made
  | ok _ =>
    obtain ⟨hwidth, hheight⟩ := system.sides_nonneg hsurface
    simp only [hsurface] at made
    split at made
    · cases made
    · simp only at made
      split at made
      · cases made
      · cases made
      · obtain rfl := Except.ok.inj made
        exact ⟨Int.toNat_of_nonneg hwidth, Int.toNat_of_nonneg hheight, rfl, rfl⟩

/-! ## The statement -/

/-- **The window shows what the machine draws.** A picture is refused exactly if
it is not of the size of the window; any other is shown column by column with
the bright colour where it is lit, and can be read back. Drawing a sprite that
the picture has room for changes the colours at the columns and rows of its set
bits and at no others. On every window system, a picture of the right size is
shown by an open window unless a call of the system fails, and whatever a window
is asked for, its frames count the pictures that were shown. -/
theorem rgb_agrees_with_drawing {d : Display} (width : 0 < d.width) (height : 0 < d.height) :
    (∀ pixels,
      ((∃ e, d.rgb pixels = .error e ∧ e.isOwn = true) ↔ pixels.size ≠ d.width * d.height) ∧
      (pixels.size = d.width * d.height →
        ∃ image, d.rgb pixels = .ok image ∧ d.Shows pixels image ∧ d.picture image = pixels)) ∧
    (∀ (m : Machine) (x y : Index) (rows : Nat), m.frame.IsGrid → m.frame.width = d.width →
      m.frame.height = d.height → 8 ≤ d.width → rows ≤ d.height →
      ((∃ after, m.draw x y rows = .ok after) ↔
        0 ≤ m.registers.i ∧ m.registers.i + rows ≤ m.memory.size) ∧
      ∀ after, m.draw x y rows = .ok after →
        ∃ image image', d.rgb m.frame.cells = .ok image ∧ d.rgb after.frame.cells = .ok image' ∧
          ∀ X Y, X < d.width → Y < d.height →
            (colourAt image X Y ≠ colourAt image' X Y ↔
              ∃ row < rows, ∃ place < 8,
                (m.memory.read (m.registers.i.toNat + row)).toNat.testBit (7 - place) = true ∧
                  X = (m.registers.value x + place) % d.width ∧
                  Y = (m.registers.value y + row) % d.height)) ∧
    ∀ system : WindowSystem,
      (∀ pixels, (∃ after, d.draw system pixels = .ok after) ↔
        pixels.size = d.width * d.height ∧ d.isOpen = true ∧ system.blit d pixels = .ok () ∧
          system.scale d = .ok () ∧ system.flip d = .ok ()) ∧
      (∀ requests, (d.serveAll system requests).1.frames =
        d.frames + (d.serveAll system requests).2.count true) ∧
      ∀ title across down scale logs, make system title across down scale = (.ok d, logs) →
        d.frames = 0 ∧ d.isOpen = true := by
  have cells : 0 < d.pixelCount := Nat.mul_pos width height
  refine ⟨fun pixels => ⟨⟨?_, ?_⟩, ?_⟩, ?_, fun system => ⟨fun pixels => ?_,
    frames_serveAll system d, ?_⟩⟩
  · rintro ⟨e, herror, -⟩ hsize
    obtain ⟨image, hrgb, -⟩ := rgb_of_size cells hsize
    rw [hrgb] at herror
    cases herror
  · intro hsize
    exact ⟨_, rgb_of_other_size hsize, rfl⟩
  · intro hsize
    obtain ⟨image, hrgb, shows⟩ := rgb_of_size cells hsize
    exact ⟨image, hrgb, shows, picture_of_shows hsize shows⟩
  · intro m x y rows grid hwidth hheight wide high
    exact ⟨Machine.draw_ok_iff grid, fun after drew =>
      drawn_colours grid hwidth hheight wide high drew⟩
  · rw [← present_ok_iff]
    exact draw_ok_iff cells
  · intro title across down scale logs made
    exact (fresh_of_make (congrArg Prod.fst made)).2.2

/-- A bit in each row of a picture of nine columns and two rows, drawn from the
column eight and the row one: the lower one falls on the first row. -/
theorem rgb_agrees_with_drawing_wrapped :
    ∃ (d : Display) (m : Machine), d.width = 9 ∧ d.height = 2 ∧ m.frame = Frame.dark 9 2 ∧
      ∃ after image image', m.draw 0 1 2 = .ok after ∧ d.rgb m.frame.cells = .ok image ∧
        d.rgb after.frame.cells = .ok image' ∧
        (∀ X Y, X < 9 → Y < 2 → (colourAt image X Y ≠ colourAt image' X Y ↔
          (X = 8 ∧ Y = 1) ∨ (X = 0 ∧ Y = 0))) ∧
        (d.serveAll .willing
          [.draw #[], .draw m.frame.cells, .close, .draw m.frame.cells]).1.frames = 1 := by
  let d : Display := { width := 9, height := 2, windowWidth := 9, windowHeight := 2 }
  let m : Machine :=
    { registers := { v := ((Vector.replicate 16 0).set 0 8).set 1 1, i := 1 }
      memory := ⟨#[0, 0x80, 0x40]⟩
      frame := Frame.dark 9 2 }
  have grid : m.frame.IsGrid := ⟨by decide, by decide, rfl, rfl⟩
  obtain ⟨-, hdrawing, hsystem⟩ := rgb_agrees_with_drawing (d := d) (by decide) (by decide)
  obtain ⟨-, hframes, -⟩ := hsystem .willing
  obtain ⟨hinside, hcolours⟩ := hdrawing m 0 1 2 grid rfl rfl (by decide) (by decide)
  obtain ⟨after, drew⟩ := hinside.mpr (by decide)
  obtain ⟨image, image', hrgb, hrgb', hdiffer⟩ := hcolours after drew
  refine ⟨d, m, rfl, rfl, rfl, after, image, image', drew, hrgb, hrgb', fun X Y hX hY => ?_, ?_⟩
  · have hbits : ∀ X < 9, ∀ Y < 2, (∃ row < 2, ∃ place < 8,
        (m.memory.read (m.registers.i.toNat + row)).toNat.testBit (7 - place) = true ∧
          X = (m.registers.value 0 + place) % d.width ∧
          Y = (m.registers.value 1 + row) % d.height) ↔ (X = 8 ∧ Y = 1) ∨ (X = 0 ∧ Y = 0) := by
      decide
    rw [hdiffer X Y hX hY, hbits X hX Y hY]
  · rw [hframes]
    decide

end Display

end Chip8
