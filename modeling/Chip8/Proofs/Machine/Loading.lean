/-
Chip8.Proofs.Machine.Loading — program images, from their acceptance to the
words that are fetched.

The limit that an image is accepted by and the limit of the memory it is
loaded into are written down in two places. On a machine with its whole
memory they are one (`programLimit_of_whole`), so an image that is accepted
is one that can be loaded.

* `Loaded` — the program lies at its place and everything else is as it was.
  What can be loaded is (`loaded_of_load`).
* `Word.bytes` — the two bytes of a word as they lie in an image. A word of
  an image that was loaded is fetched again (`Loaded.fetch`).
-/
import Chip8.Proofs.Processor.Footprint
import Chip8.Proofs.Processor.Run
import Chip8.Rom

namespace Chip8

/-- The two bytes of a word, the high one first. -/
def Word.bytes (w : Word) : List Byte :=
  [UInt8.ofNat (w.toNat / 256), UInt8.ofNat (w.toNat % 256)]

/-! ## Words in an image -/

theorem Word.length_flatMap_bytes (ws : List Word) :
    (ws.flatMap Word.bytes).length = 2 * ws.length := by
  induction ws with
  | nil => rfl
  | cons w rest ih =>
    rw [List.flatMap_cons, List.length_append, ih, List.length_cons]
    have hlen : w.bytes.length = 2 := rfl
    omega

/-- The bytes of word number `i` are number `2 i` and the next one. -/
theorem Word.getElem?_flatMap_bytes (ws : List Word) {i : Nat} (h : i < ws.length) :
    (ws.flatMap Word.bytes)[2 * i]? = some (UInt8.ofNat (ws[i].toNat / 256)) ∧
      (ws.flatMap Word.bytes)[2 * i + 1]? = some (UInt8.ofNat (ws[i].toNat % 256)) := by
  induction ws generalizing i with
  | nil => cases h
  | cons w rest ih =>
    cases i with
    | zero => exact ⟨rfl, rfl⟩
    | succ i => exact ih (Nat.lt_of_succ_lt_succ h)

/-! ## Reading what was written -/

/-- What is read back from inside what was written. -/
theorem Memory.read_writeAll_of_inside (m : Memory) {start i : Nat} (bs : List Byte)
    (h : i < bs.length) (room : start + bs.length ≤ m.size) :
    (m.writeAll start bs).read (start + i) = bs[i] := by
  induction bs generalizing m start i with
  | nil => cases h
  | cons b rest ih =>
    rw [List.length_cons] at h room
    cases i with
    | zero =>
      -- the bytes that follow lie above the first one
      show ((m.write start b).writeAll (start + 1) rest).read start = b
      rw [read_writeAll_of_lt _ rest (Nat.lt_add_one start), read_write, if_pos ⟨rfl, by omega⟩]
    | succ i =>
      have hrest : ((m.write start b).writeAll (start + 1) rest).read (start + 1 + i) = rest[i] :=
        ih (m.write start b) (by omega) (by rw [size_write]; omega)
      rw [writeAll, List.getElem_cons_succ, ← hrest]
      congr 1
      omega

/-- The word whose two bytes lie at an address is fetched from there. -/
theorem Memory.fetch_of_bytes {m : Memory} {a : Nat} {w : Word} (room : a + 2 ≤ m.size)
    (high : m.read a = UInt8.ofNat (w.toNat / 256))
    (low : m.read (a + 1) = UInt8.ofNat (w.toNat % 256)) : m.fetch a = .ok w := by
  obtain ⟨v, hfetch, hv⟩ := exists_fetch room
  rw [high, low, UInt8.toNat_ofNat', UInt8.toNat_ofNat'] at hv
  have hlt := w.toNat_lt
  have hsame : v = w := UInt16.toNat_inj.mp (by omega)
  rw [hfetch, hsame]

namespace Machine

/-! ## Loading -/

/-- A machine with a program loaded into it: the program lies at its place,
and everything else is as it was. -/
structure Loaded (m : Machine) (program : List Byte) (m' : Machine) : Prop where
  content : ∀ i (h : i < program.length), m'.memory.read (programStart + i) = program[i]
  elsewhere : ∀ a, a < programStart ∨ programStart + program.length ≤ a →
    m'.memory.read a = m.memory.read a
  size : m'.memory.size = m.memory.size
  registers : m'.registers = m.registers
  stack : m'.stack = m.stack
  frame : m'.frame = m.frame

variable {m m' : Machine} {program : List Byte}

/-- With the whole memory the limit is the one that images are held to. -/
theorem programLimit_of_whole (whole : m.memory.size = memorySize) :
    m.programLimit = maxProgramSize := by
  unfold programLimit
  rw [whole]
  rfl

theorem load_of_fits (fits : program.length ≤ m.programLimit) :
    m.load program = .ok { m with memory := m.memory.writeAll programStart program } := by
  unfold load
  rw [if_neg (by omega)]

theorem load_of_too_large (large : m.programLimit < (program.length : Int)) :
    m.load program = m.halt (.programTooLarge program.length m.programLimit) := by
  unfold load
  rw [if_pos large]

theorem exists_load_iff : (∃ m', m.load program = .ok m') ↔ program.length ≤ m.programLimit := by
  constructor
  · rintro ⟨m', h⟩
    by_contra large
    rw [load_of_too_large (by omega)] at h
    cases h
  · intro fits
    exact ⟨_, load_of_fits fits⟩

/-- What can be loaded is loaded, and nothing beside it changes. -/
theorem loaded_of_load (whole : m.memory.size = memorySize) (h : m.load program = .ok m') :
    m.Loaded program m' := by
  have fits := exists_load_iff.mp ⟨m', h⟩
  rw [load_of_fits fits] at h
  injection h with h
  subst h
  rw [programLimit_of_whole whole, Int.ofNat_le] at fits
  have room : programStart + program.length ≤ m.memory.size := by
    rw [whole]
    unfold maxProgramSize memorySize programStart at *
    omega
  refine ⟨?_, ?_, Memory.size_writeAll .., rfl, rfl, rfl⟩
  · intro i hi
    exact Memory.read_writeAll_of_inside m.memory program hi room
  · intro a outside
    exact Memory.read_writeAll_of_outside m.memory program outside

/-- A refused program changes nothing. -/
theorem eq_of_load_error (whole : m.memory.size = memorySize) {halted : Halted}
    (h : m.load program = .error halted) :
    3584 < program.length ∧ halted = ⟨.programTooLarge program.length 3584, m⟩ := by
  have hlimit : m.programLimit = 3584 := programLimit_of_whole whole
  by_cases fits : (program.length : Int) ≤ m.programLimit
  · rw [load_of_fits fits] at h
    cases h
  · rw [load_of_too_large (by omega), hlimit] at h
    injection h with h
    exact ⟨by omega, h.symm⟩

/-- A word of a program that was loaded is fetched from its place. -/
theorem Loaded.fetch {ws : List Word} (h : m.Loaded (ws.flatMap Word.bytes) m')
    (room : programStart + 2 * ws.length ≤ m.memory.size) {i : Nat} (hi : i < ws.length) :
    m'.memory.fetch ((programStart + 2 * i : Nat) : Int) = .ok ws[i] := by
  have hlen := Word.length_flatMap_bytes ws
  obtain ⟨hhigh, hlow⟩ := Word.getElem?_flatMap_bytes ws hi
  have hread : ∀ k b, (ws.flatMap Word.bytes)[k]? = some b →
      m'.memory.read (programStart + k) = b := by
    intro k b hb
    obtain ⟨hk, rfl⟩ := List.getElem?_eq_some_iff.mp hb
    exact h.content k hk
  refine Memory.fetch_of_bytes (by rw [h.size]; omega) (hread _ _ hhigh) ?_
  rw [Nat.add_assoc]
  exact hread _ _ hlow

end Machine

namespace Rom

/-! ## The statement -/

theorem ofBytes_eq_ok_iff {data : List Byte} {rom : Rom} :
    (ofBytes data).1 = .ok rom ↔ data.length ≤ maxProgramSize ∧ rom = { data } := by
  unfold ofBytes
  split
  · rename_i large
    constructor
    · intro h
      cases h
    · rintro ⟨fits, -⟩
      omega
  · rename_i fits
    constructor
    · intro h
      injection h with h
      exact ⟨by omega, h.symm⟩
    · rintro ⟨-, rfl⟩
      rfl

/-- **Acceptance, loading and fetching agree**, on every machine with its whole
memory, whatever is in it. An image is accepted exactly if it can be loaded,
which is if it has at most 3584 bytes; it is then the bytes that were given,
and a processor is made with them. What is loaded lies at its place with
everything else as it was, so that an earlier, longer program keeps its tail;
what is refused changes nothing. Words that are loaded, high byte first, are
fetched in their order. -/
theorem accepted_iff_loaded {m : Machine} (whole : m.memory.size = memorySize)
    (data : List Byte) :
    ((∃ rom, (ofBytes data).1 = .ok rom) ↔ ∃ m', m.load data = .ok m') ∧
    ((∃ m', m.load data = .ok m') ↔ data.length ≤ 3584) ∧
    (∀ rom, (ofBytes data).1 = .ok rom → rom.data = data ∧
      ∀ random period, 0 < period → ∃ p, (Processor.make rom.data random period).1 = .ok p) ∧
    (∀ m', m.load data = .ok m' → m.Loaded data m') ∧
    (∀ earlier m₁ m₂, m.load earlier = .ok m₁ → m₁.load data = .ok m₂ →
      ∀ i (h : i < earlier.length), data.length ≤ i →
        m₂.memory.read (programStart + i) = earlier[i]) ∧
    (∀ halted, m.load data = .error halted →
      halted = ⟨.programTooLarge data.length 3584, m⟩) ∧
    ∀ ws : List Word, ws.length ≤ 1792 → data = ws.flatMap Word.bytes →
      ∃ m', m.load data = .ok m' ∧
        ∀ i (h : i < ws.length), m'.memory.fetch (0x200 + 2 * i) = .ok ws[i] := by
  have hlimit : m.programLimit = 3584 := Machine.programLimit_of_whole whole
  have hload : (∃ m', m.load data = .ok m') ↔ data.length ≤ 3584 := by
    rw [Machine.exists_load_iff, hlimit]
    exact Int.ofNat_le
  refine ⟨?_, hload, ?_, fun m' => Machine.loaded_of_load whole, ?_, ?_, ?_⟩
  · rw [hload]
    constructor
    · rintro ⟨rom, h⟩
      exact (ofBytes_eq_ok_iff.mp h).1
    · intro fits
      exact ⟨_, ofBytes_eq_ok_iff.mpr ⟨fits, rfl⟩⟩
  · intro rom h
    obtain ⟨fits, rfl⟩ := ofBytes_eq_ok_iff.mp h
    refine ⟨rfl, fun random period hperiod => ?_⟩
    exact ⟨_, Processor.make_eq_ok_iff.mpr ⟨fits, hperiod, rfl⟩⟩
  · intro earlier m₁ m₂ hearlier hlater i hi beyond
    have hfirst := Machine.loaded_of_load whole hearlier
    have hsecond := Machine.loaded_of_load (hfirst.size.trans whole) hlater
    rw [hsecond.elsewhere _ (Or.inr (by omega)), hfirst.content i hi]
  · intro halted h
    exact (Machine.eq_of_load_error whole h).2
  · rintro ws hcount rfl
    have hlen := Word.length_flatMap_bytes ws
    obtain ⟨m', h⟩ := hload.mpr (by omega)
    refine ⟨m', h, fun i hi => ?_⟩
    have room : programStart + 2 * ws.length ≤ m.memory.size := by
      rw [whole]
      unfold programStart memorySize
      omega
    exact (Machine.loaded_of_load whole h).fetch room hi

/-- A machine in the middle of a run, with a longer program loaded before: two
words are loaded and the second of them is fetched. -/
theorem accepted_iff_loaded_second_word :
    ∃ m m₁ m₂ : Machine, m.memory.size = memorySize ∧ m.registers.pc = 0x204 ∧
      m.load [1, 2, 3, 4, 5, 6] = .ok m₁ ∧ m₁.load [0x60, 0x05, 0xF0, 0x18] = .ok m₂ ∧
      m₂.memory.fetch 0x202 = .ok 0xF018 ∧ m₂.memory.read 0x205 = 6 ∧ m₂.registers = m.registers := by
  have hm : ∃ m : Machine, m.memory.size = memorySize ∧ m.registers.pc = 0x204 :=
    ⟨{ registers := { pc := 0x204 } }, by simp, rfl⟩
  obtain ⟨m, whole, hpc⟩ := hm
  obtain ⟨-, hfirst, -, hloaded, -, -, -⟩ := accepted_iff_loaded whole [1, 2, 3, 4, 5, 6]
  obtain ⟨m₁, h₁⟩ := hfirst.mpr (by decide)
  have hone := hloaded m₁ h₁
  obtain ⟨-, -, -, hagain, -, -, hwords⟩ :=
    accepted_iff_loaded (hone.size.trans whole) [0x60, 0x05, 0xF0, 0x18]
  obtain ⟨-, -, -, -, htail, -, -⟩ := accepted_iff_loaded whole [0x60, 0x05, 0xF0, 0x18]
  obtain ⟨m₂, h₂, hfetch⟩ := hwords [0x6005, 0xF018] (by decide) (by decide)
  exact ⟨m, m₁, m₂, whole, hpc, h₁, h₂, hfetch 1 (by decide), htail _ m₁ m₂ h₁ h₂ 5 (by decide)
    (by decide), (hagain m₂ h₂).registers.trans hone.registers⟩

end Rom

end Chip8
