/-
Chip8.Proofs.Keypad.LastMove — a key is as the last event that moved it left
it.

A control is dealt batches of events and resets, one after the other
(`dealAll`). What counts of such a history is the list `heard`: the events of
the batches since the last reset, less those batches that ask to quit. An
event moves the key that its physical key is mapped to, if there is one
(`moved?`).

* `dealAll_eq_update` — a history leaves what the events that count leave, so
  it does not matter where one batch ends and the next begins.
* `get_update` — after events, a key is as the last of them that moved it
  says, and as it was before if none did.
* `pressed_iff_last_move` — the two together, for every keyboard table.
-/
import Mathlib.Tactic
import Mathlib.Data.List.DropRight
import Chip8.Keypad.Control

namespace Chip8

/-- Whether an event is that a physical key went down. -/
def Event.isDown : Event → Bool
  | .down _ => true
  | _ => false

namespace Control

/-! ## Histories -/

/-- What a control can be dealt. -/
inductive Dealing where
  | batch (events : List Event)
  | reset

namespace Dealing

def isReset : Dealing → Bool
  | .batch _ => false
  | .reset => true

/-- The events that are applied: all of a batch, or none if it asks to quit. -/
def accepted : Dealing → List Event
  | .batch events => if .quit ∈ events ∨ .down KeyName.escape ∈ events then [] else events
  | .reset => []

end Dealing

def deal (c : Control) : Dealing → Control
  | .batch events => (c.process events).1
  | .reset => c.reset

def dealAll (c : Control) (ds : List Dealing) : Control := ds.foldl deal c

/-- The events that count at the end of a history: those accepted since the last
reset, in order. -/
def heard (ds : List Dealing) : List Event :=
  (ds.rtakeWhile fun d => !d.isReset).flatMap Dealing.accepted

/-- The key of the keypad that an event moves. -/
def moved? (c : Control) : Event → Option Index
  | .down code | .up code => c.key? code
  | .quit | .other => none

theorem heard_concat (ds : List Dealing) (d : Dealing) :
    heard (ds ++ [d]) = if d.isReset then [] else heard ds ++ d.accepted := by
  unfold heard
  rw [List.rtakeWhile_concat]
  cases d <;> simp [Dealing.isReset]

variable {c : Control} {h : Index}

/-! ## One batch -/

theorem any_asksToQuit_iff (events : List Event) :
    events.any asksToQuit = true ↔ .quit ∈ events ∨ .down KeyName.escape ∈ events := by
  have hasks : ∀ e, asksToQuit e = true ↔ e = .quit ∨ e = .down KeyName.escape := by
    intro e
    cases e <;> simp [asksToQuit]
  simp only [List.any_eq_true, hasks]
  constructor
  · rintro ⟨e, he, rfl | rfl⟩
    · exact Or.inl he
    · exact Or.inr he
  · rintro (he | he)
    · exact ⟨_, he, Or.inl rfl⟩
    · exact ⟨_, he, Or.inr rfl⟩

/-- The answer to a batch is to stop exactly if the window was closed or Escape
went down in it. -/
theorem process_eq_false_iff (c : Control) (events : List Event) :
    (c.process events).2 = false ↔ .quit ∈ events ∨ .down KeyName.escape ∈ events := by
  rw [← any_asksToQuit_iff]
  unfold process
  split <;> simp_all

/-- A batch applies the events that are accepted. -/
theorem process_eq_update (c : Control) (events : List Event) :
    (c.process events).1 = c.update (Dealing.batch events).accepted := by
  unfold process
  simp only [Dealing.accepted]
  by_cases hquit : events.any asksToQuit = true
  · rw [if_pos hquit, if_pos ((any_asksToQuit_iff events).mp hquit)]
    rfl
  · rw [if_neg hquit, if_neg (mt (any_asksToQuit_iff events).mpr hquit)]

/-! ## Events one after the other -/

theorem update_append (c : Control) (es fs : List Event) :
    c.update (es ++ fs) = (c.update es).update fs := List.foldl_append

theorem mapping_press (c : Control) (code : Int) (down : Bool) :
    (c.press code down).mapping = c.mapping := by
  unfold press
  split <;> rfl

theorem mapping_apply (c : Control) (e : Event) : (c.apply e).mapping = c.mapping := by
  cases e with
  | down code | up code => exact mapping_press c code _
  | quit | other => rfl

theorem mapping_update (c : Control) (es : List Event) : (c.update es).mapping = c.mapping := by
  induction es generalizing c with
  | nil => rfl
  | cons e es ih => exact (ih (c.apply e)).trans (mapping_apply c e)

/-- Which key an event moves is a matter of the mapping alone. -/
theorem moved?_update (c : Control) (es : List Event) (e : Event) :
    (c.update es).moved? e = c.moved? e := by
  have hkey : ∀ code, (c.update es).key? code = c.key? code := by
    intro code
    unfold key?
    rw [mapping_update]
  cases e with
  | down code | up code => exact hkey code
  | quit | other => rfl

theorem get_press (c : Control) (code : Int) (down : Bool) (h : Index) :
    (c.press code down).keys.get h = if c.key? code = some h then down else c.keys.get h := by
  unfold press
  cases hkey : c.key? code with
  | none => simp
  | some key =>
    show (c.keys.set key.val down (Index.lt key))[h.val] = _
    rw [Vector.getElem_set]
    by_cases hsame : key = h
    · rw [if_pos (congrArg Fin.val hsame), if_pos (congrArg some hsame)]
    · rw [if_neg (mt Fin.ext hsame), if_neg (mt Option.some.inj hsame)]
      rfl

/-- **What one event does to a key.** -/
theorem get_apply (c : Control) (e : Event) (h : Index) :
    (c.apply e).keys.get h = if c.moved? e = some h then e.isDown else c.keys.get h := by
  cases e with
  | down code => exact get_press c code true h
  | up code => exact get_press c code false h
  | quit | other => rfl

/-- **What events do to a key**: the last that moved it counts. -/
theorem get_update (c : Control) (es : List Event) (h : Index) :
    (c.update es).keys.get h =
      (((es.filter fun e => c.moved? e = some h).getLast?).map Event.isDown).getD
        (c.keys.get h) := by
  induction es using List.reverseRecOn with
  | nil => rfl
  | append_singleton es e ih =>
    rw [update_append]
    show ((c.update es).apply e).keys.get h = _
    rw [get_apply, moved?_update, ih, List.filter_append]
    by_cases hmoved : c.moved? e = some h <;> simp [hmoved]

/-- Events that move no key leave no trace. -/
theorem update_filter_moved (c : Control) (es : List Event) :
    c.update (es.filter fun e => (c.moved? e).isSome) = c.update es := by
  induction es using List.reverseRecOn with
  | nil => rfl
  | append_singleton es e ih =>
    rw [List.filter_append, update_append, update_append, ih]
    cases hmoved : c.moved? e with
    | some key => simp [hmoved]
    | none =>
      have hstays : (c.update es).apply e = c.update es := by
        cases e with
        | down code | up code =>
          have hkey : (c.update es).key? code = none := (moved?_update c es _).trans hmoved
          simp only [apply, press, hkey]
        | quit | other => rfl
      simp only [hmoved, Option.isSome_none, List.filter_cons, List.filter_nil]
      exact hstays.symm

/-! ## Whole histories -/

/-- **A history leaves what the events that count leave**, if no key was down at
its beginning. -/
theorem dealAll_eq_update (released : c.reset = c) (ds : List Dealing) :
    c.dealAll ds = c.update (heard ds) := by
  induction ds using List.reverseRecOn with
  | nil => rfl
  | append_singleton ds d ih =>
    have hconcat : c.dealAll (ds ++ [d]) = (c.dealAll ds).deal d := by
      unfold dealAll
      rw [List.foldl_concat]
    rw [hconcat, ih, heard_concat]
    cases d with
    | batch events =>
      simp only [deal, Dealing.isReset, Bool.false_eq_true, if_false]
      rw [process_eq_update, update_append]
    | reset =>
      have hmapping : (c.update (heard ds)).reset = c.reset := by
        unfold reset
        rw [mapping_update]
      exact hmapping.trans released

/-- Histories of which the same events count leave the same, whatever else they
hold that moves no key. -/
theorem dealAll_congr (released : c.reset = c) {ds es : List Dealing}
    (same : (heard es).filter (fun e => (c.moved? e).isSome) =
      (heard ds).filter fun e => (c.moved? e).isSome) : c.dealAll es = c.dealAll ds := by
  rw [dealAll_eq_update released, dealAll_eq_update released, ← update_filter_moved c (heard es),
    ← update_filter_moved c (heard ds), same]

theorem pressed_index (c : Control) (h : Index) : c.pressed h.val = c.keys.get h := by
  have hindex : Index.ofInt h.val = h := by
    have hlt := h.isLt
    unfold Index.ofInt
    exact Fin.ext (by simp only; omega)
  unfold pressed
  rw [hindex]

theorem snapshot_eq (c : Control) : c.snapshot = List.ofFn fun h : Index => c.pressed h.val := by
  simp only [pressed_index]
  refine List.ext_getElem (by rw [List.length_ofFn]; exact c.keys.length_toList) fun k hk hk' => ?_
  rw [List.getElem_ofFn]
  exact Vector.getElem_toList _

/-- **A key is down if the last event that moved it was that a physical key went
down**, for every keyboard table and every history of batches and resets. A batch
is answered with a stop exactly if the window was closed or Escape went down in
it, and then changes nothing. A snapshot is the state of the sixteen keys, to
which all physical keys are mapped. And histories of which the same events
count, but for events that move no key, leave the same state, however they are
split into batches. -/
theorem pressed_iff_last_move (keyboard : List (String × String)) (ds : List Dealing) :
    let start := (make keyboard).1
    let now := start.dealAll ds
    (∀ events, ((now.process events).2 = false ↔
        .quit ∈ events ∨ .down KeyName.escape ∈ events) ∧
      ((now.process events).2 = false → (now.process events).1 = now)) ∧
    (∀ h : Index, now.pressed h.val = true ↔
      ∃ code, ((heard ds).filter fun e => start.moved? e = some h).getLast? =
        some (.down code)) ∧
    now.snapshot = (List.ofFn fun h : Index => now.pressed h.val) ∧
    now.snapshot.length = 16 ∧
    (∀ code h, now.key? code = some h → h.val < now.snapshot.length) ∧
    ∀ es, ((heard es).filter fun e => (start.moved? e).isSome) =
        ((heard ds).filter fun e => (start.moved? e).isSome) → start.dealAll es = now := by
  intro start now
  have released : start.reset = start := rfl
  have hnow : now = start.update (heard ds) := dealAll_eq_update released ds
  have hlength : now.snapshot.length = 16 := by rw [snapshot_eq, List.length_ofFn]
  refine ⟨fun events => ⟨process_eq_false_iff now events, ?_⟩, ?_, snapshot_eq now, hlength, ?_,
    fun es => dealAll_congr released⟩
  · intro stop
    rw [process_eq_update, Dealing.accepted, if_pos ((process_eq_false_iff now events).mp stop)]
    rfl
  · intro h
    have hreleased : start.keys.get h = false := by
      show (Vector.replicate 16 false)[h.val] = false
      rw [Vector.getElem_replicate]
    rw [pressed_index, hnow, get_update, hreleased]
    cases ((heard ds).filter fun e => start.moved? e = some h).getLast? with
    | none => simp
    | some e => cases e <;> simp [Event.isDown]
  · intro code h _
    rw [hlength]
    exact h.isLt

/-- Q and W both stand for key A, and Escape for key 1. The release of Q is lost
with the batch in which Escape goes down, so that A stays down; the release of W
then puts it up, although Q was never let go. -/
theorem pressed_iff_last_move_two_for_one :
    let start := (make [("A", "Q"), ("a", "W"), ("1", "ESCAPE")]).1
    let lost := [.batch [.down 113, .other], .batch [.up 113, .down 27, .down 119]]
    (start.dealAll lost).pressed 0xA = true ∧ (start.dealAll lost).pressed 0x1 = false ∧
      (start.dealAll (lost ++ [.batch [.up 119]])).pressed 0xA = false := by
  intro start lost
  obtain ⟨-, hlost, -⟩ := pressed_iff_last_move [("A", "Q"), ("a", "W"), ("1", "ESCAPE")] lost
  obtain ⟨-, hafter, -⟩ := pressed_iff_last_move [("A", "Q"), ("a", "W"), ("1", "ESCAPE")]
    (lost ++ [.batch [.up 119]])
  refine ⟨(hlost 0xA).mpr ⟨113, by decide +kernel⟩, ?_, ?_⟩
  · refine Bool.eq_false_iff.mpr fun hdown => ?_
    obtain ⟨code, hcode⟩ := (hlost 0x1).mp hdown
    exact nomatch hcode.symm.trans (by decide +kernel : _ = none)
  · refine Bool.eq_false_iff.mpr fun hdown => ?_
    obtain ⟨code, hcode⟩ := (hafter 0xA).mp hdown
    exact nomatch hcode.symm.trans (by decide +kernel : _ = some (.up 119))

end Control

end Chip8
