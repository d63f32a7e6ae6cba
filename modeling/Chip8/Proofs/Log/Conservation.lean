/-
Chip8.Proofs.Log.Conservation — no line of the log is lost, and none is
written twice.

To emit a line is to try to write those held back and then the line itself
(`tries`). What passes goes into the file, what is refused is held, and both
in the order in which they were tried (`offer_of_writable`). So the lines in
the file and those held are at every moment the lines emitted so far
(`Accounted`, `accounted_offerAll`). If the writes of one emission all pass
or are all refused, the file is even a front of what was emitted, and what is
held is the rest (`InOrder`).

A write passes or is refused by the file. A line in which half of a surrogate
pair stands cannot pass, and nothing is asked of it but that it does not
(`Writable`); lines of text can always pass (`throughout_writable`).
-/
import Mathlib.Tactic
import Mathlib.Data.List.TakeWhile
import Chip8.Log.HeldFile

namespace Chip8

open Text (CodePoint Line)

/-- A character is no half of a surrogate pair. -/
theorem Text.CodePoint.isSurrogate_ofChar (c : Char) : (ofChar c).isSurrogate = false := by
  have hvalid : c.toNat < 0xD800 ∨ 0xDFFF < c.toNat ∧ c.toNat < 0x110000 := c.valid
  unfold isSurrogate ofChar
  rw [Bool.and_eq_false_iff, decide_eq_false_iff_not, decide_eq_false_iff_not]
  simp only
  omega

/-- Every text can be encoded, and is its own encoding. -/
theorem Text.Line.encode_ofText (text : String) : (Line.ofText text).encode = .ok text := by
  have hplain : ((Line.ofText text).takeWhile fun p => !p.isSurrogate) = Line.ofText text := by
    rw [List.takeWhile_eq_self_iff]
    intro p hp
    obtain ⟨c, -, rfl⟩ := List.mem_map.mp hp
    rw [CodePoint.isSurrogate_ofChar]
    rfl
  have hchars : (Line.ofText text).map CodePoint.toChar = text.toList := by
    unfold Line.ofText
    rw [List.map_map]
    exact (List.map_congr_left fun c _ => Char.ofNat_toNat c).trans (List.map_id _)
  unfold Line.encode
  simp only [hplain, List.drop_length, List.takeWhile_nil, hchars, String.ofList_toList]

namespace Log

/-- A line that is emitted, and for each attempt to write meanwhile whether it
passes. -/
structure Emission where
  line : Line
  succeeds : Nat → Bool

namespace HeldFile

/-- Lines that are written one after the other, each with whether it passes,
from attempt `k` on. -/
def triesFrom (succeeds : Nat → Bool) : Nat → List Line → List (Line × Bool)
  | _, [] => []
  | k, line :: rest => (line, succeeds k) :: triesFrom succeeds (k + 1) rest

/-- The attempts to write of an emission: the lines held back, and then its
own. -/
def tries (f : HeldFile) (e : Emission) : List (Line × Bool) :=
  triesFrom e.succeeds 0 (f.held ++ [e.line])

def passed (ts : List (Line × Bool)) : List Line := (ts.filter (·.2)).map Prod.fst

def refused (ts : List (Line × Bool)) : List Line := (ts.filter (!·.2)).map Prod.fst

/-- What passes can be encoded. -/
def Encodable (ts : List (Line × Bool)) : Prop :=
  ∀ t ∈ ts, t.2 = true → ∃ text, t.1.encode = .ok text

/-- Every write of an emission passes or is refused by the file. -/
def Writable (f : HeldFile) (e : Emission) : Prop := Encodable (f.tries e)

/-- All writes of an emission pass. -/
def Passes (f : HeldFile) (e : Emission) : Prop := ∀ t ∈ f.tries e, t.2 = true

/-- No write of an emission passes. -/
def Refuses (f : HeldFile) (e : Emission) : Prop := ∀ t ∈ f.tries e, t.2 = false

def offer (f : HeldFile) (e : Emission) : HeldFile := (f.emit e.succeeds e.line).1

def offerAll (f : HeldFile) (es : List Emission) : HeldFile := es.foldl offer f

/-- What holds of every emission when it comes, and of the file as it is then. -/
def Throughout (holds : HeldFile → Emission → Prop) : HeldFile → List Emission → Prop
  | _, [] => True
  | f, e :: es => holds f e ∧ Throughout holds (f.offer e) es

variable {f : HeldFile} {e : Emission} {es : List Emission} {emitted : List Line}

/-! ## Attempts -/

section Attempts

variable {succeeds : Nat → Bool} {k : Nat} {lines : List Line}

theorem triesFrom_append (lines others : List Line) :
    triesFrom succeeds k (lines ++ others) =
      triesFrom succeeds k lines ++ triesFrom succeeds (k + lines.length) others := by
  induction lines generalizing k with
  | nil => rfl
  | cons line lines ih =>
    have hnext : k + (line :: lines).length = k + 1 + lines.length := by
      rw [List.length_cons]
      omega
    rw [List.cons_append, triesFrom, ih, hnext]
    rfl

theorem map_fst_triesFrom : (triesFrom succeeds k lines).map Prod.fst = lines := by
  induction lines generalizing k with
  | nil => rfl
  | cons line lines ih => exact congrArg (line :: ·) ih

theorem attempt_of_passes {line : Line} {text : String} (passes : succeeds k = true)
    (encoded : line.encode = .ok text) :
    attempt succeeds k (line :: lines) =
      { attempt succeeds (k + 1) lines with
        done := text :: (attempt succeeds (k + 1) lines).done
        opened := true } := by
  rw [attempt, if_pos passes, encoded]

theorem attempt_of_refused (line : Line) (refused : succeeds k = false) :
    attempt succeeds k (line :: lines) =
      { attempt succeeds (k + 1) lines with
        failed := line :: (attempt succeeds (k + 1) lines).failed } := by
  rw [attempt, if_neg (Bool.eq_false_iff.mp refused)]

theorem passed_cons (line : Line) (passes : Bool) (ts : List (Line × Bool)) :
    passed ((line, passes) :: ts) = if passes then line :: passed ts else passed ts := by
  cases passes <;> rfl

theorem refused_cons (line : Line) (passes : Bool) (ts : List (Line × Bool)) :
    refused ((line, passes) :: ts) = if passes then refused ts else line :: refused ts := by
  cases passes <;> rfl

/-- Attempts pass or are refused, and none breaks off if what passes can be
encoded. -/
theorem attempt_of_encodable (encodable : Encodable (triesFrom succeeds k lines)) :
    (attempt succeeds k lines).done.map .ok =
        (passed (triesFrom succeeds k lines)).map Line.encode ∧
      (attempt succeeds k lines).failed = refused (triesFrom succeeds k lines) ∧
      (attempt succeeds k lines).broken = none := by
  induction lines generalizing k with
  | nil => exact ⟨rfl, rfl, rfl⟩
  | cons line lines ih =>
    obtain ⟨hline, hrest⟩ := List.forall_mem_cons.mp encodable
    obtain ⟨hdone, hfailed, hbroken⟩ := ih hrest
    rw [triesFrom, passed_cons, refused_cons]
    cases hpasses : succeeds k with
    | true =>
      obtain ⟨text, htext⟩ := hline hpasses
      rw [attempt_of_passes hpasses htext]
      exact ⟨congrArg₂ List.cons htext.symm hdone, hfailed, hbroken⟩
    | false =>
      rw [attempt_of_refused line hpasses]
      exact ⟨hdone, congrArg (line :: ·) hfailed, hbroken⟩

/-- Nothing is written to a file that is not there. -/
theorem done_of_unopened (unopened : (attempt succeeds k lines).opened = false) :
    (attempt succeeds k lines).done = [] := by
  induction lines generalizing k with
  | nil => rfl
  | cons line lines ih =>
    unfold attempt at unopened ⊢
    split at unopened
    · split at unopened <;> cases unopened
    · rename_i hrefused
      rw [if_neg hrefused]
      exact ih unopened

end Attempts

/-! ## One emission -/

theorem passed_append (ts us : List (Line × Bool)) : passed (ts ++ us) = passed ts ++ passed us := by
  simp [passed]

theorem refused_append (ts us : List (Line × Bool)) :
    refused (ts ++ us) = refused ts ++ refused us := by
  simp [refused]

theorem passed_append_refused_perm (ts : List (Line × Bool)) :
    (passed ts ++ refused ts).Perm (ts.map Prod.fst) := by
  unfold passed refused
  rw [← List.map_append]
  exact (List.filter_append_perm (·.2) ts).map Prod.fst

theorem map_fst_tries : (f.tries e).map Prod.fst = f.held ++ [e.line] := map_fst_triesFrom

/-- **What an emission does**: what passes goes into the file, what is refused is
held, and nothing breaks off. -/
theorem offer_of_writable (writable : f.Writable e) :
    (f.offer e).written.map .ok =
        f.written.map .ok ++ (passed (f.tries e)).map Line.encode ∧
      (f.offer e).held = refused (f.tries e) ∧ (f.emit e.succeeds e.line).2 = none := by
  have htries : f.tries e =
      triesFrom e.succeeds 0 f.held ++ triesFrom e.succeeds f.held.length [e.line] := by
    unfold tries
    rw [triesFrom_append, Nat.zero_add]
  unfold Writable at writable
  rw [htries] at writable
  obtain ⟨holds, hnew⟩ := List.forall_mem_append.mp writable
  obtain ⟨oldDone, oldFailed, oldBroken⟩ := attempt_of_encodable holds
  obtain ⟨newDone, newFailed, newBroken⟩ := attempt_of_encodable hnew
  have hheld : (f.extend (attempt e.succeeds 0 f.held)).held = f.held := rfl
  rw [htries, passed_append, refused_append]
  unfold offer emit
  simp only [oldBroken, hheld]
  refine ⟨?_, congrArg₂ (· ++ ·) oldFailed newFailed, newBroken⟩
  simp only [extend, List.map_append, oldDone, newDone, List.append_assoc]

/-- After an emission whose writes all pass nothing is held. -/
theorem held_of_passes (writable : f.Writable e) (passes : f.Passes e) : (f.offer e).held = [] := by
  obtain ⟨-, hheld, -⟩ := offer_of_writable writable
  rw [hheld, refused, List.filter_eq_nil_iff.mpr fun t ht => by simp [passes t ht]]
  rfl

theorem passed_of_passes (passes : f.Passes e) : passed (f.tries e) = f.held ++ [e.line] := by
  rw [passed, List.filter_eq_self.mpr passes, map_fst_tries]

theorem passed_of_refuses (refuses : f.Refuses e) : passed (f.tries e) = [] := by
  rw [passed, List.filter_eq_nil_iff.mpr fun t ht => by simp [refuses t ht]]
  rfl

theorem refused_of_refuses (refuses : f.Refuses e) : refused (f.tries e) = f.held ++ [e.line] := by
  rw [refused, List.filter_eq_self.mpr fun t ht => by simp [refuses t ht], map_fst_tries]

/-! ## All emissions -/

theorem offerAll_concat (f : HeldFile) (es : List Emission) (e : Emission) :
    f.offerAll (es ++ [e]) = (f.offerAll es).offer e := by
  unfold offerAll
  rw [List.foldl_concat]

theorem throughout_append {holds : HeldFile → Emission → Prop} {ds : List Emission} :
    Throughout holds f (es ++ ds) ↔
      Throughout holds f es ∧ Throughout holds (f.offerAll es) ds := by
  induction es generalizing f with
  | nil => exact (and_iff_right trivial).symm
  | cons e es ih => exact (and_congr_right fun _ => ih).trans (and_assoc).symm

/-- What every emission keeps holds after all of them. -/
theorem offerAll_induction {holds : HeldFile → Emission → Prop}
    {keeps : HeldFile → List Line → Prop} (start : keeps f emitted)
    (keep : ∀ f emitted e, holds f e → keeps f emitted → keeps (f.offer e) (emitted ++ [e.line]))
    (throughout : Throughout holds f es) :
    keeps (f.offerAll es) (emitted ++ es.map Emission.line) := by
  induction es generalizing f emitted with
  | nil =>
    rw [List.map_nil, List.append_nil]
    exact start
  | cons e es ih =>
    obtain ⟨hnow, hlater⟩ := throughout
    have hrest := ih (keep f emitted e hnow start) hlater
    rw [List.append_assoc] at hrest
    exact hrest

/-- The lines in the file and those held are the lines emitted, and those held
are in their order. -/
structure Accounted (f : HeldFile) (emitted : List Line) : Prop where
  conserved : ∃ out : List Line,
    f.written.map .ok = out.map Line.encode ∧ (out ++ f.held).Perm emitted
  held_sublist : f.held.Sublist emitted

theorem Accounted.offer (accounted : f.Accounted emitted) (writable : f.Writable e) :
    (f.offer e).Accounted (emitted ++ [e.line]) := by
  obtain ⟨⟨out, hwritten, hperm⟩, hsublist⟩ := accounted
  obtain ⟨hnow, hheld, -⟩ := offer_of_writable writable
  refine ⟨⟨out ++ passed (f.tries e), ?_, ?_⟩, ?_⟩
  · rw [hnow, hwritten, List.map_append]
  · rw [hheld, List.append_assoc]
    calc out ++ (passed (f.tries e) ++ refused (f.tries e))
      _ |>.Perm (out ++ (f.tries e).map Prod.fst) :=
        (passed_append_refused_perm _).append_left out
      _ = out ++ f.held ++ [e.line] := by rw [map_fst_tries, List.append_assoc]
      _ |>.Perm (emitted ++ [e.line]) := hperm.append_right _
  · have hrefused : (refused (f.tries e)).Sublist (f.held ++ [e.line]) := by
      rw [← map_fst_tries]
      exact List.filter_sublist.map Prod.fst
    rw [hheld]
    exact hrefused.trans (hsublist.append_right _)

/-- **Lines are conserved**, whatever passes and whatever is refused. -/
theorem accounted_offerAll (writable : Throughout Writable {} es) :
    (offerAll {} es).Accounted (es.map Emission.line) := by
  have start : ({} : HeldFile).Accounted [] := ⟨⟨[], rfl, .nil⟩, .refl []⟩
  have hall := offerAll_induction start (fun _ _ _ h accounted => accounted.offer h) writable
  rwa [List.nil_append] at hall

/-- The file is a front of the lines emitted, and what is held is the rest. -/
def InOrder (f : HeldFile) (emitted : List Line) : Prop :=
  ∃ n ≤ emitted.length,
    f.written.map .ok = (emitted.take n).map Line.encode ∧ f.held = emitted.drop n

/-- The writes of an emission all pass, or are all refused. -/
def Together (f : HeldFile) (e : Emission) : Prop := f.Passes e ∨ f.Refuses e

theorem InOrder.offer (inOrder : f.InOrder emitted) (writable : f.Writable e)
    (together : f.Together e) : (f.offer e).InOrder (emitted ++ [e.line]) := by
  obtain ⟨n, hn, hwritten, hheld⟩ := inOrder
  obtain ⟨hnow, hrefused, -⟩ := offer_of_writable writable
  rcases together with passes | refuses
  · refine ⟨(emitted ++ [e.line]).length, le_refl _, ?_, ?_⟩
    · rw [hnow, hwritten, passed_of_passes passes, hheld, List.take_length, ← List.map_append,
        ← List.append_assoc, List.take_append_drop]
    · rw [held_of_passes writable passes, List.drop_length]
  · refine ⟨n, hn.trans (by simp), ?_, ?_⟩
    · rw [hnow, hwritten, passed_of_refuses refuses, List.take_append_of_le_length hn]
      exact List.append_nil _
    · rw [hrefused, refused_of_refuses refuses, hheld, List.drop_append_of_le_length hn]

theorem throughout_and {holds holds' : HeldFile → Emission → Prop} (h : Throughout holds f es)
    (h' : Throughout holds' f es) : Throughout (fun f e => holds f e ∧ holds' f e) f es := by
  induction es generalizing f with
  | nil => trivial
  | cons e es ih => exact ⟨⟨h.1, h'.1⟩, ih h.2 h'.2⟩

/-- **Lines stay in order** if no emission passes in part. -/
theorem inOrder_offerAll (writable : Throughout Writable {} es)
    (together : Throughout Together {} es) : (offerAll {} es).InOrder (es.map Emission.line) := by
  have start : ({} : HeldFile).InOrder [] := ⟨0, le_refl 0, rfl, rfl⟩
  have hall := offerAll_induction start (fun _ _ _ h inOrder => inOrder.offer h.1 h.2)
    (throughout_and writable together)
  rwa [List.nil_append] at hall

/-- Lines of text pass or are refused, and nothing else happens to them. -/
theorem throughout_writable (texts : ∀ e ∈ es, ∃ text, e.line = Line.ofText text) :
    Throughout Writable {} es := by
  suffices hall : ∀ f : HeldFile, (∀ line ∈ f.held, ∃ text, line = Line.ofText text) →
      Throughout Writable f es from hall {} (by simp)
  induction es with
  | nil => exact fun _ _ => trivial
  | cons e es ih =>
    obtain ⟨hline, hlines⟩ := List.forall_mem_cons.mp texts
    intro f hheld
    have htried : ∀ t ∈ f.tries e, ∃ text, t.1 = Line.ofText text := by
      intro t ht
      have hmem := List.mem_map_of_mem (f := Prod.fst) ht
      rw [map_fst_tries] at hmem
      rcases List.mem_append.mp hmem with hold | hnew
      · exact hheld _ hold
      · rwa [List.mem_singleton.mp hnew]
    have writable : f.Writable e := by
      intro t ht _
      obtain ⟨text, htext⟩ := htried t ht
      exact ⟨text, htext ▸ Line.encode_ofText text⟩
    refine ⟨writable, ih hlines _ fun line hmem => ?_⟩
    rw [(offer_of_writable writable).2.1] at hmem
    obtain ⟨t, ht, rfl⟩ := List.mem_map.mp hmem
    exact htried t (List.mem_of_mem_filter ht)

/-! ## The file -/

/-- What lines have been written to is there. -/
theorem written_of_unopened_offer (f : HeldFile) (e : Emission)
    (start : f.opened = false → f.written = []) :
    (f.offer e).opened = false → (f.offer e).written = [] := by
  unfold offer emit
  simp only [extend]
  split
  · intro unopened
    obtain ⟨hf, hold⟩ := Bool.or_eq_false_iff.mp unopened
    rw [start hf, done_of_unopened hold]
    rfl
  · intro unopened
    obtain ⟨hbefore, hnew⟩ := Bool.or_eq_false_iff.mp unopened
    obtain ⟨hf, hold⟩ := Bool.or_eq_false_iff.mp hbefore
    simp only
    rw [start hf, done_of_unopened hold, done_of_unopened hnew]
    rfl

/-- The file has in it the lines that were written, each with its end. -/
theorem content_offerAll (es : List Emission) :
    (offerAll {} es).content?.getD "" =
      String.join ((offerAll {} es).written.map (· ++ "\n")) := by
  have hunopened : (offerAll {} es).opened = false → (offerAll {} es).written = [] := by
    induction es using List.reverseRecOn with
    | nil => exact fun _ => rfl
    | append_singleton es e ih =>
      rw [offerAll_concat]
      exact written_of_unopened_offer _ e ih
  unfold content?
  cases hopened : (offerAll {} es).opened with
  | true => rfl
  | false =>
    rw [hunopened hopened]
    rfl

/-! ## The statement -/

/-- **No line of the log is lost, and none is written twice.** Whatever is emitted
and whichever writes pass: the lines in the file, with those held back, are the
lines emitted so far, each as often as it was emitted; those held are in the order of
emission; and no emission breaks off. If the writes of each emission all pass or
are all refused, the file is a front of what was emitted and what is held is
the rest. After an emission whose writes all pass nothing is held. -/
theorem lines_conserved (es : List Emission) (writable : Throughout Writable {} es) :
    let file := offerAll {} es
    let emitted := es.map Emission.line
    (∃ out : List Line, file.written.map .ok = out.map Line.encode ∧
      (out ++ file.held).Perm emitted) ∧
    file.content?.getD "" = String.join (file.written.map (· ++ "\n")) ∧
    file.held.Sublist emitted ∧
    (∀ before e after, es = before ++ e :: after →
      ((offerAll {} before).emit e.succeeds e.line).2 = none) ∧
    (Throughout Together {} es → ∃ n, file.written.map .ok = (emitted.take n).map Line.encode ∧
      file.held = emitted.drop n) ∧
    ∀ before e, es = before ++ [e] → (offerAll {} before).Passes e → file.held = [] := by
  intro file emitted
  obtain ⟨hconserved, hsublist⟩ := accounted_offerAll writable
  refine ⟨hconserved, content_offerAll es, hsublist, ?_, ?_, ?_⟩
  · rintro before e after rfl
    obtain ⟨-, hnow, -⟩ := throughout_append.mp writable
    exact (offer_of_writable hnow).2.2
  · intro together
    obtain ⟨n, -, hwritten, hheld⟩ := inOrder_offerAll writable together
    exact ⟨n, hwritten, hheld⟩
  · rintro before e rfl passes
    obtain ⟨-, hnow, -⟩ := throughout_append.mp writable
    show (offerAll {} (before ++ [e])).held = []
    rw [offerAll_concat]
    exact held_of_passes hnow passes

/-- The first line is refused twice, and passes after the second; the third is
refused and held. -/
theorem lines_conserved_overtaken :
    let es : List Emission :=
      [⟨Line.ofText "a", fun _ => false⟩, ⟨Line.ofText "b", fun k => k == 1⟩,
        ⟨Line.ofText "c", fun k => k == 0⟩]
    Throughout Writable {} es ∧ (offerAll {} es).written = ["b", "a"] ∧
      (offerAll {} es).held = [Line.ofText "c"] ∧
      (∃ out : List Line, (offerAll {} es).written.map .ok = out.map Line.encode ∧
        (out ++ (offerAll {} es).held).Perm (es.map Emission.line)) := by
  intro es
  have writable : Throughout Writable {} es :=
    throughout_writable (by simp [es])
  exact ⟨writable, by decide +kernel, by decide +kernel, (lines_conserved es writable).1⟩

end HeldFile

end Log

end Chip8
