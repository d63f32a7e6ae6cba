/-
Chip8.Proofs.Processor.Rendering — the lines of a trace, written from their
templates.

A text is written by filling a template (`fill`): text that stands for
itself, and places for fields, marked in one of two ways (`Marking`). A great
deal can go wrong with that (`Failure`): a place without an end, a field
that nobody has, a field in a form it does not have, a numeral that is too
long. And the number to be written out as an instruction may be no word.

* `Pattern.render?_word` — for words, the templates of the table are filled
  without fail, and the outcome is `Pattern.disassemble`. For no other number
  is anything written (`Pattern.render?_eq_error_iff`).
* `Trace.render?_word` — with a stack pointer whose numeral is not too long
  the line of a trace is written, and is `Trace.line`.
-/
import Chip8.Number.Range
import Chip8.Proofs.Instruction.Disassembly
import Chip8.Processor.Trace

namespace Chip8

namespace Rendering

/-- Why a text cannot be written. -/
inductive Failure where
  /-- An instruction was asked for by a number that is no word. -/
  | notAWord (n : Int)
  /-- A place for a field that there is not. -/
  | noField (name : List Char)
  /-- A field in a form that it does not have. -/
  | noForm (form : List Char)
  /-- A place without an end, or a mark where none can be. -/
  | malformed
  /-- A numeral with too many digits. -/
  | tooLong (n : Int)
deriving DecidableEq

abbrev Rendered := Except Failure (List Char)

theorem ok_bind {α β : Type} (a : α) (f : α → Except Failure β) :
    ((Except.ok a : Except Failure α) >>= f) = f a := rfl

/-! ## Templates -/

/-- How a place for a field is marked: what opens it, and the characters that
do not stand for themselves. It is closed by a brace. -/
structure Marking where
  first : Char
  others : List Char
  special : List Char
  first_special : first ∈ special

def Marking.opening (m : Marking) : List Char := m.first :: m.others

/-- A place is a name in braces. -/
def Marking.braces : Marking := ⟨'\x7b', [], ['\x7b', '\x7d'], by decide⟩

/-- A place is a name in braces behind a dollar. -/
def Marking.dollars : Marking := ⟨'$', ['\x7b'], ['$'], by decide⟩

def closing : Char := '\x7d'

/-- Fill the places of a template with what `field` has for their names. -/
def fill (m : Marking) (field : List Char → Rendered) : List Char → Rendered
  | [] => .ok []
  | c :: cs =>
      if m.opening.isPrefixOf (c :: cs) then
        let body := (c :: cs).drop m.opening.length
        if closing ∈ body then do
          let value ← field (body.takeWhile (· ≠ closing))
          let rest ← fill m field (body.dropWhile (· ≠ closing)).tail
          return value ++ rest
        else .error .malformed
      else if c ∈ m.special then .error .malformed
      else do
        let rest ← fill m field cs
        return c :: rest
termination_by cs => cs.length
decreasing_by
  · have hshort := (List.dropWhile_suffix (l := body) (· ≠ closing)).length_le
    simp only [body, List.length_cons, List.length_drop, List.length_tail] at hshort ⊢
    omega
  · simp

variable {m : Marking} {field : List Char → Rendered}

/-- Text without special characters stands for itself. -/
theorem fill_plain {s : List Char} (plain : ∀ c ∈ s, c ∉ m.special) (rest : List Char) :
    fill m field (s ++ rest) = (fill m field rest).map (s ++ ·) := by
  induction s with
  | nil => cases h : fill m field rest <;> simp [h, Except.map]
  | cons c s ih =>
    have hc : c ∉ m.special := plain c List.mem_cons_self
    have hopening : m.opening.isPrefixOf (c :: (s ++ rest)) = false := by
      have hne : (m.first == c) = false := beq_false_of_ne fun e => hc (e ▸ m.first_special)
      show (m.first == c && m.others.isPrefixOf (s ++ rest)) = false
      rw [hne]
      rfl
    rw [List.cons_append, fill, hopening, if_neg (by simp), if_neg hc,
      ih fun d hd => plain d (List.mem_cons_of_mem c hd)]
    cases fill m field rest <;> rfl

/-- A place is filled with its field. -/
theorem fill_place {name : List Char} (closed : closing ∉ name) (rest : List Char) :
    fill m field (m.opening ++ name ++ closing :: rest) =
      (field name).bind fun value => (fill m field rest).map (value ++ ·) := by
  have hopening :
      m.opening.isPrefixOf (m.first :: (m.others ++ name ++ closing :: rest)) = true := by
    rw [List.isPrefixOf_iff_prefix]
    exact ⟨name ++ closing :: rest, by simp [Marking.opening]⟩
  have hbody : (m.first :: (m.others ++ name ++ closing :: rest)).drop m.opening.length =
      name ++ closing :: rest := by
    simp [Marking.opening]
  have hpass : ∀ c ∈ name, decide (c ≠ closing) = true := by
    intro c hc
    exact decide_eq_true fun e => closed (e ▸ hc)
  have hname : (name ++ closing :: rest).takeWhile (· ≠ closing) = name := by
    rw [List.takeWhile_append_of_pos hpass]
    simp
  have hafter : ((name ++ closing :: rest).dropWhile (· ≠ closing)).tail = rest := by
    rw [List.dropWhile_append_of_pos hpass]
    simp
  show fill m field (m.first :: (m.others ++ name ++ closing :: rest)) = _
  rw [fill, if_pos hopening, hbody, if_pos (by simp), hname, hafter]
  cases field name with
  | error e => rfl
  | ok value => cases fill m field rest <;> rfl

/-- A piece of a template with what it becomes: text that stands for itself, or
a place with the value of its field. -/
inductive Piece where
  | plain (s : List Char)
  | place (name value : List Char)

namespace Piece

/-- The piece in the template. -/
def source (m : Marking) : Piece → List Char
  | .plain s => s
  | .place name _ => m.opening ++ name ++ [closing]

/-- The piece when it is filled. -/
def result : Piece → List Char
  | .plain s => s
  | .place _ value => value

/-- Whether a piece can be filled, and becomes what it says. -/
def Fits (m : Marking) (field : List Char → Rendered) : Piece → Prop
  | .plain s => ∀ c ∈ s, c ∉ m.special
  | .place name value => closing ∉ name ∧ field name = .ok value

end Piece

/-- A template is filled piece by piece. -/
theorem fill_pieces {pieces : List Piece} (fits : ∀ p ∈ pieces, p.Fits m field)
    (rest : List Char) :
    fill m field (pieces.flatMap (Piece.source m) ++ rest) =
      (fill m field rest).map (pieces.flatMap Piece.result ++ ·) := by
  induction pieces with
  | nil => cases h : fill m field rest <;> simp [h, Except.map]
  | cons p pieces ih =>
    have hrest := ih fun q hq => fits q (List.mem_cons_of_mem p hq)
    have hp := fits p List.mem_cons_self
    rw [List.flatMap_cons, List.append_assoc]
    cases p with
    | plain s =>
      rw [Piece.source, fill_plain hp, hrest]
      cases fill m field rest <;> simp [Except.map, Piece.result]
    | place name value =>
      obtain ⟨hclosed, hvalue⟩ := hp
      rw [Piece.source, List.append_assoc _ [closing], List.singleton_append, fill_place hclosed,
        hvalue, hrest]
      cases fill m field rest <;> simp [Except.map, Except.bind, Piece.result]

/-! ## Fields -/

/-- The numeral of a whole number. -/
def decimal (n : Int) : Rendered :=
  if Number.isWritable n then .ok (toString n).toList else .error (.tooLong n)

/-- What a field holds. -/
inductive Content where
  | number (n : Nat)
  | text (s : String)

/-- What a field holds in a form: numbers as they are or in hexadecimal, texts
as they are. -/
def Content.write : Content → List Char → Rendered
  | .number n, [] => decimal n
  | .number n, ['X'] => .ok (Text.Hex.padded 0 n).toList
  | .text s, [] => .ok s.toList
  | .number _, form | .text _, form => .error (.noForm form)

/-- The field of a name among fields. -/
def fieldOf {α : Type} (fields : List (String × α)) (name : List Char) : Except Failure α :=
  match fields.lookup (String.ofList name) with
  | some value => .ok value
  | none => .error (.noField name)

/-- The fields of a word that operands are written with. -/
def operandFields (w : Word) : List (String × Content) :=
  [ ("x", .number w.x.val),
    ("y", .number w.y.val),
    ("byte", .text ("#$" ++ Text.Hex.padded 2 w.byte.toNat)),
    ("nibble", .number w.nibble.val),
    ("addr", .text ("$" ++ Text.Hex.padded 3 w.address.val)) ]

/-- What is written in a place of an operand template: the name of a field,
and behind a colon the form. -/
def operandField (w : Word) (place : List Char) : Rendered := do
  let content ← fieldOf (operandFields w) (place.takeWhile (· ≠ ':'))
  content.write (place.dropWhile (· ≠ ':')).tail

end Rendering

open Rendering

/-! ## Instructions -/

theorem Word.ofInt?_toNat (w : Word) : ofInt? w.toNat = some w := by
  have hlt := w.toNat_lt
  unfold ofInt?
  rw [if_pos (by omega), Int.toNat_natCast, UInt16.ofNat_toNat]

/-- A number written out as an instruction: first it has to be a word. -/
def Pattern.render? (n : Int) : Rendered :=
  match Word.ofInt? n with
  | none => .error (.notAWord n)
  | some w =>
      match find? w with
      | none => .ok ("DW $" ++ Text.Hex.padded 4 n).toList
      | some p => do
          let operands ← fill .braces (operandField w) p.template.toList
          return if operands.isEmpty then p.mnemonic.toList
            else p.mnemonic.toList ++ ' ' :: operands

theorem decimal_of_small {n : Int} (h : n.natAbs < 1000) :
    decimal n = .ok (toString n).toList := by
  unfold decimal
  rw [if_pos (Number.isWritable_of_small h)]

theorem operandField_register (w : Word) :
    operandField w ['x', ':', 'X'] = .ok (Text.Hex.padded 1 w.x.val).toList ∧
      operandField w ['y', ':', 'X'] = .ok (Text.Hex.padded 1 w.y.val).toList := by
  rw [Text.Hex.padded_one, Text.Hex.padded_one]
  exact ⟨rfl, rfl⟩

theorem operandField_text (w : Word) :
    operandField w ['b', 'y', 't', 'e'] = .ok (Operand.byte.text w).toList ∧
      operandField w ['a', 'd', 'd', 'r'] = .ok (Operand.address.text w).toList :=
  ⟨rfl, rfl⟩

theorem operandField_nibble (w : Word) :
    operandField w ['n', 'i', 'b', 'b', 'l', 'e'] = .ok (Operand.nibble.text w).toList := by
  have hvalue : fieldOf (operandFields w) ['n', 'i', 'b', 'b', 'l', 'e'] =
      .ok (.number w.nibble.val) := rfl
  have hname : ['n', 'i', 'b', 'b', 'l', 'e'].takeWhile (· ≠ ':') =
      ['n', 'i', 'b', 'b', 'l', 'e'] := by decide
  have hform : (['n', 'i', 'b', 'b', 'l', 'e'].dropWhile (· ≠ ':')).tail = [] := by decide
  unfold operandField
  rw [hname, hform, hvalue, ok_bind, Content.write, decimal_of_small (by omega)]
  rfl

/-- The pieces of an operand template. -/
def operandPieces (w : Word) : Operand → List Piece
  | .vx => [.plain ['V'], .place ['x', ':', 'X'] (Text.Hex.padded 1 w.x.val).toList]
  | .vy => [.plain ['V'], .place ['y', ':', 'X'] (Text.Hex.padded 1 w.y.val).toList]
  | .byte => [.place ['b', 'y', 't', 'e'] (Operand.byte.text w).toList]
  | .nibble => [.place ['n', 'i', 'b', 'b', 'l', 'e'] (Operand.nibble.text w).toList]
  | .address => [.place ['a', 'd', 'd', 'r'] (Operand.address.text w).toList]
  | fixed => [.plain fixed.template.toList]

theorem operandPieces_fit (w : Word) (o : Operand) :
    ∀ p ∈ operandPieces w o, p.Fits .braces (operandField w) := by
  obtain ⟨hx, hy⟩ := operandField_register w
  obtain ⟨hbyte, haddress⟩ := operandField_text w
  have hv : (Piece.plain ['V']).Fits .braces (operandField w) := by
    simp [Piece.Fits, Marking.braces]
  have hfixed : ∀ o : Operand, o ∈ [.v0, .index, .atIndex, .delay, .sound, .key, .glyph, .decimal] →
      ∀ c ∈ o.template.toList, c ∉ Marking.braces.special := by
    simp [Operand.template, Marking.braces]
  cases o with
  | vx => exact List.forall_mem_cons.mpr ⟨hv, List.forall_mem_singleton.mpr ⟨by decide, hx⟩⟩
  | vy => exact List.forall_mem_cons.mpr ⟨hv, List.forall_mem_singleton.mpr ⟨by decide, hy⟩⟩
  | byte => exact List.forall_mem_singleton.mpr ⟨by decide, hbyte⟩
  | nibble => exact List.forall_mem_singleton.mpr ⟨by decide, operandField_nibble w⟩
  | address => exact List.forall_mem_singleton.mpr ⟨by decide, haddress⟩
  | _ => exact List.forall_mem_singleton.mpr (hfixed _ (by decide))

theorem operandPieces_source (w : Word) (o : Operand) :
    (operandPieces w o).flatMap (Piece.source .braces) = o.template.toList := by
  cases o with
  | vx | vy | byte | nibble | address =>
    simp [operandPieces, Operand.template, Piece.source, Marking.opening, Marking.braces, closing]
  | _ => exact List.append_nil _

theorem operandPieces_result (w : Word) (o : Operand) :
    (operandPieces w o).flatMap Piece.result = (o.text w).toList := by
  cases o with
  | vx | vy =>
    rw [Operand.text, String.toList_append]
    simp [operandPieces, Piece.result]
  | _ => exact List.append_nil _

/-- The template of an operand is filled with the text of the operand. -/
theorem fill_operand (w : Word) (o : Operand) (rest : List Char) :
    fill .braces (operandField w) (o.template.toList ++ rest) =
      (fill .braces (operandField w) rest).map ((o.text w).toList ++ ·) := by
  have h := fill_pieces (operandPieces_fit w o) rest
  rwa [operandPieces_source, operandPieces_result] at h

/-- Every operand template is filled, the commas between them included. -/
theorem fill_tail (w : Word) (os : List Operand) :
    fill .braces (operandField w) (Assembly.tail (os.map Operand.template)) =
      .ok (Assembly.tail (os.map (Operand.text w))) := by
  induction os with
  | nil => rw [List.map_nil, List.map_nil]; exact fill.eq_1 ..
  | cons o os ih =>
    have hplain : ∀ c ∈ [',', ' '], c ∉ Marking.braces.special := by simp [Marking.braces]
    show fill .braces (operandField w)
      ([',', ' '] ++ (o.template.toList ++ Assembly.tail (os.map Operand.template))) = _
    rw [fill_plain hplain, fill_operand, ih]
    rfl

theorem fill_template (w : Word) (os : List Operand) :
    fill .braces (operandField w) (", ".intercalate (os.map Operand.template)).toList =
      .ok (", ".intercalate (os.map (Operand.text w))).toList := by
  cases os with
  | nil => exact fill.eq_1 ..
  | cons o os =>
    rw [List.map_cons, List.map_cons, Assembly.toList_intercalate, Assembly.toList_intercalate,
      fill_operand, fill_tail]
    rfl

/-- **Every word is written out, as the disassembler writes it.** -/
theorem Pattern.render?_word (w : Word) : render? w.toNat = .ok (disassemble w).toList := by
  unfold render?
  rw [Word.ofInt?_toNat]
  cases hfind : find? w with
  | none => simp only [disassemble, hfind]
  | some p =>
    have htexts : (", ".intercalate (p.operands.map (Operand.text w))).toList.isEmpty =
        p.operands.isEmpty := by
      cases p.operands with
      | nil => rfl
      | cons o os =>
        rw [List.map_cons, Assembly.toList_intercalate]
        have hhead := Operand.kindOf_head?_text w o
        cases htext : (o.text w).toList with
        | nil => rw [htext] at hhead; cases hhead
        | cons c cs => rfl
    simp only [hfind, template, fill_template, ok_bind, htexts]
    rw [disassemble_of_some hfind]
    cases p.operands with
    | nil => rfl
    | cons o os =>
      show _ = Except.ok (String.toList (_ ++ " " ++ _))
      rw [String.toList_append, String.toList_append, List.append_assoc]
      rfl

/-- Of no other number is anything written. -/
theorem Pattern.render?_eq_error_iff (n : Int) (e : Failure) :
    render? n = .error e ↔ (n < 0 ∨ 0xFFFF < n) ∧ e = .notAWord n := by
  by_cases hword : 0 ≤ n ∧ n ≤ 0xFFFF
  · have hn : ((UInt16.ofNat n.toNat).toNat : Int) = n := by
      rw [UInt16.toNat_ofNat_of_lt' (by unfold UInt16.size; omega)]
      omega
    have hok := render?_word (UInt16.ofNat n.toNat)
    rw [hn] at hok
    rw [hok]
    constructor
    · intro h
      cases h
    · rintro ⟨hout, -⟩
      omega
  · have hnone : render? n = .error (.notAWord n) := by
      unfold render? Word.ofInt?
      rw [if_neg hword]
    rw [hnone]
    constructor
    · intro h
      injection h with h
      exact ⟨by omega, h.symm⟩
    · rintro ⟨-, rfl⟩
      rfl

/-! ## Trace lines -/

namespace Trace

/-- What a trace line looks like. -/
def template : String :=
  "$\x7bPC\x7d: $\x7bOP\x7d $\x7bASM\x7d | I: $\x7bI\x7d | SP: $\x7bSP\x7d | V: $\x7bV\x7d"

/-- The line of a trace for a number that was fetched, from its template. -/
def render? (r : Registers) (n : Int) : Rendered := do
  let hex := Text.Hex.padded
  let text ← Pattern.render? n
  let sp ← decimal r.sp
  let fields := [
    ("PC", (hex 3 r.pc).toList),
    ("OP", (hex 4 n).toList),
    ("ASM", (filled 16 (String.ofList text)).toList),
    ("I", (hex 3 r.i).toList),
    ("SP", sp),
    ("V", (" ".intercalate (r.v.toList.map fun b => hex 2 b.toNat)).toList) ]
  fill .dollars (fieldOf fields) template.toList

/-- The pieces of the template, by the values of the fields. -/
def pieces (pc op asm i sp v : List Char) : List Piece :=
  [ .place ['P', 'C'] pc, .plain [':', ' '], .place ['O', 'P'] op, .plain [' '],
    .place ['A', 'S', 'M'] asm, .plain [' ', '|', ' ', 'I', ':', ' '], .place ['I'] i,
    .plain [' ', '|', ' ', 'S', 'P', ':', ' '], .place ['S', 'P'] sp,
    .plain [' ', '|', ' ', 'V', ':', ' '], .place ['V'] v ]

theorem pieces_source (pc op asm i sp v : List Char) :
    (pieces pc op asm i sp v).flatMap (Piece.source .dollars) = template.toList := by
  simp [pieces, template, Piece.source, Marking.opening, Marking.dollars, closing]

theorem pieces_fit (pc op asm i sp v : List Char) :
    ∀ p ∈ pieces pc op asm i sp v, p.Fits .dollars
      (fieldOf [("PC", pc), ("OP", op), ("ASM", asm), ("I", i), ("SP", sp), ("V", v)]) := by
  have hplain : ∀ s ∈ [[':', ' '], [' '], [' ', '|', ' ', 'I', ':', ' '],
      [' ', '|', ' ', 'S', 'P', ':', ' '], [' ', '|', ' ', 'V', ':', ' ']],
      ∀ c ∈ s, c ∉ Marking.dollars.special := by
    simp [Marking.dollars]
  have hclosed : ∀ name ∈ [['P', 'C'], ['O', 'P'], ['A', 'S', 'M'], ['I'], ['S', 'P'], ['V']],
      closing ∉ name := by
    decide
  simp only [pieces, List.forall_mem_cons]
  exact ⟨⟨hclosed _ (by decide), rfl⟩, hplain _ (by decide), ⟨hclosed _ (by decide), rfl⟩,
    hplain _ (by decide), ⟨hclosed _ (by decide), rfl⟩, hplain _ (by decide),
    ⟨hclosed _ (by decide), rfl⟩, hplain _ (by decide), ⟨hclosed _ (by decide), rfl⟩,
    hplain _ (by decide), ⟨hclosed _ (by decide), rfl⟩, nofun⟩

/-- **The line of a trace is written**, if the stack pointer has a numeral that
is not too long. -/
theorem render?_word {r : Registers} (writable : Number.isWritable r.sp = true) (w : Word) :
    render? r w.toNat = .ok (line r w).toList := by
  have hfill := fill_pieces (pieces_fit (Text.Hex.padded 3 r.pc).toList
    (Text.Hex.padded 4 w.toNat).toList (filled 16 (Pattern.disassemble w)).toList
    (Text.Hex.padded 3 r.i).toList (toString r.sp).toList
    (" ".intercalate (r.v.toList.map fun b => Text.Hex.padded 2 b.toNat)).toList) []
  rw [List.append_nil, pieces_source, fill] at hfill
  unfold render? decimal
  rw [if_pos writable, Pattern.render?_word]
  simp only [ok_bind, String.ofList_toList]
  rw [hfill]
  simp only [Except.map, List.append_nil]
  refine congrArg Except.ok ?_
  have htoString : ∀ s : String, toString s = s := fun _ => rfl
  simp [line, htoString, pieces, Piece.result]

end Trace

end Chip8
