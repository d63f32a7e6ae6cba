/-
Chip8.Proofs.Instruction.Disassembly — which words have the same text.

The disassembler writes a mnemonic and operands with separators between
them (`line`), and none of the parts has the separator in it, so the parts
are read back (`line_inj`). The first character of an operand shows its
kind, the mnemonic with the kinds shows the pattern, and the text of an
operand shows its value.

`disassemble_eq_iff` — two different words have the same text exactly if
they are decoded to the same instruction. As `Word.disassemble_eq_iff` says
this happens to the shifts only, which leave the second register open.
-/
import Chip8.Proofs.Instruction.Assembly
import Chip8.Proofs.Instruction.Coding
import Chip8.Proofs.Text.Hex

namespace Chip8

namespace Assembly

/-! ## Parts and separators -/

/-- Nothing, or a separator at the front: what can follow a part. -/
def Bounded (separator : Char) (s : List Char) : Prop := ∀ c ∈ s.head?, c = separator

/-- The first part of a text ends where the separator is. -/
theorem append_inj_of_bounded {separator : Char} {s s' t t' : List Char} (hs : separator ∉ s)
    (hs' : separator ∉ s') (ht : Bounded separator t) (ht' : Bounded separator t')
    (h : s ++ t = s' ++ t') : s = s' ∧ t = t' := by
  induction s generalizing s' with
  | nil =>
    cases s' with
    | nil => exact ⟨rfl, h⟩
    | cons c s' =>
      have hc : c = separator := ht c (by rw [List.nil_append] at h; rw [h]; rfl)
      exact absurd (hc ▸ List.mem_cons_self) hs'
  | cons c s ih =>
    cases s' with
    | nil =>
      have hc : c = separator := ht' c (by rw [List.nil_append] at h; rw [← h]; rfl)
      exact absurd (hc ▸ List.mem_cons_self) hs
    | cons d s' =>
      injection h with hcd hrest
      obtain ⟨hss, htt⟩ := ih (fun hc => hs (List.mem_cons_of_mem c hc))
        (fun hd => hs' (List.mem_cons_of_mem d hd)) hrest
      exact ⟨congrArg₂ List.cons hcd hss, htt⟩

/-- The parts after the first, each with the comma in front of it. -/
def tail (parts : List String) : List Char := parts.flatMap fun p => ',' :: ' ' :: p.toList

theorem bounded_tail (parts : List String) : Bounded ',' (tail parts) := by
  cases parts with
  | nil => exact fun c hc => nomatch hc
  | cons p parts => exact fun c hc => (Option.some.inj hc).symm

theorem toList_intercalate (p : String) (parts : List String) :
    (", ".intercalate (p :: parts)).toList = p.toList ++ tail parts := by
  induction parts generalizing p with
  | nil => simp [tail]
  | cons q parts ih =>
    rw [String.intercalate_cons_cons, String.toList_append, String.toList_append, ih]
    simp [tail]

/-- Parts without a comma are read back. -/
theorem tail_inj {parts parts' : List String} (hp : ∀ p ∈ parts, ',' ∉ p.toList)
    (hp' : ∀ p ∈ parts', ',' ∉ p.toList) (h : tail parts = tail parts') : parts = parts' := by
  induction parts generalizing parts' with
  | nil =>
    cases parts' with
    | nil => rfl
    | cons => exact nomatch h
  | cons p parts ih =>
    cases parts' with
    | nil => exact nomatch h
    | cons p' parts' =>
      have hchars : p.toList ++ tail parts = p'.toList ++ tail parts' :=
        (List.cons.inj (List.cons.inj h).2).2
      obtain ⟨hfirst, hrest⟩ := append_inj_of_bounded (hp p List.mem_cons_self)
        (hp' p' List.mem_cons_self) (bounded_tail parts) (bounded_tail parts') hchars
      have hparts : parts = parts' := ih (fun q hq => hp q (List.mem_cons_of_mem p hq))
        (fun q hq => hp' q (List.mem_cons_of_mem p' hq)) hrest
      exact congrArg₂ List.cons (String.toList_inj.mp hfirst) hparts

/-- A mnemonic with the texts of its operands. -/
def line (mnemonic : String) : List String → String
  | [] => mnemonic
  | operands => mnemonic ++ " " ++ ", ".intercalate operands

/-- What stands behind the mnemonic of a line. -/
def lineRest : List String → List Char
  | [] => []
  | p :: parts => ' ' :: (p.toList ++ tail parts)

theorem toList_line (mnemonic : String) (operands : List String) :
    (line mnemonic operands).toList = mnemonic.toList ++ lineRest operands := by
  cases operands with
  | nil => exact (List.append_nil _).symm
  | cons p parts =>
    rw [line, String.toList_append, String.toList_append, toList_intercalate, lineRest,
      List.append_assoc]
    · rfl
    · exact List.cons_ne_nil p parts

theorem bounded_lineRest (operands : List String) : Bounded ' ' (lineRest operands) := by
  cases operands with
  | nil => exact fun c hc => nomatch hc
  | cons p parts => exact fun c hc => (Option.some.inj hc).symm

/-- **A line is read back**, if no mnemonic has a blank in it and no operand
a comma. -/
theorem line_inj {m m' : String} {operands operands' : List String} (hm : ' ' ∉ m.toList)
    (hm' : ' ' ∉ m'.toList) (ho : ∀ p ∈ operands, ',' ∉ p.toList)
    (ho' : ∀ p ∈ operands', ',' ∉ p.toList) (h : line m operands = line m' operands') :
    m = m' ∧ operands = operands' := by
  have hchars := congrArg String.toList h
  rw [toList_line, toList_line] at hchars
  obtain ⟨hmnemonic, hrest⟩ := append_inj_of_bounded hm hm' (bounded_lineRest operands)
    (bounded_lineRest operands') hchars
  refine ⟨String.toList_inj.mp hmnemonic, ?_⟩
  cases operands with
  | nil =>
    cases operands' with
    | nil => rfl
    | cons => exact nomatch hrest
  | cons p parts =>
    cases operands' with
    | nil => exact nomatch hrest
    | cons p' parts' =>
      -- with a comma in front these are tails
      refine tail_inj ho ho' ?_
      exact congrArg (',' :: ·) hrest

end Assembly

/-! ## The texts of operands -/

namespace Operand

/-- What the text of an operand shows of it: a register, not which one the
word names it by. -/
def kind : Operand → Operand
  | .vy | .v0 => .vx
  | o => o

/-- The kind of an operand by the first character of its text. -/
def kindOf : Char → Operand
  | 'V' => .vx
  | '#' => .byte
  | '$' => .address
  | 'I' => .index
  | '[' => .atIndex
  | 'D' => .delay
  | 'S' => .sound
  | 'K' => .key
  | 'F' => .glyph
  | 'B' => .decimal
  | _ => .nibble

theorem kindOf_head?_text (w : Word) (o : Operand) :
    (o.text w).toList.head?.map kindOf = some o.kind := by
  have hnibble : ∀ n : Fin 16, (toString n.val).toList.head?.map kindOf = some .nibble := by
    decide
  have hfixed : ∀ o ∈ [v0, index, atIndex, delay, sound, key, glyph, decimal],
      o.template.toList.head?.map kindOf = some o.kind := by
    decide
  cases o with
  | nibble => exact hnibble w.nibble
  | vx | vy | byte | address =>
    simp only [text, String.toList_append]
    rfl
  | _ => exact hfixed _ (by decide)

theorem comma_not_mem_padded (width n : Nat) : ',' ∉ (Text.Hex.padded width n).toList := by
  intro hcomma
  obtain ⟨d, hd, hdigit⟩ := Text.Hex.exists_digit_of_mem_padded hcomma
  have hother : ∀ d < 16, ',' ≠ Text.Hex.digit d := by decide
  exact hother d hd hdigit

theorem comma_not_mem_text (w : Word) (o : Operand) : ',' ∉ (o.text w).toList := by
  have hnibble : ∀ n : Fin 16, ',' ∉ (toString n.val).toList := by decide
  have hfixed : ∀ o : Operand, o ∈ [v0, index, atIndex, delay, sound, key, glyph, decimal] →
      ',' ∉ o.template.toList := by
    decide
  cases o with
  | nibble => exact hnibble w.nibble
  | vx | vy | byte | address =>
    rw [text, String.toList_append]
    exact fun h => (List.mem_append.mp h).elim (by decide) (comma_not_mem_padded _ _)
  | _ => exact hfixed _ (by decide)

/-- The text of an operand shows its value. -/
theorem argument_of_text {a b : Word} {o : Operand} (h : o.text a = o.text b) :
    o.argument a = o.argument b := by
  have hnibble : ∀ m n : Fin 16, toString m.val = toString n.val → m = n := by decide
  cases o with
  | vx =>
    have hpadded := (String.append_right_inj _).mp h
    exact congrArg Argument.vx (Fin.ext (Text.Hex.padded_injective hpadded))
  | vy =>
    have hpadded := (String.append_right_inj _).mp h
    exact congrArg Argument.vy (Fin.ext (Text.Hex.padded_injective hpadded))
  | byte =>
    have hpadded := (String.append_right_inj _).mp h
    exact congrArg Argument.byte (UInt8.toNat_inj.mp (Text.Hex.padded_injective hpadded))
  | address =>
    have hpadded := (String.append_right_inj _).mp h
    exact congrArg Argument.address (Fin.ext (Text.Hex.padded_injective hpadded))
  | nibble => exact congrArg Argument.nibble (hnibble _ _ h)
  | _ => rfl

end Operand

/-- The text of an operand, by its value. -/
def Argument.text : Argument → String
  | .vx x => "V" ++ Text.Hex.padded 1 x.val
  | .vy y => "V" ++ Text.Hex.padded 1 y.val
  | .byte k => "#$" ++ Text.Hex.padded 2 k.toNat
  | .nibble n => toString n.val
  | .address a => "$" ++ Text.Hex.padded 3 a.val
  | .fixed o => o.template

theorem Operand.text_argument (w : Word) (o : Operand) : (o.argument w).text = o.text w := by
  cases o <;> rfl

/-! ## The texts of words -/

namespace Pattern

open Assembly

variable {a b w : Word}

theorem disassemble_of_none (h : find? w = none) :
    disassemble w = line "DW" ["$" ++ Text.Hex.padded 4 w.toNat] := by
  have hchars : "DW $" = "DW" ++ " " ++ "$" := by decide
  rw [disassemble, h, hchars, String.append_assoc]
  rfl

theorem disassemble_of_some {p : Pattern} (h : find? w = some p) :
    disassemble w = line p.mnemonic (p.operands.map (Operand.text w)) := by
  simp only [disassemble, h]
  cases p.operands with
  | nil => rfl
  | cons => rfl

theorem mem_of_find? {p : Pattern} (h : find? w = some p) : p ∈ table ∧ p.Matches w = true := by
  unfold find? at h
  have hmatches := List.find?_some h
  exact ⟨List.mem_of_find?_eq_some h, hmatches⟩

/-- What is decoded is fitted by a pattern. -/
theorem exists_find?_of_decode {i : Instruction} (h : Instruction.decode w = some i) :
    ∃ p, find? w = some p := by
  cases hfind : find? w with
  | none =>
    have hreserved := (Instruction.decode_eq_none_iff w).mpr ((find?_eq_none_iff w).mp hfind)
    exact nomatch h.symm.trans hreserved
  | some p => exact ⟨p, rfl⟩

/-- The name of an instruction and its operands, written out. -/
theorem disassemble_of_decode {i : Instruction} (h : Instruction.decode w = some i) :
    disassemble w = line i.mnemonic (i.arguments.map Argument.text) := by
  obtain ⟨p, hfind⟩ := exists_find?_of_decode h
  obtain ⟨hmem, hmatches⟩ := mem_of_find? hfind
  obtain ⟨j, hj, hmnemonic, harguments⟩ := Instruction.decode_of_matches p hmem hmatches
  obtain rfl : j = i := Option.some.inj (hj.symm.trans h)
  have htexts : (p.operands.map (Operand.argument w)).map Argument.text =
      p.operands.map (Operand.text w) := by
    rw [List.map_map]
    exact List.map_congr_left fun o _ => Operand.text_argument w o
  rw [disassemble_of_some hfind, hmnemonic, harguments, htexts]

theorem blank_not_mem_mnemonic : ∀ p ∈ table, ' ' ∉ p.mnemonic.toList := by
  decide

theorem mnemonic_ne_data : ∀ p ∈ table, p.mnemonic ≠ "DW" := by
  decide

/-- The mnemonic and the kinds of the operands show the pattern. -/
theorem table_kinds_nodup :
    (table.map fun p => (p.mnemonic, p.operands.map Operand.kind)).Nodup := by
  decide

theorem comma_not_mem_texts (w : Word) (p : Pattern) :
    ∀ t ∈ p.operands.map (Operand.text w), ',' ∉ t.toList := by
  intro t ht
  obtain ⟨o, -, rfl⟩ := List.mem_map.mp ht
  exact Operand.comma_not_mem_text w o

/-- Two words with one text that patterns fit are fitted by one pattern, and
its operands have the same values in both. -/
theorem arguments_of_text {p q : Pattern} (hp : find? a = some p) (hq : find? b = some q)
    (h : disassemble a = disassemble b) :
    p = q ∧ p.operands.map (Operand.argument a) = q.operands.map (Operand.argument b) := by
  have hpt := (mem_of_find? hp).1
  have hqt := (mem_of_find? hq).1
  rw [disassemble_of_some hp, disassemble_of_some hq] at h
  obtain ⟨hmnemonic, htexts⟩ := line_inj (blank_not_mem_mnemonic p hpt)
    (blank_not_mem_mnemonic q hqt) (comma_not_mem_texts a p) (comma_not_mem_texts b q) h
  have hkinds : p.operands.map Operand.kind = q.operands.map Operand.kind := by
    have hread (w : Word) (r : Pattern) :
        (r.operands.map (Operand.text w)).map (fun t => t.toList.head?.map Operand.kindOf) =
          (r.operands.map Operand.kind).map some := by
      rw [List.map_map, List.map_map]
      exact List.map_congr_left fun o _ => Operand.kindOf_head?_text w o
    have hsome := (hread a p).symm.trans ((congrArg _ htexts).trans (hread b q))
    exact List.map_injective_iff.mpr (Option.some_injective Operand) hsome
  obtain rfl : p = q := by
    refine List.inj_on_of_nodup_map table_kinds_nodup hpt hqt ?_
    rw [hmnemonic, hkinds]
  refine ⟨rfl, List.map_congr_left fun o ho => ?_⟩
  exact Operand.argument_of_text (List.map_inj_left.mp htexts o ho)

/-- **Two words have the same text exactly if they are the same word or are
decoded to the same instruction.** -/
theorem disassemble_eq_iff (a b : Word) :
    disassemble a = disassemble b ↔
      a = b ∨ ∃ i, Instruction.decode a = some i ∧ Instruction.decode b = some i := by
  constructor
  · intro h
    have hblank : ' ' ∉ "DW".toList := by decide
    have hcomma (w : Word) : ∀ t ∈ ["$" ++ Text.Hex.padded 4 w.toNat], ',' ∉ t.toList := by
      intro t ht
      rw [List.mem_singleton.mp ht, String.toList_append]
      exact fun h => (List.mem_append.mp h).elim (by decide) (Operand.comma_not_mem_padded _ _)
    cases ha : find? a with
    | none =>
      cases hb : find? b with
      | none =>
        left
        rw [disassemble_of_none ha, disassemble_of_none hb] at h
        have htext := (line_inj hblank hblank (hcomma a) (hcomma b) h).2
        have hpadded := (String.append_right_inj _).mp (List.cons.inj htext).1
        exact UInt16.toNat_inj.mp (Text.Hex.padded_injective hpadded)
      | some q =>
        have hq := (mem_of_find? hb).1
        rw [disassemble_of_none ha, disassemble_of_some hb] at h
        have hdata := (line_inj hblank (blank_not_mem_mnemonic q hq) (hcomma a)
          (comma_not_mem_texts b q) h).1
        exact absurd hdata.symm (mnemonic_ne_data q hq)
    | some p =>
      obtain ⟨hp, hpa⟩ := mem_of_find? ha
      cases hb : find? b with
      | none =>
        rw [disassemble_of_some ha, disassemble_of_none hb] at h
        have hdata := (line_inj (blank_not_mem_mnemonic p hp) hblank (comma_not_mem_texts a p)
          (hcomma b) h).1
        exact absurd hdata (mnemonic_ne_data p hp)
      | some q =>
        right
        obtain ⟨rfl, harguments⟩ := arguments_of_text ha hb h
        obtain ⟨i, hi, himnemonic, hiarguments⟩ := Instruction.decode_of_matches p hp hpa
        obtain ⟨j, hj, hjmnemonic, hjarguments⟩ :=
          Instruction.decode_of_matches p hp (mem_of_find? hb).2
        obtain rfl : i = j := Instruction.eq_of_assembly (himnemonic.trans hjmnemonic.symm)
          (by rw [hiarguments, hjarguments, harguments])
        exact ⟨i, hi, hj⟩
  · rintro (rfl | ⟨i, ha, hb⟩)
    · rfl
    · rw [disassemble_of_decode ha, disassemble_of_decode hb]

/-- No instruction has the text of a word that is none. -/
theorem isIllegal_of_text (h : disassemble a = disassemble b) : isIllegal a = isIllegal b := by
  have hlegal {w : Word} {i : Instruction} (hw : Instruction.decode w = some i) :
      isIllegal w = false := by
    obtain ⟨p, hfind⟩ := exists_find?_of_decode hw
    rw [isIllegal, hfind]
    rfl
  rcases (disassemble_eq_iff a b).mp h with rfl | ⟨i, ha, hb⟩
  · rfl
  · rw [hlegal ha, hlegal hb]

end Pattern

/-! ## Words of one instruction -/

namespace Word

variable {a b : Word} {family : Nat}

theorem AddressForm.unique {t : Address} (ha : a.AddressForm family t)
    (hb : b.AddressForm family t) : a = b := by
  have haddress := congrArg Fin.val (ha.2.symm.trans hb.2)
  have hfamily := ha.1.trans hb.1.symm
  have := a.toNat_lt
  have := b.toNat_lt
  simp only [Word.address, Word.family] at haddress hfamily
  exact UInt16.toNat_inj.mp (by omega)

theorem eq_of_byte (hfamily : a.family.val = b.family.val) (hx : a.x = b.x)
    (hbyte : a.byte.toNat = b.byte.toNat) : a = b := by
  have hx := congrArg Fin.val hx
  rw [byte_toNat, byte_toNat] at hbyte
  refine UInt16.toNat_inj.mp ?_
  rw [Word.toNat_eq a, Word.toNat_eq b]
  omega

theorem ByteForm.unique {x : Index} {k : Byte} (ha : a.ByteForm family x k)
    (hb : b.ByteForm family x k) : a = b :=
  eq_of_byte (ha.1.trans hb.1.symm) (ha.2.1.symm.trans hb.2.1)
    (congrArg UInt8.toNat (ha.2.2.symm.trans hb.2.2))

theorem SingleForm.unique {byte : Nat} {x : Index} (ha : a.SingleForm family byte x)
    (hb : b.SingleForm family byte x) : a = b :=
  eq_of_byte (ha.1.trans hb.1.symm) (ha.2.2.symm.trans hb.2.2) (ha.2.1.trans hb.2.1.symm)

theorem eq_of_nibbles (hfamily : a.family.val = b.family.val) (hx : a.x = b.x) (hy : a.y = b.y)
    (hnibble : a.nibble.val = b.nibble.val) : a = b := by
  refine UInt16.toNat_inj.mp ?_
  rw [Word.toNat_eq a, Word.toNat_eq b, hfamily, hx, hy, hnibble]

theorem PairForm.unique {nibble : Nat} {x y : Index} (ha : a.PairForm family nibble x y)
    (hb : b.PairForm family nibble x y) : a = b :=
  eq_of_nibbles (ha.1.trans hb.1.symm) (ha.2.2.1.symm.trans hb.2.2.1)
    (ha.2.2.2.symm.trans hb.2.2.2) (ha.2.1.trans hb.2.1.symm)

/-- Two words for the same shift of a register. -/
def SameShift (a b : Word) : Prop :=
  ∃ x, (a.ShiftForm 0x8 0x6 x ∧ b.ShiftForm 0x8 0x6 x) ∨
    (a.ShiftForm 0x8 0xE x ∧ b.ShiftForm 0x8 0xE x)

/-- Every instruction but a shift has a single word. -/
theorem eq_or_sameShift_of_coded {i : Instruction} (ha : i.Coded a) (hb : i.Coded b) :
    a = b ∨ a.SameShift b := by
  cases i with
  | clear | ret => exact Or.inl (ha.trans hb.symm)
  | jump | call | setIndex | jumpOffset => exact Or.inl (AddressForm.unique ha hb)
  | skipEqByte | skipNeByte | setByte | addByte | random => exact Or.inl (ByteForm.unique ha hb)
  | skipEq | skipNe | copy | or | and | xor | add | sub | subFrom =>
    exact Or.inl (PairForm.unique ha hb)
  | shiftRight x => exact Or.inr ⟨x, Or.inl ⟨ha, hb⟩⟩
  | shiftLeft x => exact Or.inr ⟨x, Or.inr ⟨ha, hb⟩⟩
  | draw x y rows =>
    exact Or.inl (eq_of_nibbles (ha.1.trans hb.1.symm) (ha.2.1.symm.trans hb.2.1)
      (ha.2.2.1.symm.trans hb.2.2.1) (congrArg Fin.val (ha.2.2.2.symm.trans hb.2.2.2)))
  | skipPressed | skipReleased | getDelay | awaitKey | setDelay | setSound | addIndex | glyph
  | digits | store | load => exact Or.inl (SingleForm.unique ha hb)

theorem decode_of_sameShift (h : a.SameShift b) :
    ∃ i, Instruction.decode a = some i ∧ Instruction.decode b = some i := by
  obtain ⟨x, ⟨ha, hb⟩ | ⟨ha, hb⟩⟩ := h
  · exact ⟨.shiftRight x, Instruction.decode_of_coded ha, Instruction.decode_of_coded hb⟩
  · exact ⟨.shiftLeft x, Instruction.decode_of_coded ha, Instruction.decode_of_coded hb⟩

/-- **Two different words have the same text exactly if both are the same
shift of the same register.** -/
theorem disassemble_eq_iff (a b : Word) :
    Pattern.disassemble a = Pattern.disassemble b ↔ a = b ∨ a.SameShift b := by
  rw [Pattern.disassemble_eq_iff]
  constructor
  · rintro (rfl | ⟨i, ha, hb⟩)
    · exact Or.inl rfl
    · exact eq_or_sameShift_of_coded (Instruction.coded_of_decode ha)
        (Instruction.coded_of_decode hb)
  · rintro (rfl | h)
    · exact Or.inl rfl
    · exact Or.inr (decode_of_sameShift h)

end Word

end Chip8
