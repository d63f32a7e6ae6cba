/-
Chip8.Proofs.Instruction.Assembly — instructions by name.

An instruction is written as a mnemonic with arguments (`mnemonic`,
`arguments`). A pattern has a mnemonic with operands, which leave the
values open, so a pattern names instructions (`Named`) and stands, with the
values taken from a word, for a single one (`Written`).

* `operations`, `decode_of_mem_zip` — the operation of each pattern of the
  table; a word that the pattern fits is decoded to that operation, with the
  values that the pattern's operands take from the word (`decode_of_matches`).
* `existsUnique_named`, `exists_named`, `eq_of_assembly` — the patterns of
  the table and the operations of the machine are named one to one.
-/
import Chip8.Proofs.Instruction.Table

namespace Chip8

/-- An operand with its value. -/
inductive Argument where
  | vx (x : Index)
  | vy (y : Index)
  | byte (k : Byte)
  | nibble (n : Fin 16)
  | address (a : Address)
  /-- An operand that takes nothing from the word. -/
  | fixed (o : Operand)
deriving DecidableEq

/-- The operand without its value. -/
def Argument.operand : Argument → Operand
  | .vx _ => .vx
  | .vy _ => .vy
  | .byte _ => .byte
  | .nibble _ => .nibble
  | .address _ => .address
  | .fixed o => o

/-- The value that an operand takes from a word. -/
def Operand.argument (w : Word) : Operand → Argument
  | .vx => .vx w.x
  | .vy => .vy w.y
  | .byte => .byte w.byte
  | .nibble => .nibble w.nibble
  | .address => .address w.address
  | fixed => .fixed fixed

theorem Operand.operand_argument (w : Word) (o : Operand) : (o.argument w).operand = o := by
  cases o <;> rfl

namespace Instruction

/-- The mnemonic an instruction goes by. -/
def mnemonic : Instruction → String
  | .clear => "CLS"
  | .ret => "RET"
  | .jump _ | .jumpOffset _ => "JP"
  | .call _ => "CALL"
  | .skipEqByte .. | .skipEq .. => "SE"
  | .skipNeByte .. | .skipNe .. => "SNE"
  | .setByte .. | .copy .. | .setIndex _ | .getDelay _ | .awaitKey _ | .setDelay _ | .setSound _
  | .glyph _ | .digits _ | .store _ | .load _ => "LD"
  | .addByte .. | .add .. | .addIndex _ => "ADD"
  | .or .. => "OR"
  | .and .. => "AND"
  | .xor .. => "XOR"
  | .sub .. => "SUB"
  | .shiftRight _ => "SHR"
  | .subFrom .. => "SUBN"
  | .shiftLeft _ => "SHL"
  | .random .. => "RND"
  | .draw .. => "DRW"
  | .skipPressed _ => "SKP"
  | .skipReleased _ => "SKNP"

/-- The arguments an instruction is written with, the destination first. -/
def arguments : Instruction → List Argument
  | .clear | .ret => []
  | .jump a | .call a => [.address a]
  | .skipEqByte x k | .skipNeByte x k | .setByte x k | .addByte x k | .random x k =>
      [.vx x, .byte k]
  | .skipEq x y | .skipNe x y | .copy x y | .or x y | .and x y | .xor x y | .add x y | .sub x y
  | .subFrom x y => [.vx x, .vy y]
  | .shiftRight x | .shiftLeft x | .skipPressed x | .skipReleased x => [.vx x]
  | .setIndex a => [.fixed .index, .address a]
  | .jumpOffset a => [.fixed .v0, .address a]
  | .draw x y rows => [.vx x, .vy y, .nibble rows]
  | .getDelay x => [.vx x, .fixed .delay]
  | .awaitKey x => [.vx x, .fixed .key]
  | .setDelay x => [.fixed .delay, .vx x]
  | .setSound x => [.fixed .sound, .vx x]
  | .addIndex x => [.fixed .index, .vx x]
  | .glyph x => [.fixed .glyph, .vx x]
  | .digits x => [.fixed .decimal, .vx x]
  | .store x => [.fixed .atIndex, .vx x]
  | .load x => [.vx x, .fixed .atIndex]

/-- Whether a pattern has the name of an instruction. -/
def Named (i : Instruction) (p : Pattern) : Prop :=
  i.mnemonic = p.mnemonic ∧ i.arguments.map Argument.operand = p.operands

/-- Whether an instruction is what a pattern stands for in a word. -/
def Written (w : Word) (i : Instruction) (p : Pattern) : Prop :=
  i.mnemonic = p.mnemonic ∧ i.arguments = p.operands.map (Operand.argument w)

theorem Written.named {w : Word} {i : Instruction} {p : Pattern} (h : i.Written w p) :
    i.Named p := by
  refine ⟨h.1, ?_⟩
  rw [h.2, List.map_map]
  exact List.map_id'' (Operand.operand_argument w) p.operands

/-! ## The table names what is decoded -/

/-- The operations of the patterns of the table, in its order, each with the
values that it takes from a word. -/
def operations : List (Word → Instruction) :=
  [ fun _ => .clear,
    fun _ => .ret,
    fun w => .jump w.address,
    fun w => .call w.address,
    fun w => .skipEqByte w.x w.byte,
    fun w => .skipNeByte w.x w.byte,
    fun w => .skipEq w.x w.y,
    fun w => .setByte w.x w.byte,
    fun w => .addByte w.x w.byte,
    fun w => .copy w.x w.y,
    fun w => .or w.x w.y,
    fun w => .and w.x w.y,
    fun w => .xor w.x w.y,
    fun w => .add w.x w.y,
    fun w => .sub w.x w.y,
    fun w => .shiftRight w.x,
    fun w => .subFrom w.x w.y,
    fun w => .shiftLeft w.x,
    fun w => .skipNe w.x w.y,
    fun w => .setIndex w.address,
    fun w => .jumpOffset w.address,
    fun w => .random w.x w.byte,
    fun w => .draw w.x w.y w.nibble,
    fun w => .skipPressed w.x,
    fun w => .skipReleased w.x,
    fun w => .getDelay w.x,
    fun w => .awaitKey w.x,
    fun w => .setDelay w.x,
    fun w => .setSound w.x,
    fun w => .addIndex w.x,
    fun w => .glyph w.x,
    fun w => .digits w.x,
    fun w => .store w.x,
    fun w => .load w.x ]

/-- A word that a pattern of the table fits is decoded to the operation of the
pattern, which is written as the pattern has it. -/
theorem decode_of_mem_zip {w : Word} : ∀ entry ∈ Pattern.table.zip operations,
    entry.1.Matches w = true →
      decode w = some (entry.2 w) ∧ (entry.2 w).Written w entry.1 := by
  simp (disch := decide) only [Pattern.table, operations, List.zip_cons_cons, List.zip_nil_right,
    List.forall_mem_cons, Pattern.matches_word, Pattern.matches_family, Pattern.matches_nibble,
    Pattern.matches_byte, List.not_mem_nil, IsEmpty.forall_iff, implies_true, and_true]
  and_intros
  · rintro ⟨-, rfl⟩
    exact ⟨rfl, rfl, rfl⟩
  · rintro ⟨-, rfl⟩
    exact ⟨rfl, rfl, rfl⟩
  -- what any other pattern tests decides every branch of the decoder
  all_goals
    intro h
    simp at h
    refine ⟨?_, rfl, rfl⟩
    simp [decode, decodeArithmetic, decodeKeypad, decodeExtended, h]

/-- Every pattern of the table has an operation. -/
theorem exists_mem_zip {p : Pattern} (hp : p ∈ Pattern.table) :
    ∃ operation, (p, operation) ∈ Pattern.table.zip operations := by
  have hall : (Pattern.table.zip operations).map Prod.fst = Pattern.table :=
    List.map_fst_zip (by decide)
  rw [← hall] at hp
  obtain ⟨⟨q, operation⟩, hmem, rfl⟩ := List.mem_map.mp hp
  exact ⟨operation, hmem⟩

/-- A word that a pattern of the table fits is decoded to the instruction
that the pattern stands for. -/
theorem decode_of_matches {w : Word} :
    ∀ p ∈ Pattern.table, p.Matches w = true → ∃ i, decode w = some i ∧ i.Written w p := by
  intro p hp hfits
  obtain ⟨operation, hmem⟩ := exists_mem_zip hp
  exact ⟨_, decode_of_mem_zip _ hmem hfits⟩

/-! ## Names -/

/-- No two patterns of the table have the same name. -/
theorem table_names_nodup : (Pattern.table.map fun p => (p.mnemonic, p.operands)).Nodup := by
  decide

/-- Every instruction is named by exactly one pattern of the table. -/
theorem existsUnique_named (i : Instruction) : ∃! p, p ∈ Pattern.table ∧ i.Named p := by
  have hname : (i.mnemonic, i.arguments.map Argument.operand) ∈
      Pattern.table.map fun p => (p.mnemonic, p.operands) := by
    cases i <;> simp [Pattern.table, mnemonic, arguments, Argument.operand]
  obtain ⟨p, hp, hsame⟩ := List.mem_map.mp hname
  refine ⟨p, ⟨hp, (congrArg Prod.fst hsame).symm, (congrArg Prod.snd hsame).symm⟩, ?_⟩
  rintro q ⟨hq, hmnemonic, hoperands⟩
  refine List.inj_on_of_nodup_map table_names_nodup hq hp ?_
  rw [hsame, hmnemonic, hoperands]

/-- Every pattern of the table names an instruction. -/
theorem exists_named {p : Pattern} (hp : p ∈ Pattern.table) : ∃ i : Instruction, i.Named p := by
  have hfits : ∀ q ∈ Pattern.table, q.Matches q.value = true := by decide
  obtain ⟨i, -, hi⟩ := decode_of_matches p hp (hfits p hp)
  exact ⟨i, hi.named⟩

/-- An instruction is determined by the way it is written. -/
theorem eq_of_assembly {i j : Instruction} (hm : i.mnemonic = j.mnemonic)
    (ha : i.arguments = j.arguments) : i = j := by
  cases i <;> cases j <;> simp_all [mnemonic, arguments]

end Instruction

end Chip8
