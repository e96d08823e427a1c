import LineAssembler.Proofs.Decoding
import LineAssembler.Proofs.LineGrammar

/-!
# The words that lines assemble to

A word has a source line exactly when its opcode is one of the twenty-seven in use
and the reserved bits of the layout of that opcode are zero. Such a word is read
back as an instruction, and the canonical line of that instruction assembles to the
word.

Two round trips are combined. A canonical line denotes the instruction that it was
written for: its numerals are read back, its operands stand in the order of the
form, and nothing in it starts a comment or ends a label. The slices of a legal word
are the patterns of the values that they were read as, so that packing these values
restores the word.
-/

namespace LineAssembler

namespace Text

/-- A mark that occurs neither in a separator nor in any piece does not occur in
the joined text. The induction is on the pieces; a last piece is joined without
a separator. -/
theorem not_mem_intercalate (mark : Char) (separator : Text) (notSeparator : mark ∉ separator)
    (pieces : List Text) (notPieces : ∀ piece ∈ pieces, mark ∉ piece) :
    mark ∉ separator.intercalate pieces := by
  induction pieces with
  | nil => simp
  | cons first rest inductionHypothesis =>
    have notFirst : mark ∉ first := notPieces first List.mem_cons_self
    have notRest := inductionHypothesis fun piece member =>
      notPieces piece (List.mem_cons_of_mem first member)
    cases rest with
    | nil => simpa using notFirst
    | cons second rest =>
      rw [List.intercalate_cons_cons]
      simp [notFirst, notSeparator, notRest]

/-- A blank behind every comma is a blank in front of every piece but the first.
So the canonical list of operands is one that is joined by commas alone, as the
grammar has it. -/
theorem intercalate_comma_blank (first : Text) (rest : List Text) :
    ", ".toList.intercalate (first :: rest) =
      [','].intercalate (first :: rest.map (' ' :: ·)) := by
  induction rest generalizing first with
  | nil => rfl
  | cons second rest inductionHypothesis =>
    rw [List.intercalate_cons_cons, inductionHypothesis, List.map_cons,
      List.intercalate_cons_cons, List.intercalate_cons_cons_left]
    simp

end Text

namespace Disassembly

/-- A register is written as one of its names. Its index has at most two digits,
far from the limit, and is read back from them. -/
theorem named_renderRegister (register : Register) :
    Register.Named (renderRegister register) register := by
  have small : register.val < Nat.pow 10 2 := Nat.lt_trans register.isLt (by decide)
  have readable := Numeral.readable_ofNat register.val 2 (by decide) (by decide) small
  exact .intro 'R' _ register (Or.inl rfl) readable (Numeral.value_ofNat register.val)

/-- An immediate in range is written as a literal of its value. -/
theorem literal_ofInt (value : Int) (range : Immediate.InRange value) :
    Immediate.Literal (Numeral.ofInt value) value :=
  Immediate.literal_numeral value range.length_ofNat_le

/-- An operand is written so that it means what it was written for. An address
is always written in full, with its offset and its base, so only one of the
forms of the grammar comes up. -/
theorem means_renderOperand (operands : Operands) (range : Immediate.InRange operands.imm)
    (role : Role) : operands.Means role (renderOperand operands role) := by
  cases role with
  | ra | rb | rc => exact named_renderRegister _
  | imm => exact literal_ofInt operands.imm range
  | addr =>
    have base : Text.Padded (Register.Named · operands.rb) (renderRegister operands.rb) :=
      ⟨[], _, [], Text.allBlank_nil, Text.allBlank_nil, named_renderRegister _, by simp⟩
    have written := Address.Written.full _ [] _ _ _ (literal_ofInt operands.imm range)
      Text.allBlank_nil base
    rwa [List.append_nil] at written

/-- Nothing in a written operand starts a comment, ends a label or is deleted.
Names and literals are words, which hold no mark, and an address adds only
parentheses to them. -/
theorem not_mem_renderOperand (operands : Operands) (range : Immediate.InRange operands.imm)
    (role : Role) (mark : Char) (marks : mark ∈ [';', ':', '\r']) :
    mark ∉ renderOperand operands role := by
  have notRegister : ∀ register, mark ∉ renderRegister register := fun register =>
    (named_renderRegister register).isWord.not_mem_cut mark marks
  have notLiteral : mark ∉ Numeral.ofInt operands.imm :=
    (literal_ofInt operands.imm range).isWord.not_mem_cut mark marks
  cases role with
  | ra | rb | rc => exact notRegister _
  | imm => exact notLiteral
  | addr =>
    have notOpening : mark ≠ '(' := by rintro rfl; simp at marks
    have notClosing : mark ≠ ')' := by rintro rfl; simp at marks
    simp [renderOperand, notLiteral, notRegister, notOpening, notClosing]

/-- Written operands, joined by a comma and a blank, are an operand list. Every
piece is an operand with the blank in front of it, or with nothing in front if
it is the first. -/
theorem operandList_render (operands : Operands) (range : Immediate.InRange operands.imm)
    (form : List Role) (accompanied : form ≠ []) :
    SourceLine.OperandList operands form
      (", ".toList.intercalate (form.map (renderOperand operands))) := by
  obtain ⟨first, rest, rfl⟩ := List.exists_cons_of_ne_nil accompanied
  refine ⟨renderOperand operands first :: (rest.map (renderOperand operands)).map (' ' :: ·),
    ?_, ?_⟩
  · have padded : ∀ blanks, Text.AllBlank blanks → ∀ role,
        Text.Padded (operands.Means role) (blanks ++ renderOperand operands role) := by
      intro blanks blank role
      exact ⟨blanks, _, [], blank, Text.allBlank_nil, means_renderOperand operands range role,
        by simp⟩
    refine .cons (padded [] Text.allBlank_nil first) ?_
    rw [List.map_map, List.forall₂_map_right_iff, List.forall₂_same]
    intro role _
    exact padded [' '] Text.allBlank_blank role
  · exact Text.intercalate_comma_blank _ _

/-- The canonical line of an instruction is a statement of it. The line is the
mnemonic alone if the form has no roles, and otherwise a blank and the operands
follow. -/
theorem statement_render (disassembly : Disassembly)
    (member : disassembly.entry ∈ InstructionSet.table)
    (range : Immediate.InRange disassembly.operands.imm) :
    SourceLine.Statement disassembly.entry disassembly.operands disassembly.render := by
  have variant : disassembly.entry.mnemonic.map Char.toLower = disassembly.entry.mnemonic :=
    InstructionSet.table_lower disassembly.entry member
  by_cases alone : disassembly.entry.spec.form = []
  · have bare : disassembly.render = disassembly.entry.mnemonic := by
      simp [render, renderOperands, alone]
    rw [bare]
    exact .bare _ variant alone
  · have listed := operandList_render disassembly.operands range _ alone
    have operated : disassembly.render = disassembly.entry.mnemonic ++ [' '] ++
        ", ".toList.intercalate (disassembly.entry.spec.form.map
          (renderOperand disassembly.operands)) := by
      simp [render, renderOperands, alone]
    rw [operated]
    exact .operated _ [' '] _ variant alone Text.allBlank_blank (List.cons_ne_nil _ _) listed

/-- Nothing is cut off a canonical line. No mark of a comment, a label or a line
end stands in the mnemonic, between the operands or inside of one. -/
theorem core_render (disassembly : Disassembly)
    (member : disassembly.entry ∈ InstructionSet.table)
    (range : Immediate.InRange disassembly.operands.imm) :
    SourceLine.core disassembly.render = disassembly.render := by
  apply SourceLine.core_of_not_mem
  intro mark marks
  have variant := InstructionSet.table_lower disassembly.entry member
  have notMnemonic : mark ∉ disassembly.entry.mnemonic :=
    (SourceLine.isWord_of_variant disassembly.entry member _ variant).not_mem_cut mark marks
  have apart : ∀ mark ∈ [';', ':', '\r'], mark ∉ [',', ' '] := by simp
  have notSeparator := apart mark marks
  have notOperands : mark ∉ [',', ' '].intercalate disassembly.renderOperands := by
    apply Text.not_mem_intercalate mark _ notSeparator
    intro piece found
    obtain ⟨role, _, rfl⟩ := List.mem_map.mp found
    exact not_mem_renderOperand disassembly.operands range role mark marks
  have notBlank : mark ≠ ' ' := fun same => notSeparator (by simp [same])
  simp only [render]
  split
  case isTrue => exact notMnemonic
  case isFalse => simp [notMnemonic, notBlank, notOperands]

/-- The canonical line of an instruction denotes it, if its immediate is in
range and the slots that its form leaves out are zero. Both conditions are about
what was read from a word. -/
theorem denotes_render (disassembly : Disassembly)
    (member : disassembly.entry ∈ InstructionSet.table)
    (outside : disassembly.operands.ZeroOutside disassembly.entry.spec.form)
    (range : Immediate.InRange disassembly.operands.imm) :
    SourceLine.Denotes (SourceLine.core disassembly.render) disassembly.entry
      disassembly.operands := by
  rw [core_render disassembly member range]
  have statement := statement_render disassembly member range
  exact ⟨member, ⟨[], _, [], Text.allBlank_nil, Text.allBlank_nil, statement, by simp⟩, outside,
    range⟩

end Disassembly

/-! ## Packing what was read -/

namespace Layout

/-- Slices are patterns of the widths of their spans, as each is a remainder. -/
theorem slices_lt (word : Nat) (spans : List Span) :
    List.Forall₂ (fun span slice => slice.2 < Bits.modulus span.width) spans
      (slices word spans) := by
  induction spans with
  | nil => exact .nil
  | cons span rest inductionHypothesis =>
    exact .cons (Nat.mod_lt _ (Bits.modulus_pos span.width)) inductionHypothesis

/-- The bits of a slot are a pattern of the width of its span. The bound of the
slices is carried over, because the slot of a span determines its slice. -/
theorem bitsOf_lt (layout : Layout) (word : Nat) (span : Span) (member : span ∈ layout.spans) :
    layout.bitsOf word span.slot < Bits.modulus span.width := by
  have bounds := slices_lt word layout.spans
  rw [slices_eq_map_bitsOf, List.forall₂_map_right_iff, List.forall₂_same] at bounds
  exact bounds span member

/-- The immediate read from a word is in range: extending the sign of a pattern
gives a value that the width of the pattern fits. -/
theorem inRange_operandsOf (layout : Layout) (word : Nat) :
    Immediate.InRange (layout.operandsOf word).imm := by
  rw [Immediate.inRange_iff]
  exact Bits.fitsSigned_signExtend Span.imm.width Span.imm.width_pos _

/-- Slots that a layout lacks are read as zero. Their bits are zero, as a
register index and under sign extension alike. -/
theorem get_operandsOf_of_not_mem (layout : Layout) (word : Nat) (slot : Slot)
    (absent : slot ∉ layout.spans.map Span.slot) : (layout.operandsOf word).get slot = 0 := by
  have bits := bitsOf_of_not_mem layout word slot absent
  cases slot with
  | ra | rb | rc => simp [Operands.get, operandsOf, registerOf, bits]
  | imm =>
    change Bits.signExtend Span.imm.width (layout.bitsOf word .imm) = 0
    rw [bits]
    decide
  | opcode | cond | reserved => rfl

end Layout

namespace InstructionSet

/-- Slots that the form of an instruction leaves out are read as zero. By the
table, the layout has a span for an operand slot exactly if the form fills it;
the other slots hold no operand at all. -/
theorem zeroOutside_operandsOf (entry : Entry) (member : entry ∈ table) (word : Nat) :
    (entry.spec.layout.operandsOf word).ZeroOutside entry.spec.form := by
  intro slot unfilled
  by_cases operand : slot ∈ [Slot.ra, .rb, .rc, .imm]
  · apply Layout.get_operandsOf_of_not_mem
    rw [← table_filled entry member slot operand]
    exact unfilled
  · cases slot with
    | ra | rb | rc | imm => simp at operand
    | opcode | cond | reserved => rfl

/-- A slot other than the immediate is read as its bits. The opcode and the
condition are those of the instruction because the word selects it, the bits of
a register are below sixteen, and reserved bits are zero by the check that the
word has passed. -/
theorem slotValue_operandsOf (entry : Entry) (word : Nat)
    (small : word < Bits.modulus Word.width) (selected : entry.selects word = true)
    (zero : entry.spec.layout.reservesZero word = true) (span : Span)
    (member : span ∈ entry.spec.layout.spans) (other : span.slot ≠ .imm) :
    (entry.spec.layout.operandsOf word).slotValue entry.spec span.slot =
      entry.spec.layout.bitsOf word span.slot := by
  obtain ⟨opcode, condition⟩ := (Entry.selects_iff entry word).mp selected
  have bound := Layout.bitsOf_lt entry.spec.layout word span member
  have register : span.slot ∈ [Slot.ra, .rb, .rc] →
      entry.spec.layout.bitsOf word span.slot % 16 = entry.spec.layout.bitsOf word span.slot := by
    intro named
    rw [Layout.width_register entry.spec.layout span.slot named span member rfl] at bound
    exact Nat.mod_eq_of_lt bound
  cases slot : span.slot with
  | opcode =>
    rw [Layout.bitsOf_opcode entry.spec.layout word small, ← opcode]
    rfl
  | ra | rb | rc =>
    rw [slot] at register
    exact congrArg Int.ofNat (register (by decide))
  | cond =>
    have branch : entry.spec.layout = .branch := by
      apply Layout.eq_branch_of_mem
      rw [← slot]
      exact List.mem_map_of_mem member
    obtain ⟨cond, given⟩ := Option.isSome_iff_exists.mp
      (entry.spec.isSome_cond.trans (by rw [branch]; rfl))
    rw [← condition cond given]
    simp only [Operands.slotValue, given]
  | imm => exact absurd slot other
  | reserved =>
    rw [Layout.reservesZero_iff, Layout.slices_eq_map_bitsOf] at zero
    have empty := zero _ (List.mem_map_of_mem member) slot
    simp only [slot] at empty
    rw [empty]
    rfl

/-- Packing the operands that were read from a legal word restores the word. The
slices of the word are compared span by span with the patterns that are packed:
an immediate was sign-extended from its slice and is cut back to it, and every
other slot is read as its bits. Slices that agree concatenate to the same word. -/
theorem concatenate_operandsOf (entry : Entry) (word : Nat)
    (small : word < Bits.modulus Word.width) (selected : entry.selects word = true)
    (zero : entry.spec.layout.reservesZero word = true) :
    Field.concatenate ((entry.spec.layout.operandsOf word).fieldsIn entry.spec) = word := by
  have same : Layout.slices word entry.spec.layout.spans =
      entry.spec.layout.spans.map fun span => (span.slot, Bits.residue span.width
        ((entry.spec.layout.operandsOf word).slotValue entry.spec span.slot)) := by
    rw [Layout.slices_eq_map_bitsOf, List.map_inj_left]
    intro span member
    have bound := Layout.bitsOf_lt entry.spec.layout word span member
    have own := Bits.residue_of_lt span.width _ bound
    by_cases immediate : span.slot = .imm
    · have extended : (entry.spec.layout.operandsOf word).slotValue entry.spec span.slot =
          Bits.signExtend span.width (entry.spec.layout.bitsOf word span.slot) := by
        rw [Layout.width_imm entry.spec.layout span member immediate, immediate]
        rfl
      rw [extended, Bits.residue_signExtend, own]
    · rw [slotValue_operandsOf entry word small selected zero span member immediate, own]
  have packed := Layout.concatenate_of_slices _ _ word same
  rw [Layout.totalWidth_spans, Nat.mod_eq_of_lt small] at packed
  exact packed

/-- The words of instructions: the opcode is in use, and the reserved bits of
its layout are zero. -/
structure Legal (word : Nat) : Prop where
  opcode : opcodeOf word ≤ 26
  reserved : ∀ entry ∈ table, entry.spec.opcode.val = opcodeOf word →
    ∀ slice ∈ Layout.slices word entry.spec.layout.spans, slice.1 = .reserved → slice.2 = 0

/-- The opcodes in use are those up to twenty-six. -/
theorem table_opcode_le : ∀ entry ∈ table, entry.spec.opcode.val ≤ 26 := by
  decide

/-- Instructions that share an opcode share their layout. So the reserved bits
of a word can be checked with any instruction of its opcode. -/
theorem table_layout : ∀ entry ∈ table, ∀ other ∈ table,
    entry.spec.opcode = other.spec.opcode → entry.spec.layout = other.spec.layout := by
  decide +kernel

/-- Every opcode in use has an instruction for every condition. For the branches
these are four instructions of one opcode, and for all others one that has no
condition. -/
theorem table_complete : ∀ opcode < 27, ∀ bits < 4, ∃ entry ∈ table,
    entry.spec.opcode.val = opcode ∧ ∀ cond ∈ entry.spec.cond, cond.val = bits := by
  decide +kernel

/-- A word whose opcode is in use selects an instruction. The table has one for
the opcode and the two bits of the condition; if it has a condition it is a
branch, and then these bits are read where its layout puts them. -/
theorem exists_selects (word : Nat) (used : opcodeOf word ≤ 26) :
    ∃ entry ∈ table, entry.selects word = true := by
  have bound : Layout.branch.bitsOf word .cond < 4 :=
    Layout.bitsOf_lt .branch word Span.cond (by simp [Layout.spans])
  obtain ⟨entry, member, opcode, condition⟩ :=
    table_complete (opcodeOf word) (Nat.lt_succ_of_le used) _ bound
  refine ⟨entry, member, (Entry.selects_iff entry word).mpr ⟨opcode, ?_⟩⟩
  intro cond given
  have branch : entry.spec.layout = .branch := entry.spec.eq_branch_of_mem cond given
  rw [branch]
  exact condition cond given

/-- The word of an instruction of the set is legal. Its opcode is that of the
instruction, and the reserved bits are checked with the layout of the
instruction, which is that of the opcode. -/
theorem legal_fieldsIn (entry : Entry) (member : entry ∈ table) (operands : Operands) :
    Legal (Field.concatenate (operands.fieldsIn entry.spec)) where
  opcode := by
    rw [operands.opcodeOf_fieldsIn entry.spec]
    exact table_opcode_le entry member
  reserved := by
    intro other otherMember sameOpcode
    rw [operands.opcodeOf_fieldsIn entry.spec] at sameOpcode
    rw [table_layout other otherMember entry member (Fin.ext sameOpcode)]
    exact (Layout.reservesZero_iff _ _).mp (operands.reservesZero_fieldsIn entry.spec)

/-- A legal word is read back as an instruction of the set, which packs to the
word. The word selects an instruction by its opcode, and with reserved bits that
are zero nothing keeps it from being read back. -/
theorem exists_ofWord? (word : Nat) (small : word < Bits.modulus Word.width)
    (legal : Legal word) :
    ∃ disassembly, Disassembly.ofWord? word = some disassembly ∧
      disassembly.entry ∈ table ∧
      disassembly.operands.ZeroOutside disassembly.entry.spec.form ∧
      Immediate.InRange disassembly.operands.imm ∧
      Field.concatenate (disassembly.operands.fieldsIn disassembly.entry.spec) = word := by
  obtain ⟨entry, member, selected⟩ := exists_selects word legal.opcode
  have opcode := ((Entry.selects_iff entry word).mp selected).1
  have zero : entry.spec.layout.reservesZero word = true :=
    (Layout.reservesZero_iff _ _).mpr (legal.reserved entry member opcode)
  refine ⟨⟨entry, entry.spec.layout.operandsOf word⟩, ?_, member,
    zeroOutside_operandsOf entry member word, Layout.inRange_operandsOf _ word,
    concatenate_operandsOf entry word small selected zero⟩
  rw [Disassembly.ofWord?_eq_some_iff]
  exact ⟨member, selected, zero, rfl⟩

end InstructionSet

/-- A word has a source line exactly when it is legal, and then the canonical
line of the instruction that the word is read back as is such a line. A legal
word is read back, written and assembled; conversely an assembled word is that
of an instruction of the set, which is legal. -/
theorem exists_line_iff_legal (line : Option Int) (word : Nat) (small : word < 2 ^ 32) :
    ((∃ raw encoded, (Instruction.ofLine line raw).encode = .ok encoded ∧ encoded.word = word) ↔
        InstructionSet.Legal word) ∧
      (InstructionSet.Legal word →
        ∃ disassembly encoded, Disassembly.ofWord? word = some disassembly ∧
          (Instruction.ofLine line disassembly.render).encode = .ok encoded ∧
          encoded.word = word) := by
  have canonical : InstructionSet.Legal word →
      ∃ disassembly encoded, Disassembly.ofWord? word = some disassembly ∧
        (Instruction.ofLine line disassembly.render).encode = .ok encoded ∧
        encoded.word = word := by
    intro legal
    obtain ⟨disassembly, readBack, member, outside, range, packed⟩ :=
      InstructionSet.exists_ofWord? word small legal
    have denotes := disassembly.denotes_render member outside range
    obtain ⟨named, assigned⟩ :=
      (SourceLine.assigned_ofLine_iff line disassembly.render _ member _).mpr denotes
    refine ⟨disassembly, _, readBack, (Instruction.encode_eq_ok_iff _ _).mpr
      ⟨disassembly.entry, member, disassembly.operands, named, assigned, rfl⟩, ?_⟩
    exact congrArg Int.ofNat packed
  refine ⟨⟨?_, ?_⟩, canonical⟩
  · rintro ⟨raw, encoded, success, sameWord⟩
    obtain ⟨entry, member, operands, _, _, rfl⟩ :=
      (Instruction.encode_eq_ok_iff _ _).mp success
    have packed : Field.concatenate (operands.fieldsIn entry.spec) = word := Int.ofNat.inj sameWord
    rw [← packed]
    exact InstructionSet.legal_fieldsIn entry member operands
  · intro legal
    obtain ⟨disassembly, encoded, _, success, sameWord⟩ := canonical legal
    exact ⟨disassembly.render, encoded, success, sameWord⟩

/-- The word of a branch on minus with the immediate minus one has a canonical
line; a word with an opcode that is not in use has no line. -/
theorem exists_line_iff_legal_branch :
    (∃ disassembly encoded, Disassembly.ofWord? 0x92E7FFFF = some disassembly ∧
      (Instruction.ofLine none disassembly.render).encode = .ok encoded ∧
      encoded.word = 0x92E7FFFF) ∧
    ¬∃ raw encoded, (Instruction.ofLine none raw).encode = .ok encoded ∧
      encoded.word = 0xFFFFFFFF := by
  constructor
  · exact (exists_line_iff_legal none 0x92E7FFFF (by decide)).2 ⟨by decide, by decide⟩
  · intro found
    have legal := (exists_line_iff_legal none 0xFFFFFFFF (by decide)).1.mp found
    exact absurd legal.opcode (by decide)

end LineAssembler
