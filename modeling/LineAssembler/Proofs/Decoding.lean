import LineAssembler.Proofs.InstructionEncoding

/-!
# Reading words back

A word that was packed from an instruction of the set is read back as that
instruction with the same operands. The opcode has one place in every layout, so
it selects a layout before anything else is known; instructions that share an
opcode share their layout and differ in the condition, which is read from that
layout. Every operand slot then yields its value: a register has fewer than sixteen
indices, an immediate in range is its own sign extension, and a slot that the
layout lacks is zero on both sides.

Encoding is therefore faithful: words are equal exactly when the mnemonics are
equal up to case and the resolved operands are equal.
-/

namespace LineAssembler

namespace Layout

/-- Slicing a word along a layout lists the bits of each slot. -/
theorem slices_eq_map_bitsOf (layout : Layout) (word : Nat) :
    slices word layout.spans =
      layout.spans.map fun span => (span.slot, layout.bitsOf word span.slot) := by
  cases layout <;> rfl

/-- A slot that a layout lacks has no bits. The layouts and slots are gone
through one by one. -/
theorem bitsOf_of_not_mem (layout : Layout) (word : Nat) (slot : Slot)
    (absent : slot ∉ layout.spans.map Span.slot) : layout.bitsOf word slot = 0 := by
  cases layout <;> cases slot <;> first | rfl | exact absurd (by decide) absent

/-- Packing fields leaves the pattern of each value in its slot. The slices of a
packed word are known as a list, from which the one of the slot is taken. -/
theorem bitsOf_concatenate (layout : Layout) (value : Slot → Int) (span : Span)
    (member : span ∈ layout.spans) :
    layout.bitsOf (Field.concatenate (layout.spans.map (Span.holding value))) span.slot =
      Bits.residue span.width (value span.slot) := by
  have same := slices_concatenate value layout.spans
  rw [slices_eq_map_bitsOf, List.map_inj_left] at same
  exact (Prod.mk.inj (same span member)).2

/-- The opcode comes first in every layout, with twenty-seven bits behind it. -/
theorem spans_eq_cons (layout : Layout) :
    ∃ rest, layout.spans = Span.opcode :: rest ∧ Span.totalWidth rest = 27 := by
  cases layout <;> exact ⟨_, rfl, rfl⟩

/-- The opcode of a word is in the same place in every layout. It is the first
span, so it is what is left above the other twenty-seven bits; a word has no
bits above it. -/
theorem bitsOf_opcode (layout : Layout) (word : Nat) (small : word < Bits.modulus Word.width) :
    layout.bitsOf word .opcode = InstructionSet.opcodeOf word := by
  obtain ⟨rest, spans, width⟩ := spans_eq_cons layout
  have bound : word >>> 27 < Bits.modulus Span.opcode.width := by
    rw [Nat.shiftRight_eq_div_pow]
    exact Nat.div_lt_of_lt_mul small
  have first := slices_eq_map_bitsOf layout word
  rw [spans, slices, List.map_cons, List.cons.injEq, Prod.mk.injEq, width,
    Nat.mod_eq_of_lt bound] at first
  exact first.1.2.symm

/-- Registers have the same width in every layout. -/
theorem width_register (layout : Layout) : ∀ slot ∈ [Slot.ra, .rb, .rc],
    ∀ span ∈ layout.spans, span.slot = slot → span.width = registerWidth := by
  cases layout <;> decide

/-- Only branches have a condition. -/
theorem eq_branch_of_mem (layout : Layout) (present : Slot.cond ∈ layout.spans.map Span.slot) :
    layout = .branch := by
  cases layout <;> first | rfl | exact absurd present (by decide)

/-- Reserved bits are zero exactly when every reserved slice is. The check goes
through all slices and asks nothing of the others. -/
theorem reservesZero_iff (layout : Layout) (word : Nat) :
    layout.reservesZero word = true ↔
      ∀ slice ∈ slices word layout.spans, slice.1 = .reserved → slice.2 = 0 := by
  simp only [reservesZero, List.all_eq_true, Bool.or_eq_true, bne_iff_ne, beq_iff_eq,
    ne_eq, imp_iff_not_or]

end Layout

/-- A specification with a condition is that of a branch. A specification
carries this as part of its well-formedness. -/
theorem Spec.eq_branch_of_mem (spec : Spec Role) (cond : Fin 4) (given : cond ∈ spec.cond) :
    spec.layout = .branch := by
  have present := spec.isSome_cond
  rw [Option.mem_def.mp given] at present
  simpa using present.symm

namespace InstructionSet

/-- Instructions that share an opcode share their layout and differ in their
condition. -/
theorem table_apart : table.Pairwise fun entry other =>
    entry.spec.opcode ≠ other.spec.opcode ∨
      entry.spec.layout = other.spec.layout ∧ entry.spec.cond ≠ other.spec.cond := by
  decide

/-- An instruction is selected by its opcode and, for a branch, by its
condition. Where there is no condition, nothing more is asked of the word. -/
theorem Entry.selects_iff (entry : Entry) (word : Nat) :
    entry.selects word = true ↔
      entry.spec.opcode.val = opcodeOf word ∧
        ∀ cond ∈ entry.spec.cond, cond.val = entry.spec.layout.bitsOf word .cond := by
  rw [Entry.selects, Bool.and_eq_true, beq_iff_eq]
  cases entry.spec.cond <;> simp

/-- Two specifications of one layout that fit the same bits have the same
condition. Whether there is a condition is told by the layout, and its value by
the bits. -/
theorem cond_eq_of_bits (left right : Spec Role) (bits : Nat)
    (sameLayout : left.layout = right.layout)
    (fitsLeft : ∀ cond ∈ left.cond, cond.val = bits)
    (fitsRight : ∀ cond ∈ right.cond, cond.val = bits) : left.cond = right.cond := by
  have present : left.cond.isSome = right.cond.isSome := by
    rw [left.isSome_cond, right.isSome_cond, sameLayout]
  cases first : left.cond with
  | none =>
    have absent : right.cond = none := by simpa [first] using present
    exact absent.symm
  | some cond =>
    obtain ⟨other, second⟩ := Option.isSome_iff_exists.mp (by simpa [first] using present.symm)
    rw [second, Option.some_inj]
    exact Fin.ext ((fitsLeft cond first).trans (fitsRight other second).symm)

/-- No word selects two instructions. Instructions with different opcodes are
told apart by the opcode, and those that share it have one layout and are told
apart by the condition that is read there. -/
theorem selects_exclusive (word : Nat) : table.Pairwise fun entry other =>
    entry.selects word = true → other.selects word = false := by
  refine table_apart.imp ?_
  intro entry other apart selected
  by_contra both
  obtain ⟨opcode, cond⟩ := (Entry.selects_iff entry word).mp selected
  obtain ⟨otherOpcode, otherCond⟩ :=
    (Entry.selects_iff other word).mp (Bool.not_eq_false _ ▸ both)
  rcases apart with different | ⟨sameLayout, different⟩
  · exact different (Fin.ext (opcode.trans otherOpcode.symm))
  · rw [← sameLayout] at otherCond
    exact different (cond_eq_of_bits entry.spec other.spec _ sameLayout cond otherCond)

/-- Instructions of the set with the same mnemonic are the same. A search by the
mnemonic finds each of the two, and it finds one. -/
theorem eq_of_mnemonic_eq (entry other : Entry) (member : entry ∈ table)
    (otherMember : other ∈ table) (same : entry.mnemonic = other.mnemonic) : entry = other := by
  have exclusive := mnemonic_exclusive entry.mnemonic
  have foundFirst := find?_of_exclusive _ table exclusive entry member (by simp)
  have foundSecond := find?_of_exclusive _ table exclusive other otherMember (by simp [same])
  exact Option.some.inj (foundFirst.symm.trans foundSecond)

end InstructionSet

/-- A word is read back as an instruction of the set that it selects and whose
reserved bits it leaves zero, with the operands that the layout cuts out. -/
theorem Disassembly.ofWord?_eq_some_iff (word : Nat) (disassembly : Disassembly) :
    Disassembly.ofWord? word = some disassembly ↔
      disassembly.entry ∈ InstructionSet.table ∧ disassembly.entry.selects word = true ∧
        disassembly.entry.spec.layout.reservesZero word = true ∧
        disassembly.operands = disassembly.entry.spec.layout.operandsOf word := by
  obtain ⟨entry, operands⟩ := disassembly
  constructor
  · intro success
    unfold Disassembly.ofWord? at success
    split at success
    · contradiction
    case h_2 found selected =>
      split at success
      case isTrue zero =>
        obtain ⟨rfl, rfl⟩ := Disassembly.mk.inj (Option.some.inj success)
        have passes : found.selects word = true := by simpa using List.find?_some selected
        exact ⟨List.mem_of_find?_eq_some selected, passes, zero, rfl⟩
      case isFalse => contradiction
  · rintro ⟨member, selected, zero, same⟩
    have found := InstructionSet.find?_of_exclusive (·.selects word) InstructionSet.table
      (InstructionSet.selects_exclusive word) entry member selected
    simp only at same zero
    simp only [Disassembly.ofWord?, found, zero, if_true, same]

namespace Operands

/-- A slot of a packed instruction holds the pattern of its value. A slot that
the layout lacks has the pattern of zero, so it is asked that its value is zero. -/
theorem bitsOf_fieldsIn (operands : Operands) (spec : Spec Role) (slot : Slot) (width : Nat)
    (wide : ∀ span ∈ spec.layout.spans, span.slot = slot → span.width = width)
    (unused : slot ∉ spec.layout.spans.map Span.slot → operands.slotValue spec slot = 0) :
    spec.layout.bitsOf (Field.concatenate (operands.fieldsIn spec)) slot =
      Bits.residue width (operands.slotValue spec slot) := by
  by_cases present : slot ∈ spec.layout.spans.map Span.slot
  · obtain ⟨span, member, rfl⟩ := List.mem_map.mp present
    rw [← wide span member rfl]
    exact Layout.bitsOf_concatenate spec.layout (operands.slotValue spec) span member
  · rw [unused present, Layout.bitsOf_of_not_mem spec.layout _ slot present]
    exact (Bits.residue_of_lt width 0 (Bits.modulus_pos width)).symm

/-- A register is read back from the pattern of its index, which is below
sixteen and so its own pattern. -/
theorem registerOf_of_bits (layout : Layout) (word : Nat) (slot : Slot) (register : Register)
    (bits : layout.bitsOf word slot = Bits.residue registerWidth register.val) :
    layout.registerOf word slot = register := by
  have small : register.val < Bits.modulus registerWidth := register.isLt
  apply Fin.ext
  change layout.bitsOf word slot % 16 = register.val
  rw [bits, Bits.residue_of_lt registerWidth register.val small]
  exact Nat.mod_eq_of_lt register.isLt

/-- Packed fields are a word of the machine: they are a pattern of the total
width of their layout, and every layout has 32 bits. -/
theorem concatenate_fieldsIn_lt (operands : Operands) (spec : Spec Role) :
    Field.concatenate (operands.fieldsIn spec) < Bits.modulus Word.width := by
  have bound := Field.concatenate_lt (operands.fieldsIn spec)
  rw [fieldsIn, Span.totalWidth_holding, Layout.totalWidth_spans] at bound
  exact bound

/-- The opcode of a packed instruction is its opcode: it is packed first, and it
has room in its span. -/
theorem opcodeOf_fieldsIn (operands : Operands) (spec : Spec Role) :
    InstructionSet.opcodeOf (Field.concatenate (operands.fieldsIn spec)) = spec.opcode.val := by
  obtain ⟨rest, spans, _⟩ := Layout.spans_eq_cons spec.layout
  have bits := Layout.bitsOf_concatenate spec.layout (operands.slotValue spec) Span.opcode
    (by rw [spans]; exact List.mem_cons_self)
  rw [← Layout.bitsOf_opcode spec.layout _ (operands.concatenate_fieldsIn_lt spec)]
  exact bits.trans (Bits.residue_of_lt Span.opcode.width spec.opcode.val spec.opcode.isLt)

/-- A packed instruction has zeros in its reserved bits, because the value of a
reserved slot is zero whatever the operands are. -/
theorem reservesZero_fieldsIn (operands : Operands) (spec : Spec Role) :
    spec.layout.reservesZero (Field.concatenate (operands.fieldsIn spec)) = true := by
  rw [Layout.reservesZero_iff, fieldsIn, Layout.slices_concatenate]
  intro slice member reserved
  obtain ⟨span, _, rfl⟩ := List.mem_map.mp member
  simp only at reserved ⊢
  rw [reserved]
  exact Bits.residue_of_lt span.width 0 (Bits.modulus_pos span.width)

end Operands

namespace InstructionSet

/-- The operands of an instruction of the set are read back from its word. Each
slot holds the pattern of its value: a register is its own pattern, an immediate
in range is the sign extension of its pattern, and a slot that the layout lacks
was zero by the form. -/
theorem operandsOf_fieldsIn (entry : Entry) (member : entry ∈ table) (operands : Operands)
    (outside : operands.ZeroOutside entry.spec.form) (range : Immediate.InRange operands.imm) :
    entry.spec.layout.operandsOf (Field.concatenate (operands.fieldsIn entry.spec)) =
      operands := by
  have unused : ∀ slot ∈ [Slot.ra, .rb, .rc, .imm],
      slot ∉ entry.spec.layout.spans.map Span.slot → operands.slotValue entry.spec slot = 0 := by
    intro slot filled absent
    rw [operands.slotValue_eq_get entry.spec slot filled]
    exact get_eq_zero entry member operands outside slot filled absent
  have register : ∀ slot ∈ [Slot.ra, .rb, .rc],
      entry.spec.layout.bitsOf (Field.concatenate (operands.fieldsIn entry.spec)) slot =
        Bits.residue registerWidth (operands.slotValue entry.spec slot) := by
    intro slot named
    apply operands.bitsOf_fieldsIn entry.spec slot registerWidth
    · exact Layout.width_register entry.spec.layout slot named
    · exact unused slot (List.mem_append_left [Slot.imm] named)
  have immediate := operands.bitsOf_fieldsIn entry.spec .imm Span.imm.width
    (Layout.width_imm entry.spec.layout) (unused .imm (by decide))
  have first : entry.spec.layout.registerOf _ .ra = operands.ra :=
    Operands.registerOf_of_bits _ _ _ _ (register .ra (by decide))
  have second : entry.spec.layout.registerOf _ .rb = operands.rb :=
    Operands.registerOf_of_bits _ _ _ _ (register .rb (by decide))
  have third : entry.spec.layout.registerOf _ .rc = operands.rc :=
    Operands.registerOf_of_bits _ _ _ _ (register .rc (by decide))
  have fourth : Bits.signExtend Span.imm.width
      (Bits.residue Span.imm.width (operands.slotValue entry.spec .imm)) = operands.imm :=
    Bits.signExtend_residue Span.imm.width Span.imm.width_pos _
      ((Immediate.inRange_iff operands.imm).mp range)
  unfold Layout.operandsOf
  rw [first, second, third, immediate, fourth]

/-- The word of an instruction selects the instruction. Its opcode is found in
the word, and if it has a condition its layout is that of the branches, where
the condition is found too. -/
theorem selects_fieldsIn (entry : Entry) (operands : Operands) :
    entry.selects (Field.concatenate (operands.fieldsIn entry.spec)) = true := by
  rw [Entry.selects_iff]
  refine ⟨(operands.opcodeOf_fieldsIn entry.spec).symm, ?_⟩
  intro cond given
  have branch : entry.spec.layout = .branch := entry.spec.eq_branch_of_mem cond given
  have value : operands.slotValue entry.spec .cond = cond.val := by
    simp only [Operands.slotValue, Option.mem_def.mp given]
  have placed : Span.cond ∈ entry.spec.layout.spans := by
    rw [branch]
    simp [Layout.spans]
  have bits := Layout.bitsOf_concatenate entry.spec.layout (operands.slotValue entry.spec)
    Span.cond placed
  have pattern := bits.trans (congrArg (Bits.residue Span.cond.width) value)
  exact (pattern.trans (Bits.residue_of_lt Span.cond.width cond.val cond.isLt)).symm

/-- Reading back the word of an instruction of the set yields the instruction
and its operands. -/
theorem ofWord?_fieldsIn (entry : Entry) (member : entry ∈ table) (operands : Operands)
    (outside : operands.ZeroOutside entry.spec.form) (range : Immediate.InRange operands.imm) :
    Disassembly.ofWord? (Field.concatenate (operands.fieldsIn entry.spec)) =
      some ⟨entry, operands⟩ := by
  rw [Disassembly.ofWord?_eq_some_iff]
  exact ⟨member, selects_fieldsIn entry operands, operands.reservesZero_fieldsIn entry.spec,
    (operandsOf_fieldsIn entry member operands outside range).symm⟩

end InstructionSet

namespace Instruction

/-- The resolved values of the operands of an instruction, if its mnemonic is
known. -/
def resolved (instruction : Instruction) : Except Failure Operands :=
  instruction.spec.bind instruction.resolve

/-- An encoded instruction is an instruction of the set with resolved operands,
and its word is read back as these. -/
theorem exists_of_encode (instruction : Instruction) (encoded : Encoded)
    (success : instruction.encode = .ok encoded) :
    ∃ entry ∈ InstructionSet.table, ∃ operands : Operands,
      entry.mnemonic = Text.lower instruction.mnemonic ∧
      instruction.resolved = .ok operands ∧
      encoded.word = (Field.concatenate (operands.fieldsIn entry.spec) : Nat) ∧
      Disassembly.ofWord? (Field.concatenate (operands.fieldsIn entry.spec)) =
        some ⟨entry, operands⟩ := by
  obtain ⟨entry, member, operands, named, assigned, rfl⟩ :=
    (encode_eq_ok_iff instruction encoded).mp success
  have found : instruction.spec = .ok entry.spec :=
    (spec_eq_ok_iff instruction entry.spec).mpr ⟨entry, member, named, rfl⟩
  have bound : instruction.resolve entry.spec = .ok operands :=
    (resolve_eq_ok_iff instruction entry member operands).mpr
      ⟨assigned.meanings, assigned.outside⟩
  refine ⟨entry, member, operands, named, ?_, rfl, ?_⟩
  · rw [resolved, found]
    exact bound
  · exact InstructionSet.ofWord?_fieldsIn entry member operands assigned.outside assigned.range

end Instruction

/-- Reading back the word of an encoded instruction yields its mnemonic in lower
case and its resolved operands, with zeros in all reserved slices. Hence two
encoded instructions have the same word exactly when their mnemonics agree up to
case and their resolved operands agree.

Proof: the word of an encoded instruction is packed from its resolved operands,
and reading it back yields these. Equal words are therefore read back as the
same instruction; conversely a mnemonic of the set names one entry, and equal
operands pack to equal words. -/
theorem decode_encode_and_word_eq_iff :
    (∀ (instruction : Instruction) (encoded : Encoded), instruction.encode = .ok encoded →
      0 ≤ encoded.word ∧ encoded.word < 2 ^ 32 ∧
      ∃ disassembly, Disassembly.ofWord? encoded.word.toNat = some disassembly ∧
        disassembly.entry.mnemonic = Text.lower instruction.mnemonic ∧
        instruction.resolved = .ok disassembly.operands ∧
        ∀ slice ∈ Layout.slices encoded.word.toNat disassembly.entry.spec.layout.spans,
          slice.1 = .reserved → slice.2 = 0) ∧
    ∀ (left right : Instruction) (first second : Encoded),
      left.encode = .ok first → right.encode = .ok second →
      (first.word = second.word ↔
        Text.lower left.mnemonic = Text.lower right.mnemonic ∧ left.resolved = right.resolved) := by
  constructor
  · intro instruction encoded success
    obtain ⟨entry, _, operands, named, resolved, word, readBack⟩ :=
      instruction.exists_of_encode encoded success
    have small : (Field.concatenate (operands.fieldsIn entry.spec) : Int) < 2 ^ 32 :=
      calc (Field.concatenate (operands.fieldsIn entry.spec) : Int)
          < Bits.modulus Word.width := Int.ofNat_lt.mpr (operands.concatenate_fieldsIn_lt _)
        _ = 2 ^ 32 := by decide
    rw [word, Int.toNat_natCast]
    refine ⟨Int.natCast_nonneg _, small, ⟨entry, operands⟩, readBack, named, resolved, ?_⟩
    exact (Layout.reservesZero_iff _ _).mp (operands.reservesZero_fieldsIn entry.spec)
  · intro left right first second leftSuccess rightSuccess
    obtain ⟨entry, member, operands, named, resolved, word, readBack⟩ :=
      left.exists_of_encode first leftSuccess
    obtain ⟨other, otherMember, others, otherNamed, otherResolved, otherWord, otherReadBack⟩ :=
      right.exists_of_encode second rightSuccess
    rw [word, otherWord, resolved, otherResolved, ← named, ← otherNamed]
    constructor
    · intro same
      rw [Int.ofNat.inj same, otherReadBack] at readBack
      obtain ⟨rfl, rfl⟩ := Disassembly.mk.inj (Option.some.inj readBack)
      exact ⟨rfl, rfl⟩
    · rintro ⟨sameName, sameOperands⟩
      rw [InstructionSet.eq_of_mnemonic_eq entry other member otherMember sameName,
        Except.ok.inj sameOperands]

/-- A branch in two spellings has one word, which reads back as the branch. -/
theorem decode_encode_and_word_eq_iff_branch :
    ∃ first second,
      (Instruction.mk "BRPL".toList ["R3".toList, "-5".toList] none []).encode = .ok first ∧
      (Instruction.mk "brpl".toList [" r03".toList, "-005".toList] none []).encode = .ok second ∧
      first.word = second.word ∧
      ∃ disassembly, Disassembly.ofWord? first.word.toNat = some disassembly ∧
        disassembly.entry.mnemonic = "brpl".toList := by
  obtain ⟨first, leftSuccess⟩ : ∃ first,
      (Instruction.mk "BRPL".toList ["R3".toList, "-5".toList] none []).encode = .ok first :=
    ⟨_, rfl⟩
  obtain ⟨second, rightSuccess⟩ : ∃ second,
      (Instruction.mk "brpl".toList [" r03".toList, "-005".toList] none []).encode = .ok second :=
    ⟨_, rfl⟩
  have sameOperands :
      (Instruction.mk "BRPL".toList ["R3".toList, "-5".toList] none []).resolved =
        (Instruction.mk "brpl".toList [" r03".toList, "-005".toList] none []).resolved := by
    decide +kernel
  have sameWord : first.word = second.word :=
    (decode_encode_and_word_eq_iff.2 _ _ _ _ leftSuccess rightSuccess).mpr ⟨rfl, sameOperands⟩
  obtain ⟨_, _, disassembly, readBack, named, _⟩ :=
    decode_encode_and_word_eq_iff.1 _ _ leftSuccess
  exact ⟨first, second, leftSuccess, rightSuccess, sameWord, disassembly, readBack, named⟩

end LineAssembler
