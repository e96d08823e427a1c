import LineAssembler.Proofs.LetterCase
import LineAssembler.Proofs.OperandBinding
import LineAssembler.Proofs.Packing

/-!
# When an instruction is encoded, and as what

An instruction is encoded exactly when its mnemonic names an entry of the
instruction set, its tokens have meanings in the roles of the entry's form, and
the immediate is in range. Its word is then a sum of the opcode, the registers,
the condition and the immediate, each at its place in the layout.

The facts about the instruction set that this rests on are finite and stand at the
beginning: mnemonics are distinct plain names, no form fills a slot twice, and a
form fills exactly the operand slots of its layout.
-/

namespace LineAssembler

namespace InstructionSet

/-- Mnemonics are not empty and consist of plain letters. The table is gone
through once, for both. -/
theorem table_plain : ∀ entry ∈ table,
    entry.mnemonic ≠ [] ∧ ∀ c ∈ entry.mnemonic, Text.isPlain c = true := by
  have check : table.all (fun entry =>
      entry.mnemonic != [] && entry.mnemonic.all Text.isPlain) = true := by decide +kernel
  simpa only [List.all_eq_true, Bool.and_eq_true, bne_iff_ne] using check

/-- Mnemonics are in lower case. -/
theorem table_lower : ∀ entry ∈ table, entry.mnemonic.map Char.toLower = entry.mnemonic := by
  decide

/-- No two instructions share a mnemonic. -/
theorem table_distinct : table.Pairwise fun entry other => entry.mnemonic ≠ other.mnemonic := by
  decide

/-- No form fills a slot twice. -/
theorem table_separate : ∀ entry ∈ table, Role.Separate entry.spec.form := by
  decide

/-- The operands of a form fill exactly the operand slots of its layout. -/
theorem table_filled : ∀ entry ∈ table, ∀ slot ∈ [Slot.ra, .rb, .rc, .imm],
    (slot ∈ Role.filled entry.spec.form ↔ slot ∈ entry.spec.layout.spans.map Span.slot) := by
  decide

/-- Where no two entries pass a test, the one that passes is found. By induction
on the entries: an entry in front of it that passed would exclude it. -/
theorem find?_of_exclusive (test : Entry → Bool) (entries : List Entry)
    (exclusive : entries.Pairwise fun entry other => test entry = true → test other = false)
    (entry : Entry) (member : entry ∈ entries) (passes : test entry = true) :
    entries.find? test = some entry := by
  induction entries with
  | nil => simp at member
  | cons first rest inductionHypothesis =>
    obtain ⟨different, exclusiveRest⟩ := List.pairwise_cons.mp exclusive
    rcases List.mem_cons.mp member with rfl | later
    · exact List.find?_cons_of_pos passes
    · by_cases found : test first = true
      · have fails : test entry = false := different entry later found
        rw [fails] at passes
        contradiction
      · rw [List.find?_cons_of_neg found]
        exact inductionHypothesis exclusiveRest later

/-- No two entries have the same name. This is the form in which the search
through the table needs it. -/
theorem mnemonic_exclusive (name : Text) : table.Pairwise fun entry other =>
    (entry.mnemonic == name) = true → (other.mnemonic == name) = false := by
  refine table_distinct.imp ?_
  intro entry other different named
  rw [beq_iff_eq] at named
  simpa [← named] using different.symm

/-- A mnemonic in any case selects the entry with its lower-case form. No two
entries have one mnemonic, so the first that is found is the only one. -/
theorem find?_eq_some_iff (mnemonic : Text) (spec : Spec Role) :
    find? mnemonic = some spec ↔
      ∃ entry ∈ table, entry.mnemonic = Text.lower mnemonic ∧ entry.spec = spec := by
  unfold find?
  rw [Option.map_eq_some_iff]
  constructor
  · rintro ⟨entry, found, same⟩
    have named : entry.mnemonic = Text.lower mnemonic := by simpa using List.find?_some found
    exact ⟨entry, List.mem_of_find?_eq_some found, named, same⟩
  · rintro ⟨entry, member, named, same⟩
    refine ⟨entry, ?_, same⟩
    exact find?_of_exclusive _ table (mnemonic_exclusive _) entry member (by simpa using named)

end InstructionSet

/-- The integers that an immediate can store. -/
def Immediate.InRange (value : Int) : Prop := -2 ^ 18 ≤ value ∧ value < 2 ^ 18

/-- The range of immediates is what the width of their slot stores. -/
theorem Immediate.inRange_iff (value : Int) :
    Immediate.InRange value ↔ Bits.fitsSigned Span.imm.width value = true := by
  rw [Bits.fitsSigned_iff]
  exact Iff.rfl

/-- An immediate in range has a short numeral: its magnitude is below a million,
so it has at most six digits. -/
theorem Immediate.InRange.length_ofNat_le {value : Int} (range : Immediate.InRange value) :
    (Numeral.ofNat value.natAbs).length ≤ Numeral.digitLimit := by
  have small : value.natAbs < Nat.pow 10 6 := by
    obtain ⟨least, greatest⟩ := range
    have room : Nat.pow 10 6 = 1000000 := rfl
    omega
  have short := (Numeral.length_ofNat_le_iff value.natAbs 6 (by decide)).mpr small
  exact Nat.le_trans short (by decide)

namespace Operands

/-- Operands that tokens assign to a form: each token means what its role holds,
the other slots are zero and the immediate is in range. -/
structure Assigned (operands : Operands) (form : List Role) (tokens : List Text) : Prop where
  meanings : List.Forall₂ (fun role token => operands.Means role (Text.trim token)) form tokens
  outside : operands.ZeroOutside form
  range : Immediate.InRange operands.imm

/-- The fields of a word, each span holding the value of its slot. -/
def fieldsIn (operands : Operands) (spec : Spec Role) : List Field :=
  spec.layout.spans.map (Span.holding (operands.slotValue spec))

/-- A span is refused exactly when it is an immediate that does not fit. Every
other slot is filled with its value, however large. -/
theorem field_eq (operands : Operands) (spec : Spec Role) (span : Span) :
    operands.field spec span =
      if span.slot = .imm ∧ Bits.fitsSigned span.width operands.imm = false then
        .error (outOfRange span.width operands.imm)
      else .ok (span.holding (operands.slotValue spec)) := by
  by_cases immediate : span.slot = .imm
  · simp [field, Span.holding, immediate, slotValue]
  · simp [field, Span.holding, immediate]

/-- Spans are filled exactly when the value for every immediate span fits it. By
induction on the spans: one misfit leaves no fields at all, and otherwise each
span holds the value of its slot. -/
theorem fieldsOf_eq_ok_iff (operands : Operands) (spec : Spec Role) (spans : List Span)
    (fields : List Field) :
    operands.fieldsOf spec spans = .ok fields ↔
      (∀ span ∈ spans, span.slot = .imm → Bits.fitsSigned span.width operands.imm = true) ∧
        fields = spans.map (Span.holding (operands.slotValue spec)) := by
  induction spans generalizing fields with
  | nil =>
    simp only [fieldsOf, Except.ok.injEq, List.not_mem_nil, false_implies, implies_true, true_and,
      List.map_nil]
    exact eq_comm
  | cons span spans inductionHypothesis =>
    rw [fieldsOf, field_eq]
    by_cases misfit : span.slot = .imm ∧ Bits.fitsSigned span.width operands.imm = false
    · rw [if_pos misfit]
      constructor
      · intro impossible
        contradiction
      · rintro ⟨fits, _⟩
        rw [fits span List.mem_cons_self misfit.1] at misfit
        simp at misfit
    · have fits : span.slot = .imm → Bits.fitsSigned span.width operands.imm = true := by
        intro immediate
        simpa [immediate] using misfit
      rw [if_neg misfit]
      simp only [exceptMap_eq_ok_iff, inductionHypothesis, List.mem_cons, forall_eq_or_imp,
        List.map_cons]
      constructor
      · rintro ⟨rest, ⟨others, rfl⟩, rfl⟩
        exact ⟨⟨fits, others⟩, rfl⟩
      · rintro ⟨⟨_, others⟩, rfl⟩
        exact ⟨_, ⟨others, rfl⟩, rfl⟩

/-- A slot that operands fill holds their value. -/
theorem slotValue_eq_get (operands : Operands) (spec : Spec Role) :
    ∀ slot ∈ [Slot.ra, .rb, .rc, .imm], operands.slotValue spec slot = operands.get slot := by
  simp [slotValue, get]

/-- All slots of an instruction without operands are zero. -/
theorem get_zero (slot : Slot) : zero.get slot = 0 := by
  cases slot <;> rfl

end Operands

/-- Immediates have the same width in every layout. -/
theorem Layout.width_imm (layout : Layout) :
    ∀ span ∈ layout.spans, span.slot = .imm → span.width = Span.imm.width := by
  cases layout <;> decide

/-- An operand slot that a layout lacks is zero, since no operand fills it. By
the table, the operand slots of a layout are those that the roles of the form
fill. -/
theorem InstructionSet.get_eq_zero (entry : InstructionSet.Entry)
    (member : entry ∈ InstructionSet.table) (operands : Operands)
    (outside : operands.ZeroOutside entry.spec.form) (slot : Slot)
    (filled : slot ∈ [Slot.ra, .rb, .rc, .imm])
    (absent : slot ∉ entry.spec.layout.spans.map Span.slot) : operands.get slot = 0 := by
  apply outside slot
  rw [InstructionSet.table_filled entry member slot filled]
  exact absent

/-- An immediate fits its layout exactly when it is in range, since a layout
without an immediate has none but zero. -/
theorem InstructionSet.immediate_fits_iff (entry : InstructionSet.Entry)
    (member : entry ∈ InstructionSet.table) (operands : Operands)
    (outside : operands.ZeroOutside entry.spec.form) :
    (∀ span ∈ entry.spec.layout.spans, span.slot = .imm →
        Bits.fitsSigned span.width operands.imm = true) ↔ Immediate.InRange operands.imm := by
  rw [Immediate.inRange_iff]
  constructor
  · intro fits
    by_cases present : Slot.imm ∈ entry.spec.layout.spans.map Span.slot
    · obtain ⟨span, belongs, slot⟩ := List.mem_map.mp present
      rw [← Layout.width_imm entry.spec.layout span belongs slot]
      exact fits span belongs slot
    · have zero : operands.imm = 0 :=
        InstructionSet.get_eq_zero entry member operands outside .imm (by decide) present
      rw [zero]
      decide
  · intro fits span belongs slot
    rw [Layout.width_imm entry.spec.layout span belongs slot]
    exact fits

namespace Instruction

/-- The specification of an instruction is that of the entry which its mnemonic
names. -/
theorem spec_eq_ok_iff (instruction : Instruction) (spec : Spec Role) :
    instruction.spec = .ok spec ↔
      ∃ entry ∈ InstructionSet.table,
        entry.mnemonic = Text.lower instruction.mnemonic ∧ entry.spec = spec := by
  rw [← InstructionSet.find?_eq_some_iff]
  unfold Instruction.spec
  split
  case h_1 found => simp [found]
  case h_2 missing => simp [missing]

/-- The operands of an instruction are resolved exactly when there are as many
tokens as roles and each has a meaning in its role. -/
theorem resolve_eq_ok_iff (instruction : Instruction) (entry : InstructionSet.Entry)
    (member : entry ∈ InstructionSet.table) (operands : Operands) :
    instruction.resolve entry.spec = .ok operands ↔
      List.Forall₂ (fun role token => operands.Means role (Text.trim token))
          entry.spec.form instruction.operands ∧
        operands.ZeroOutside entry.spec.form := by
  unfold resolve
  split
  case isTrue counted =>
    rw [Operands.bindAll_eq_ok_iff _ (InstructionSet.table_separate entry member) _ counted]
    simp only [Operands.get_zero, Operands.ZeroOutside]
  case isFalse miscounted =>
    constructor
    · intro impossible
      contradiction
    · rintro ⟨meanings, _⟩
      exact absurd meanings.length_eq.symm miscounted

/-- What an instruction is encoded as, given its specification and its operands. -/
def encodedWith (instruction : Instruction) (spec : Spec Role) (operands : Operands) : Encoded :=
  ⟨Field.concatenate (operands.fieldsIn spec), instruction.line, instruction.text,
    instruction.mnemonic, operands.fieldsIn spec⟩

/-- The fields of an instruction are computed in three steps: its specification
is found, its operands are resolved and its layout is filled. -/
theorem fields_eq_bind (instruction : Instruction) :
    instruction.fields = instruction.spec.bind fun spec =>
      (instruction.resolve spec).bind fun operands =>
        operands.fieldsOf spec spec.layout.spans := by
  cases found : instruction.spec with
  | error failure => simp only [Instruction.fields, found, Except.bind]
  | ok spec =>
    cases resolved : instruction.resolve spec <;>
      simp only [Instruction.fields, found, resolved, Except.bind]

/-- An instruction is encoded exactly when its mnemonic names an entry and its
tokens assign operands to the entry's form; the operands then fill the entry's
layout. -/
theorem encode_eq_ok_iff (instruction : Instruction) (encoded : Encoded) :
    instruction.encode = .ok encoded ↔
      ∃ entry ∈ InstructionSet.table, ∃ operands : Operands,
        entry.mnemonic = Text.lower instruction.mnemonic ∧
        operands.Assigned entry.spec.form instruction.operands ∧
        encoded = instruction.encodedWith entry.spec operands := by
  simp only [encode_eq, exceptMap_eq_ok_iff, fields_eq_bind, exceptBind_eq_ok_iff]
  constructor
  · rintro ⟨fields, ⟨spec, found, operands, resolved, filled⟩, rfl⟩
    obtain ⟨entry, member, named, rfl⟩ := (spec_eq_ok_iff instruction spec).mp found
    obtain ⟨meanings, outside⟩ :=
      (resolve_eq_ok_iff instruction entry member operands).mp resolved
    obtain ⟨fits, rfl⟩ := (Operands.fieldsOf_eq_ok_iff operands entry.spec _ fields).mp filled
    have range : Immediate.InRange operands.imm :=
      (InstructionSet.immediate_fits_iff entry member operands outside).mp fits
    exact ⟨entry, member, operands, named, ⟨meanings, outside, range⟩, rfl⟩
  · rintro ⟨entry, member, operands, named, assigned, rfl⟩
    have found : instruction.spec = .ok entry.spec :=
      (spec_eq_ok_iff instruction entry.spec).mpr ⟨entry, member, named, rfl⟩
    have resolved : instruction.resolve entry.spec = .ok operands :=
      (resolve_eq_ok_iff instruction entry member operands).mpr
        ⟨assigned.meanings, assigned.outside⟩
    have fits := (InstructionSet.immediate_fits_iff entry member operands assigned.outside).mpr
      assigned.range
    have filled := (Operands.fieldsOf_eq_ok_iff operands entry.spec _ _).mpr ⟨fits, rfl⟩
    exact ⟨operands.fieldsIn entry.spec, ⟨entry.spec, found, operands, resolved, filled⟩, rfl⟩

end Instruction

/-! ## Words as sums -/

namespace Operands

/-- The word of an instruction as a sum. The opcode and the first register have
the same place in every layout; what follows depends on the layout. -/
def sum (operands : Operands) (spec : Spec Role) : Int :=
  spec.opcode.val * 2 ^ 27 + operands.ra.val * 2 ^ 23 +
    match spec.layout with
    | .loadStore | .aluRegImm => operands.rb.val * 2 ^ 19 + operands.imm % 2 ^ 19
    | .aluReg3 => operands.rb.val * 2 ^ 19 + operands.rc.val * 2 ^ 15
    | .aluReg2 => operands.rb.val * 2 ^ 19
    | .branch => operands.slotValue spec .cond * 2 ^ 21 + operands.imm % 2 ^ 19
    | .oneReg | .noOperand => 0

/-- A condition has two bits, and counts as zero where there is none, so the
slot of a condition never overflows. -/
theorem cond_bounds (operands : Operands) (spec : Spec Role) :
    0 ≤ operands.slotValue spec .cond ∧ operands.slotValue spec .cond < 4 := by
  simp only [slotValue]
  cases spec.cond with
  | none => simp
  | some cond =>
    have bound := cond.isLt
    simp only
    omega

/-- Packing the fields of an instruction gives the sum. Every value but the
immediate lies within its span, so the remainders that packing takes are the
values themselves. -/
theorem concatenate_fieldsIn (operands : Operands) (spec : Spec Role)
    (unused : spec.layout = .noOperand → operands.ra.val = 0) :
    (Field.concatenate (operands.fieldsIn spec) : Int) = operands.sum spec := by
  have opcode := spec.opcode.isLt
  have first := operands.ra.isLt
  have second := operands.rb.isLt
  have third := operands.rc.isLt
  have cond := cond_bounds operands spec
  unfold sum fieldsIn
  generalize slots : operands.slotValue spec = value at cond
  have valueOpcode : value .opcode = spec.opcode.val := by rw [← slots]; rfl
  have valueA : value .ra = operands.ra.val := by rw [← slots]; rfl
  have valueB : value .rb = operands.rb.val := by rw [← slots]; rfl
  have valueC : value .rc = operands.rc.val := by rw [← slots]; rfl
  have valueImm : value .imm = operands.imm := by rw [← slots]; rfl
  have valueReserved : value .reserved = 0 := by rw [← slots]; rfl
  revert unused
  cases spec.layout
  all_goals
    intro unused
    simp only [reduceCtorEq, false_implies, forall_const] at unused
    simp only [Layout.spans, List.map_cons, List.map_nil, Field.natCast_concatenate_cons,
      Field.concatenate_nil, Field.totalWidth, Span.holding, Span.opcode, Span.register, Span.imm,
      Span.cond, Span.reserved, registerWidth, Bits.modulus, valueOpcode, valueA, valueB, valueC,
      valueImm, valueReserved, Nat.pow_eq, Nat.reducePow, Nat.reduceAdd, Nat.cast_ofNat,
      Int.reducePow]
    omega

end Operands

/-- The word of an instruction of the set is a sum. Only a layout without
operands has no place for the first register, and then the register is zero. -/
theorem InstructionSet.concatenate_fieldsIn_of_mem (entry : InstructionSet.Entry)
    (member : entry ∈ InstructionSet.table) (operands : Operands)
    (outside : operands.ZeroOutside entry.spec.form) :
    (Field.concatenate (operands.fieldsIn entry.spec) : Int) = operands.sum entry.spec := by
  apply Operands.concatenate_fieldsIn
  intro empty
  have absent : Slot.ra ∉ entry.spec.layout.spans.map Span.slot := by
    rw [empty]
    decide
  exact Int.ofNat.inj
    (InstructionSet.get_eq_zero entry member operands outside .ra (by decide) absent)

end LineAssembler
