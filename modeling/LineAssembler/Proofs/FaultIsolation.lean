import LineAssembler.Assembly
import LineAssembler.Proofs.InstructionEncoding

/-!
# Which lines end an assembly

A line with a fault is reported and the rest of the program is assembled as if the
line were not there. The only lines that do not keep to this are those that exceed
the digit limit, in one of two ways: a decimal numeral that is too long is read, in
a register or in an immediate, or an immediate out of range is too large to be
written in its own diagnostic. Such a line ends the assembly without a result.

Both ways are described by the grammar of operands. The assembly of a program is
then followed line by line: a stretch without such lines contributes its words and
diagnostics, whatever comes behind it.
-/

namespace LineAssembler

/-- Filling spans runs into the limit exactly when an immediate span does not
fit its value and the value cannot be written. -/
theorem Operands.fieldsOf_eq_limit_iff (operands : Operands) (spec : Spec Role)
    (spans : List Span) :
    (∃ limit, operands.fieldsOf spec spans = .error (.limit limit)) ↔
      (∃ span ∈ spans, span.slot = .imm ∧ Bits.fitsSigned span.width operands.imm = false) ∧
        Numeral.isWritable operands.imm = false := by
  induction spans with
  | nil => simp [Operands.fieldsOf]
  | cons span spans inductionHypothesis =>
    rw [Operands.fieldsOf, Operands.field_eq]
    by_cases misfit : span.slot = .imm ∧ Bits.fitsSigned span.width operands.imm = false
    · rw [if_pos misfit]
      cases writable : Numeral.isWritable operands.imm with
      | true => simp [Operands.outOfRange, writable]
      | false => simp [Operands.outOfRange, writable, misfit]
    · rw [if_neg misfit]
      simp only [exceptMap_eq_error_iff, inductionHypothesis, List.exists_mem_cons_iff, misfit,
        false_or]

/-- The fields of an instruction of the set run into the limit exactly when the
numeral of its immediate is past the limit: only a short one is in range. -/
theorem InstructionSet.fieldsOf_eq_limit_iff (entry : InstructionSet.Entry)
    (member : entry ∈ InstructionSet.table) (operands : Operands)
    (outside : operands.ZeroOutside entry.spec.form) :
    (∃ limit, operands.fieldsOf entry.spec entry.spec.layout.spans = .error (.limit limit)) ↔
      Numeral.digitLimit < (Numeral.ofNat operands.imm.natAbs).length := by
  have unwritable : Numeral.isWritable operands.imm = false ↔
      Numeral.digitLimit < (Numeral.ofNat operands.imm.natAbs).length := by
    rw [← Bool.not_eq_true, Numeral.isWritable_iff, Nat.not_le]
  rw [Operands.fieldsOf_eq_limit_iff, unwritable]
  constructor
  · rintro ⟨_, long⟩
    exact long
  · intro long
    refine ⟨?_, long⟩
    by_contra fits
    have range : Immediate.InRange operands.imm := by
      rw [← InstructionSet.immediate_fits_iff entry member operands outside]
      intro span placed immediate
      by_contra misfit
      exact fits ⟨span, placed, immediate, Bool.not_eq_true _ ▸ misfit⟩
    exact Nat.not_le_of_lt long range.length_ofNat_le

namespace Instruction

/-- An instruction that exceeds the digit limit: one of its operands has too
long a numeral to be read, or all can be read and the immediate has too long a
numeral to be written. -/
inductive Exceeds (instruction : Instruction) : Prop where
  | reading (entry : InstructionSet.Entry) (member : entry ∈ InstructionSet.table)
      (named : entry.mnemonic = Text.lower instruction.mnemonic)
      (counted : instruction.operands.length = entry.spec.form.length)
      (overrun : Role.Overrun entry.spec.form instruction.operands) : Exceeds instruction
  | writing (entry : InstructionSet.Entry) (member : entry ∈ InstructionSet.table)
      (named : entry.mnemonic = Text.lower instruction.mnemonic) (operands : Operands)
      (meanings : List.Forall₂ (fun role token => operands.Means role (Text.trim token))
        entry.spec.form instruction.operands)
      (outside : operands.ZeroOutside entry.spec.form)
      (long : Numeral.digitLimit < (Numeral.ofNat operands.imm.natAbs).length) :
      Exceeds instruction

/-- An unknown mnemonic is a fault. So the digit limit is never met before the
operands are looked at. -/
theorem spec_ne_limit (instruction : Instruction) (limit : DigitLimit) :
    instruction.spec ≠ .error (.limit limit) := by
  intro failure
  unfold spec at failure
  split at failure
  · contradiction
  · cases failure

/-- Resolving operands runs into the limit exactly when the right number of
tokens holds too long a numeral behind tokens that can be read. -/
theorem resolve_eq_limit_iff (instruction : Instruction) (spec : Spec Role) :
    (∃ limit, instruction.resolve spec = .error (.limit limit)) ↔
      instruction.operands.length = spec.form.length ∧
        Role.Overrun spec.form instruction.operands := by
  rw [← Operands.bindAll_eq_limit_iff _ _ Operands.zero]
  unfold resolve
  by_cases counted : instruction.operands.length = spec.form.length
  · simp [counted]
  · simp [counted]

/-- Encoding runs into the limit exactly for instructions that exceed it. Of the
three steps, finding the specification never does. -/
theorem encode_eq_limit_iff (instruction : Instruction) :
    (∃ limit, instruction.encode = .error (.limit limit)) ↔ instruction.Exceeds := by
  simp only [encode_eq, exceptMap_eq_error_iff, fields_eq_bind, exceptBind_eq_error_iff]
  constructor
  · rintro ⟨limit, unknown | ⟨spec, found, unresolved | ⟨operands, resolved, refused⟩⟩⟩
    · exact absurd unknown (instruction.spec_ne_limit limit)
    · obtain ⟨entry, member, named, rfl⟩ := (spec_eq_ok_iff instruction spec).mp found
      obtain ⟨counted, overrun⟩ :=
        (resolve_eq_limit_iff instruction entry.spec).mp ⟨limit, unresolved⟩
      exact .reading entry member named counted overrun
    · obtain ⟨entry, member, named, rfl⟩ := (spec_eq_ok_iff instruction spec).mp found
      obtain ⟨meanings, outside⟩ :=
        (resolve_eq_ok_iff instruction entry member operands).mp resolved
      have long := (InstructionSet.fieldsOf_eq_limit_iff entry member operands outside).mp
        ⟨limit, refused⟩
      exact .writing entry member named operands meanings outside long
  · intro exceeds
    cases exceeds with
    | reading entry member named counted overrun =>
      have found := (spec_eq_ok_iff instruction entry.spec).mpr ⟨entry, member, named, rfl⟩
      obtain ⟨limit, unresolved⟩ :=
        (resolve_eq_limit_iff instruction entry.spec).mpr ⟨counted, overrun⟩
      exact ⟨limit, Or.inr ⟨entry.spec, found, Or.inl unresolved⟩⟩
    | writing entry member named operands meanings outside long =>
      have found := (spec_eq_ok_iff instruction entry.spec).mpr ⟨entry, member, named, rfl⟩
      have resolved :=
        (resolve_eq_ok_iff instruction entry member operands).mpr ⟨meanings, outside⟩
      obtain ⟨limit, refused⟩ :=
        (InstructionSet.fieldsOf_eq_limit_iff entry member operands outside).mpr long
      exact ⟨limit, Or.inr ⟨entry.spec, found, Or.inr ⟨operands, resolved, refused⟩⟩⟩

end Instruction

namespace Instruction

/-- The word of a line that is encoded. -/
def word? (instruction : Instruction) : Option Encoded :=
  if instruction.isBlank then none
  else match instruction.encode with
    | .ok encoded => some encoded
    | .error _ => none

/-- The diagnostic of a line that has a fault. -/
def diagnostic? (file : Option Text) (instruction : Instruction) : Option Diagnostic :=
  if instruction.isBlank then none
  else match instruction.encode with
    | .error (.fault fault) =>
      some (.ofProblem fault.problem instruction.line file (some instruction.text))
    | _ => none

end Instruction

namespace Program

/-- What every line of a program contributes on its own. -/
def isolated (file : Option Text) (program : Program) : Assembly :=
  ⟨program.filterMap Instruction.word?, program.filterMap (Instruction.diagnostic? file)⟩

/-- No line of a program exceeds the digit limit. -/
def WithinLimit (program : Program) : Prop :=
  ∀ instruction ∈ program, instruction.isBlank = false → ¬instruction.Exceeds

/-- A line that does not exceed the limit contributes its word or its diagnostic
and leaves the rest of the assembly alone. -/
theorem assemble_cons (file : Option Text) (instruction : Instruction) (rest : Program)
    (within : instruction.isBlank = false → ¬instruction.Exceeds) :
    (assemble file (instruction :: rest)).result =
      (assemble file rest).result.map fun assembly =>
        ⟨instruction.word?.toList ++ assembly.words,
          (instruction.diagnostic? file).toList ++ assembly.diagnostics⟩ := by
  rw [assemble_step]
  by_cases blank : instruction.isBlank = true
  · rw [if_pos blank]
    cases (assemble file rest).result <;>
      simp [Except.map, Instruction.word?, Instruction.diagnostic?, blank]
  · rw [if_neg blank]
    cases encoding : instruction.encode with
    | ok encoded =>
      simp [Assembly.Outcome.withWord, Recorded.after, Instruction.word?, Instruction.diagnostic?,
        blank, encoding]
    | error failure =>
      cases failure with
      | fault fault =>
        simp [Assembly.Outcome.withDiagnostic, Instruction.word?, Instruction.diagnostic?, blank,
          encoding]
      | limit limit =>
        have exceeds : instruction.Exceeds :=
          (instruction.encode_eq_limit_iff).mp ⟨limit, encoding⟩
        exact absurd exceeds (within (Bool.not_eq_true _ ▸ blank))

/-- Lines that do not exceed the limit contribute their words and diagnostics in
order, in front of whatever the rest of the program comes to. -/
theorem assemble_append (file : Option Text) (before after : Program)
    (within : WithinLimit before) :
    (assemble file (before ++ after)).result =
      (assemble file after).result.map fun assembly =>
        ⟨(before.isolated file).words ++ assembly.words,
          (before.isolated file).diagnostics ++ assembly.diagnostics⟩ := by
  induction before with
  | nil => cases result : (assemble file after).result <;> simp [Except.map, isolated, result]
  | cons instruction rest inductionHypothesis =>
    have withinRest : WithinLimit rest := fun line member =>
      within line (List.mem_cons_of_mem instruction member)
    rw [List.cons_append, assemble_cons file instruction _ (within instruction List.mem_cons_self),
      inductionHypothesis withinRest]
    cases (assemble file after).result with
    | error limit => rfl
    | ok assembly =>
      simp only [Except.map, isolated, Except.ok.injEq, Assembly.mk.injEq]
      constructor
      · cases word : instruction.word? <;> simp [word]
      · cases diagnostic : instruction.diagnostic? file <;> simp [diagnostic]

/-- The first line that exceeds the limit ends the assembly. The lines before it
are assembled on their own, and what they come to is given up. -/
theorem assemble_of_limit (file : Option Text) (before after : Program)
    (instruction : Instruction) (limit : DigitLimit) (within : WithinLimit before)
    (solid : instruction.isBlank = false) (failure : instruction.encode = .error (.limit limit)) :
    (assemble file (before ++ instruction :: after)).result = .error limit := by
  have ends : (assemble file (instruction :: after)).result = .error limit := by
    simp [assemble_step, solid, failure]
  rw [assemble_append file before _ within, ends]
  rfl

/-- A program without lines that exceed the limit is assembled line by line. It
is taken as the front of a program with nothing behind it. -/
theorem assemble_of_withinLimit (file : Option Text) (program : Program)
    (within : WithinLimit program) :
    (assemble file program).result = .ok (program.isolated file) := by
  have whole := assemble_append file program [] within
  rw [List.append_nil] at whole
  simpa [assemble, Assembly.Outcome.empty, Except.map] using whole

/-- A program keeps the limit, or a first line exceeds it. By induction on the
lines: a line that does not exceed the limit can be put in front of either case. -/
theorem withinLimit_or_exists_first (program : Program) :
    WithinLimit program ∨ ∃ before instruction after limit,
      program = before ++ instruction :: after ∧ WithinLimit before ∧
        instruction.isBlank = false ∧ instruction.encode = .error (.limit limit) := by
  induction program with
  | nil => exact Or.inl fun instruction member => absurd member List.not_mem_nil
  | cons instruction rest inductionHypothesis =>
    by_cases first : instruction.isBlank = false ∧ instruction.Exceeds
    · obtain ⟨limit, failure⟩ := (instruction.encode_eq_limit_iff).mpr first.2
      refine Or.inr ⟨[], instruction, rest, limit, rfl, ?_, first.1, failure⟩
      exact fun other member => absurd member List.not_mem_nil
    · have extend : ∀ lines : Program, WithinLimit lines → WithinLimit (instruction :: lines) := by
        intro lines within other member solid exceeds
        rcases List.mem_cons.mp member with rfl | later
        · exact first ⟨solid, exceeds⟩
        · exact within other later solid exceeds
      rcases inductionHypothesis with within | ⟨before, other, after, limit, rfl, within, found⟩
      · exact Or.inl (extend rest within)
      · exact Or.inr ⟨instruction :: before, other, after, limit, rfl, extend before within, found⟩

/-- Faults are isolated exactly within the digit limit. Encoding an instruction
fails otherwise than by a fault exactly if it exceeds the limit; a program
without such lines is assembled, every line contributing its own word or
diagnostic; a program with such a line has no result.

Proof: a program keeps the limit or has a first line that exceeds it. In the
first case it is assembled line by line, and in the second the lines before that
line are assembled and the line ends the assembly. -/
theorem assemble_isolates_iff (file : Option Text) (program : Program) :
    (∀ instruction : Instruction,
      (∃ limit, instruction.encode = .error (.limit limit)) ↔ instruction.Exceeds) ∧
    ((assemble file program).result = .ok (program.isolated file) ↔ program.WithinLimit) ∧
    ((∃ limit, (assemble file program).result = .error limit) ↔
      ∃ instruction ∈ program, instruction.isBlank = false ∧ instruction.Exceeds) := by
  refine ⟨Instruction.encode_eq_limit_iff, ?_⟩
  rcases withinLimit_or_exists_first program with
    within | ⟨before, instruction, after, limit, rfl, within, solid, failure⟩
  · have assembled := assemble_of_withinLimit file program within
    refine ⟨⟨fun _ => within, fun _ => assembled⟩, ?_, ?_⟩
    · rintro ⟨limit, failure⟩
      rw [assembled] at failure
      contradiction
    · rintro ⟨instruction, member, solid, exceeds⟩
      exact absurd exceeds (within instruction member solid)
  · have ended := assemble_of_limit file before after instruction limit within solid failure
    have exceeds : instruction.Exceeds := instruction.encode_eq_limit_iff.mp ⟨limit, failure⟩
    have member : instruction ∈ before ++ instruction :: after := by simp
    refine ⟨⟨?_, ?_⟩, fun _ => ⟨instruction, member, solid, exceeds⟩, fun _ => ⟨limit, ended⟩⟩
    · intro success
      rw [ended] at success
      contradiction
    · intro whole
      exact absurd exceeds (whole instruction member solid)

/-- A jump to a register with too many digits ends the assembly, whatever
follows. The mnemonic is known and has one operand, so the reading comes to its
digits. -/
theorem assemble_overlong_register (file : Option Text) (digits : Text)
    (overlong : Numeral.Overlong digits) (line : Option Int) (text : Text) (rest : Program) :
    ∃ limit,
      (assemble file (⟨"jr".toList, ['R' :: digits], line, text⟩ :: rest)).result =
        .error limit := by
  obtain ⟨entry, member, named, spec⟩ := (Instruction.spec_eq_ok_iff
    ⟨"jr".toList, ['R' :: digits], line, text⟩ ⟨.oneReg, 19, none, [.ra], rfl⟩).mp rfl
  have register : Register.Overlong ('R' :: digits) := .intro 'R' digits (Or.inl rfl) overlong
  have overrun : Role.Overrun [.ra] ['R' :: digits] := by
    refine .here .ra [] _ [] ?_
    rw [register.isWord.trim]
    exact register
  have exceeds : (Instruction.mk "jr".toList ['R' :: digits] line text).Exceeds :=
    .reading entry member named (by rw [spec]; rfl) (by rw [spec]; exact overrun)
  obtain ⟨limit, failure⟩ := (Instruction.encode_eq_limit_iff _).mpr exceeds
  exact ⟨limit, assemble_of_limit file [] rest _ limit
    (fun _ found => absurd found List.not_mem_nil) rfl failure⟩

/-- A register with too many digits loses the whole program, although the digits
only name a register out of range and the other line is an instruction. -/
theorem assemble_long_register :
    ¬∃ assembly, (assemble none
      [⟨"jr".toList, ['R' :: List.replicate 4301 '1'], some 1, []⟩,
        ⟨"nop".toList, [], some 2, []⟩]).result = .ok assembly := by
  have overlong : Numeral.Overlong (List.replicate 4301 '1') := by
    constructor
    · intro c found
      rw [List.eq_of_mem_replicate found]
      decide
    · rw [List.length_replicate]
      decide
  generalize List.replicate 4301 '1' = digits at overlong
  rintro ⟨assembly, success⟩
  obtain ⟨limit, failure⟩ := assemble_overlong_register none digits overlong (some 1) []
    [⟨"nop".toList, [], some 2, []⟩]
  rw [success] at failure
  contradiction

end Program

end LineAssembler
