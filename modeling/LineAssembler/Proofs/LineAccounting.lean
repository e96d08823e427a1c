import LineAssembler.Proofs.Decoding
import LineAssembler.Proofs.FaultIsolation

/-!
# Every line is accounted for

The lines of a text are numbered from one, without gaps. Assembling keeps the lines
that it encodes and the lines that it reports in order, and every line that is not
blank is one or the other. What is kept of a line can be traced back to it by its
number: a word of the machine to the instruction that it encodes, a diagnostic to
the fault that encoding the instruction comes to.

An assembly with a result is what each line contributes on its own. Order, disjointness
and coverage are then facts about two selections from one numbered list.
-/

namespace LineAssembler

namespace Instruction

/-- A line has a word exactly when it is not blank and is encoded. A blank line
is not even tried. -/
theorem word?_eq_some_iff (instruction : Instruction) (encoded : Encoded) :
    instruction.word? = some encoded ↔
      instruction.isBlank = false ∧ instruction.encode = .ok encoded := by
  unfold word?
  cases instruction.isBlank <;> cases instruction.encode <;> simp

/-- A line has a diagnostic exactly when it is not blank and has a fault. A
conversion past the digit limit is no fault and leaves none. -/
theorem diagnostic?_eq_some_iff (file : Option Text) (instruction : Instruction)
    (diagnostic : Diagnostic) :
    instruction.diagnostic? file = some diagnostic ↔
      instruction.isBlank = false ∧ ∃ fault, instruction.encode = .error (.fault fault) ∧
        diagnostic = .ofProblem fault.problem instruction.line file (some instruction.text) := by
  unfold diagnostic?
  cases instruction.isBlank with
  | true => simp
  | false =>
    cases instruction.encode with
    | ok encoded => simp
    | error failure => cases failure <;> simp [eq_comm]

end Instruction

/-- A word that encodes an instruction: it carries the place and the mnemonic of
the instruction, it has 32 bits, and so have its fields. -/
structure Encoded.Represents (encoded : Encoded) (instruction : Instruction) : Prop where
  encodes : instruction.encode = .ok encoded
  line : encoded.line = instruction.line
  text : encoded.text = instruction.text
  mnemonic : encoded.mnemonic = instruction.mnemonic
  nonnegative : 0 ≤ encoded.word
  small : encoded.word < 2 ^ 32
  filled : Field.totalWidth encoded.fields = 32

/-- An error that reports the fault of an instruction: it carries the place of
the instruction, and the kind, the wording and the hint of the fault. -/
structure Diagnostic.Reports (diagnostic : Diagnostic) (file : Option Text)
    (instruction : Instruction) (fault : Fault) : Prop where
  fails : instruction.encode = .error (.fault fault)
  severity : diagnostic.severity = "error".toList
  file : diagnostic.file = file
  line : diagnostic.line = instruction.line
  text : diagnostic.text = some instruction.text
  kind : diagnostic.kind = some fault.kind.name
  message : diagnostic.message = fault.message
  hint : diagnostic.hint = fault.hint

/-- What an instruction is encoded as represents it. The line, the text and the
mnemonic are taken over, and the fields of any instruction of the set fill a
word. -/
theorem Instruction.represents_of_encode (instruction : Instruction) (encoded : Encoded)
    (success : instruction.encode = .ok encoded) : encoded.Represents instruction := by
  obtain ⟨entry, _, operands, _, _, rfl⟩ := (instruction.encode_eq_ok_iff encoded).mp success
  have small : (Field.concatenate (operands.fieldsIn entry.spec) : Int) < Bits.modulus Word.width :=
    Int.ofNat_lt.mpr (operands.concatenate_fieldsIn_lt entry.spec)
  exact {
    encodes := success
    line := rfl
    text := rfl
    mnemonic := rfl
    nonnegative := Int.natCast_nonneg _
    small := small
    filled := (Span.totalWidth_holding _ _).trans entry.spec.layout.totalWidth_spans }

namespace Program

/-- A program whose lines are numbered from one. -/
def Numbered (program : Program) : Prop :=
  ∀ (index : Nat) (instruction : Instruction), program[index]? = some instruction →
    instruction.line = some (index + 1 : Int)

/-- The line at a place is split under the number of its place, counted from
one. -/
theorem getElem?_ofText (text : Text) (index : Nat) :
    (ofText text)[index]? =
      (Text.lines text)[index]?.map (Instruction.ofLine (some (index + 1 : Int))) := by
  rw [ofText, List.getElem?_mapIdx]
  rfl

/-- The lines of a text are numbered from one. -/
theorem numbered_ofText (text : Text) : (ofText text).Numbered := by
  intro index instruction found
  rw [getElem?_ofText, Option.map_eq_some_iff] at found
  obtain ⟨raw, _, rfl⟩ := found
  rfl

namespace Numbered

variable {program : Program}

/-- What is selected from a numbered program under the numbers of its lines has
strictly increasing numbers. Two lines that are selected stand at two places,
and their numbers tell the order of the places. -/
theorem pairwise_filterMap {β : Type} (numbered : program.Numbered)
    (select : Instruction → Option β) (line : β → Option Int)
    (kept : ∀ instruction value, select instruction = some value →
      line value = instruction.line) :
    ((program.filterMap select).map line).Pairwise (· < ·) := by
  rw [List.pairwise_map, List.pairwise_filterMap, List.pairwise_iff_getElem]
  intro first second firstInside secondInside earlier value found other foundOther
  rw [kept _ _ found, kept _ _ foundOther,
    numbered first _ (List.getElem?_eq_getElem firstInside),
    numbered second _ (List.getElem?_eq_getElem secondInside), Option.some_lt_some]
  omega

/-- Lines of a numbered program with the same number are the same line, because
the number tells the place. -/
theorem eq_of_line_eq (numbered : program.Numbered) (left right : Instruction)
    (leftMember : left ∈ program) (rightMember : right ∈ program)
    (same : left.line = right.line) : left = right := by
  obtain ⟨first, foundLeft⟩ := List.mem_iff_getElem?.mp leftMember
  obtain ⟨second, foundRight⟩ := List.mem_iff_getElem?.mp rightMember
  rw [numbered first left foundLeft, numbered second right foundRight, Option.some.injEq] at same
  obtain rfl : first = second := by omega
  exact Option.some.inj (foundLeft.symm.trans foundRight)

/-- A line of a numbered program stands at the place that its number tells. So a
number leads back to its line. -/
theorem exists_index (numbered : program.Numbered) (instruction : Instruction)
    (member : instruction ∈ program) :
    ∃ index : Nat, program[index]? = some instruction ∧
      instruction.line = some (index + 1 : Int) := by
  obtain ⟨index, found⟩ := List.mem_iff_getElem?.mp member
  exact ⟨index, found, numbered index instruction found⟩

end Numbered

/-- A program is assembled exactly when no line exceeds the digit limit, and
then to what each line contributes on its own. If some line exceeds the limit,
the first such line ends the assembly without a result. -/
theorem assemble_eq_ok_iff (file : Option Text) (program : Program) (assembly : Assembly) :
    (assemble file program).result = .ok assembly ↔
      program.WithinLimit ∧ assembly = program.isolated file := by
  constructor
  · intro success
    rcases withinLimit_or_exists_first program with
      within | ⟨before, instruction, after, limit, rfl, within, solid, failure⟩
    · rw [assemble_of_withinLimit file program within] at success
      exact ⟨within, (Except.ok.inj success).symm⟩
    · rw [assemble_of_limit file before after instruction limit within solid failure] at success
      contradiction
  · rintro ⟨within, rfl⟩
    exact assemble_of_withinLimit file program within

/-- A line that is not blank and does not exceed the limit is encoded or
reported. Its encoding has three ways of ending, and the third is the limit. -/
theorem encoded_or_reported (file : Option Text) (program : Program)
    (within : program.WithinLimit) (instruction : Instruction) (member : instruction ∈ program)
    (solid : instruction.isBlank = false) :
    (∃ encoded, instruction.word? = some encoded) ∨
      ∃ diagnostic, instruction.diagnostic? file = some diagnostic := by
  cases encoding : instruction.encode with
  | ok encoded =>
    exact Or.inl ⟨encoded, (instruction.word?_eq_some_iff encoded).mpr ⟨solid, encoding⟩⟩
  | error failure =>
    cases failure with
    | fault fault =>
      exact Or.inr
        ⟨_, (instruction.diagnostic?_eq_some_iff file _).mpr ⟨solid, fault, encoding, rfl⟩⟩
    | limit limit =>
      have exceeds := instruction.encode_eq_limit_iff.mp ⟨limit, encoding⟩
      exact absurd exceeds (within instruction member solid)

variable {file : Option Text} {program : Program} {assembly : Assembly}

/-- Every word of an assembly represents a line of the program that is not
blank. The words are selected from the lines, so each is traced back to one. -/
theorem exists_of_mem_words (assembled : (assemble file program).result = .ok assembly)
    (encoded : Encoded) (member : encoded ∈ assembly.words) :
    ∃ instruction ∈ program, instruction.isBlank = false ∧ encoded.Represents instruction := by
  obtain ⟨_, rfl⟩ := (assemble_eq_ok_iff file program assembly).mp assembled
  obtain ⟨instruction, belongs, found⟩ := List.mem_filterMap.mp member
  obtain ⟨solid, success⟩ := (instruction.word?_eq_some_iff encoded).mp found
  exact ⟨instruction, belongs, solid, instruction.represents_of_encode encoded success⟩

/-- Every diagnostic of an assembly reports a line of the program that is not
blank. As a selection from the lines it comes from one, and it holds all that
the fault of the line says. -/
theorem exists_of_mem_diagnostics (assembled : (assemble file program).result = .ok assembly)
    (diagnostic : Diagnostic) (member : diagnostic ∈ assembly.diagnostics) :
    ∃ instruction ∈ program, instruction.isBlank = false ∧
      ∃ fault, diagnostic.Reports file instruction fault := by
  obtain ⟨_, rfl⟩ := (assemble_eq_ok_iff file program assembly).mp assembled
  obtain ⟨instruction, belongs, found⟩ := List.mem_filterMap.mp member
  obtain ⟨solid, fault, failure, rfl⟩ := (instruction.diagnostic?_eq_some_iff file _).mp found
  exact ⟨instruction, belongs, solid, fault, failure, rfl, rfl, rfl, rfl, rfl, rfl, rfl⟩

/-- The numbers of the words of a numbered program strictly increase, since a
word carries the number of its line. -/
theorem pairwise_words (numbered : program.Numbered)
    (assembled : (assemble file program).result = .ok assembly) :
    (assembly.words.map Encoded.line).Pairwise (· < ·) := by
  obtain ⟨_, rfl⟩ := (assemble_eq_ok_iff file program assembly).mp assembled
  apply numbered.pairwise_filterMap
  intro instruction encoded found
  obtain ⟨_, success⟩ := (instruction.word?_eq_some_iff encoded).mp found
  exact (instruction.represents_of_encode encoded success).line

/-- The numbers of the diagnostics of a numbered program strictly increase,
since a diagnostic carries the number of its line. -/
theorem pairwise_diagnostics (numbered : program.Numbered)
    (assembled : (assemble file program).result = .ok assembly) :
    (assembly.diagnostics.map Diagnostic.line).Pairwise (· < ·) := by
  obtain ⟨_, rfl⟩ := (assemble_eq_ok_iff file program assembly).mp assembled
  apply numbered.pairwise_filterMap
  intro instruction diagnostic found
  obtain ⟨_, fault, _, rfl⟩ := (instruction.diagnostic?_eq_some_iff file _).mp found
  rfl

/-- No line of a numbered program has both a word and a diagnostic: it would be
encoded and fail. A number that both had would be that of one line, since
numbers are not given twice. -/
theorem disjoint_lines (numbered : program.Numbered)
    (assembled : (assemble file program).result = .ok assembly) :
    (assembly.words.map Encoded.line).Disjoint (assembly.diagnostics.map Diagnostic.line) := by
  intro line inWords inDiagnostics
  obtain ⟨encoded, word, sameWord⟩ := List.mem_map.mp inWords
  obtain ⟨diagnostic, report, sameReport⟩ := List.mem_map.mp inDiagnostics
  obtain ⟨left, leftMember, _, represents⟩ := exists_of_mem_words assembled encoded word
  obtain ⟨right, rightMember, _, fault, reports⟩ :=
    exists_of_mem_diagnostics assembled diagnostic report
  have sameLine : left.line = right.line := by
    rw [← represents.line, ← reports.line, sameWord, sameReport]
  obtain rfl := numbered.eq_of_line_eq left right leftMember rightMember sameLine
  have impossible := represents.encodes.symm.trans reports.fails
  contradiction

/-- The numbers of words and diagnostics are those of the lines that are not
blank. A word and a diagnostic are traced back to such a line; conversely such a
line is encoded or reported, under its own number. -/
theorem mem_lines_iff (assembled : (assemble file program).result = .ok assembly)
    (line : Option Int) :
    line ∈ assembly.words.map Encoded.line ∨ line ∈ assembly.diagnostics.map Diagnostic.line ↔
      ∃ instruction ∈ program, instruction.isBlank = false ∧ instruction.line = line := by
  constructor
  · rintro (inWords | inDiagnostics)
    · obtain ⟨encoded, word, rfl⟩ := List.mem_map.mp inWords
      obtain ⟨instruction, member, solid, represents⟩ :=
        exists_of_mem_words assembled encoded word
      exact ⟨instruction, member, solid, represents.line.symm⟩
    · obtain ⟨diagnostic, report, rfl⟩ := List.mem_map.mp inDiagnostics
      obtain ⟨instruction, member, solid, _, reports⟩ :=
        exists_of_mem_diagnostics assembled diagnostic report
      exact ⟨instruction, member, solid, reports.line.symm⟩
  · rintro ⟨instruction, member, solid, rfl⟩
    obtain ⟨within, rfl⟩ := (assemble_eq_ok_iff file program assembly).mp assembled
    rcases encoded_or_reported file program within instruction member solid with
      ⟨encoded, found⟩ | ⟨diagnostic, found⟩
    · obtain ⟨_, success⟩ := (instruction.word?_eq_some_iff encoded).mp found
      refine Or.inl (List.mem_map.mpr ⟨encoded, List.mem_filterMap.mpr ⟨_, member, found⟩, ?_⟩)
      exact (instruction.represents_of_encode encoded success).line
    · obtain ⟨_, fault, _, rfl⟩ := (instruction.diagnostic?_eq_some_iff file _).mp found
      exact Or.inr (List.mem_map.mpr ⟨_, List.mem_filterMap.mpr ⟨_, member, found⟩, rfl⟩)

end Program

/-- No line of a text is lost or counted twice. If a text is assembled, the
numbers of its words and of its diagnostics each strictly increase, no number is
in both, and together they are the numbers of the lines that are not blank. Each
word represents, and each diagnostic reports, the line at the place that its
number tells.

Proof: words and diagnostics are two selections from the numbered lines. Order
is that of the lines, a line has one encoding and so is not in both, and every
line that is not blank is in one of them; the number of a line leads back to its
place. -/
theorem assemble_accounts_for_lines (file : Option Text) (text : Text) (assembly : Assembly)
    (assembled : ((Program.ofText text).assemble file).result = .ok assembly) :
    (assembly.words.map Encoded.line).Pairwise (· < ·) ∧
    (assembly.diagnostics.map Diagnostic.line).Pairwise (· < ·) ∧
    (assembly.words.map Encoded.line).Disjoint (assembly.diagnostics.map Diagnostic.line) ∧
    (∀ line, line ∈ assembly.words.map Encoded.line ∨
        line ∈ assembly.diagnostics.map Diagnostic.line ↔
      ∃ instruction ∈ Program.ofText text, instruction.isBlank = false ∧
        instruction.line = line) ∧
    (∀ encoded ∈ assembly.words, ∃ (index : Nat) (instruction : Instruction),
      (Program.ofText text)[index]? = some instruction ∧
        encoded.line = some (index + 1 : Int) ∧ encoded.Represents instruction) ∧
    (∀ diagnostic ∈ assembly.diagnostics, ∃ (index : Nat) (instruction : Instruction),
      (Program.ofText text)[index]? = some instruction ∧
        diagnostic.line = some (index + 1 : Int) ∧
        ∃ fault, diagnostic.Reports file instruction fault) := by
  have numbered := Program.numbered_ofText text
  refine ⟨Program.pairwise_words numbered assembled,
    Program.pairwise_diagnostics numbered assembled, Program.disjoint_lines numbered assembled,
    Program.mem_lines_iff assembled, ?_, ?_⟩
  · intro encoded word
    obtain ⟨instruction, member, _, represents⟩ :=
      Program.exists_of_mem_words assembled encoded word
    obtain ⟨index, found, line⟩ := numbered.exists_index instruction member
    exact ⟨index, instruction, found, represents.line.trans line, represents⟩
  · intro diagnostic report
    obtain ⟨instruction, member, _, fault, reports⟩ :=
      Program.exists_of_mem_diagnostics assembled diagnostic report
    obtain ⟨index, found, line⟩ := numbered.exists_index instruction member
    exact ⟨index, instruction, found, reports.line.trans line, fault, reports⟩

/-- In a text of a good, a blank and an unknown line and a last line without a
line feed, the unknown line is accounted for and the blank line is not. -/
theorem assemble_accounts_for_lines_mixed :
    ∃ assembly, ((Program.ofText "nop\n; note\nfoo R1\r\njr R2".toList).assemble none).result =
        .ok assembly ∧
      (some 3 ∈ assembly.words.map Encoded.line ∨
        some 3 ∈ assembly.diagnostics.map Diagnostic.line) ∧
      ¬(some 2 ∈ assembly.words.map Encoded.line ∨
        some 2 ∈ assembly.diagnostics.map Diagnostic.line) := by
  obtain ⟨assembly, assembled⟩ : ∃ assembly,
      ((Program.ofText "nop\n; note\nfoo R1\r\njr R2".toList).assemble none).result =
        .ok assembly := ⟨_, rfl⟩
  obtain ⟨_, _, _, covered, _⟩ := assemble_accounts_for_lines none _ assembly assembled
  refine ⟨assembly, assembled, (covered (some 3)).mpr ?_, mt (covered (some 2)).mp ?_⟩
  · decide +kernel
  · decide +kernel

end LineAssembler
