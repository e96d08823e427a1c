import LineAssembler.Proofs.InstructionEncoding
import LineAssembler.Proofs.SourceLines

/-!
# The grammar of source lines

A statement is a mnemonic in any ASCII case and, if the instruction takes operands,
blanks and as many operands as its form has, separated by commas. A line is
assembled exactly when its core is a statement between blanks whose immediate is in
range, and its word is the sum of the values that the statement denotes.

The grammar says nothing of how a line is cut, lowered, split or packed. Splitting a
line and the grammar are related in both directions: a statement between blanks is
split into its own mnemonic and operands, and a line that is split into those of an
instruction is a statement of it between blanks.
-/

namespace LineAssembler

namespace SourceLine

/-- The operands of a form as they are written: separated by commas, with blanks
around each. -/
def OperandList (operands : Operands) (form : List Role) (text : Text) : Prop :=
  ∃ pieces : List Text,
    List.Forall₂ (fun role piece => Text.Padded (operands.Means role) piece) form pieces ∧
      text = [','].intercalate pieces

/-- An instruction as it is written, with the operands that it denotes. -/
inductive Statement (entry : InstructionSet.Entry) (operands : Operands) : Text → Prop where
  | bare (mnemonic : Text) (variant : mnemonic.map Char.toLower = entry.mnemonic)
      (alone : entry.spec.form = []) : Statement entry operands mnemonic
  | operated (mnemonic gap list : Text) (variant : mnemonic.map Char.toLower = entry.mnemonic)
      (accompanied : entry.spec.form ≠ []) (blank : Text.AllBlank gap) (separated : gap ≠ [])
      (listed : OperandList operands entry.spec.form list) :
      Statement entry operands (mnemonic ++ gap ++ list)

/-- A text denotes an instruction of the set with operands: it is a statement
between blanks, the slots that it leaves out are zero, and its immediate is in
range. -/
structure Denotes (text : Text) (entry : InstructionSet.Entry) (operands : Operands) : Prop where
  member : entry ∈ InstructionSet.table
  statement : Text.Padded (Statement entry operands) text
  outside : operands.ZeroOutside entry.spec.form
  range : Immediate.InRange operands.imm

/-- A letter of a mnemonic in any case is a word character. Its small letter is
plain, so it is an ASCII character itself, and these are gone through. -/
theorem isWordCharacter_of_variant (mnemonic name : Text)
    (plain : ∀ c ∈ name, Text.isPlain c = true) (variant : mnemonic.map Char.toLower = name) :
    ∀ c ∈ mnemonic, isWordCharacter c = true := by
  intro c member
  have letter : Text.isPlain c.toLower = true :=
    plain _ (variant ▸ List.mem_map_of_mem member)
  exact Text.forall_ascii (fun c => Text.isPlain c.toLower = true → isWordCharacter c = true)
    (by decide +kernel) c (Text.ascii_of_isPlain_toLower c letter) letter

/-- A mnemonic of the instruction set in any case is a word. It is not empty,
because its lower case is not. -/
theorem isWord_of_variant (entry : InstructionSet.Entry) (member : entry ∈ InstructionSet.table)
    (mnemonic : Text) (variant : mnemonic.map Char.toLower = entry.mnemonic) :
    IsWord mnemonic := by
  obtain ⟨nonempty, plain⟩ := InstructionSet.table_plain entry member
  refine ⟨?_, isWordCharacter_of_variant mnemonic entry.mnemonic plain variant⟩
  rintro rfl
  exact nonempty variant.symm

/-- An operand between blanks is what trimming leaves of the text. -/
theorem padded_means_iff (operands : Operands) (role : Role) (text : Text) :
    Text.Padded (operands.Means role) text ↔ operands.Means role (Text.trim text) :=
  Text.padded_iff _ (fun _ means => means.trim) text

/-- There is no comma in an operand between blanks, so the commas of a list are
those that part its operands. -/
theorem not_mem_of_padded (operands : Operands) (role : Role) (piece : Text)
    (padded : Text.Padded (operands.Means role) piece) : ',' ∉ piece := by
  obtain ⟨left, core, right, blankLeft, blankRight, means, rfl⟩ := padded
  have notLeft : ',' ∉ left := Text.not_mem_of_allBlank _ (by decide) left blankLeft
  have notRight : ',' ∉ right := Text.not_mem_of_allBlank _ (by decide) right blankRight
  simp [notLeft, means.not_mem, notRight]

/-- The pieces of an operand list are found by splitting at commas, as no
operand holds one. -/
theorem splitOn_operandList (operands : Operands) (form : List Role) (pieces : List Text)
    (accompanied : form ≠ [])
    (padded : List.Forall₂ (fun role piece => Text.Padded (operands.Means role) piece)
      form pieces) :
    ([','].intercalate pieces).splitOn ',' = pieces := by
  apply List.splitOn_intercalate
  · clear accompanied
    induction padded with
    | nil => simp
    | cons first _ inductionHypothesis =>
      intro piece member
      rcases List.mem_cons.mp member with rfl | later
      · exact not_mem_of_padded operands _ piece first
      · exact inductionHypothesis piece later
  · rintro rfl
    exact accompanied (List.forall₂_nil_right_iff.mp padded)

/-- An operand list is more than blanks: otherwise it would be one piece, an
operand of which trimming leaves nothing. -/
theorem not_allBlank_operandList (operands : Operands) (form : List Role) (pieces : List Text)
    (accompanied : form ≠ [])
    (padded : List.Forall₂ (fun role piece => Text.Padded (operands.Means role) piece)
      form pieces) :
    ¬Text.AllBlank ([','].intercalate pieces) := by
  intro blank
  have whole := splitOn_operandList operands form pieces accompanied padded
  have absent : ',' ∉ [','].intercalate pieces := Text.not_mem_of_allBlank _ (by decide) _ blank
  rw [List.splitOn_eq_singleton absent] at whole
  generalize [','].intercalate pieces = text at blank whole
  obtain rfl := whole
  obtain ⟨role, rest, first, _, _⟩ := List.forall₂_cons_right_iff.mp padded
  have means := (padded_means_iff operands role text).mp first
  exact means.ne_nil ((Text.trim_eq_nil_iff text).mpr blank)

/-- Tokens that are trimmed pieces mean what the pieces denote between blanks.
On the left is what the reading does, and on the right what the grammar says. -/
theorem forall₂_trim_iff (operands : Operands) (form : List Role) (pieces : List Text) :
    List.Forall₂ (fun role token => operands.Means role (Text.trim token)) form
        (pieces.map Text.trim) ↔
      List.Forall₂ (fun role piece => Text.Padded (operands.Means role) piece) form pieces := by
  simp only [List.forall₂_map_right_iff, Text.trim_trim, padded_means_iff]

/-- A line that is a statement between blanks is split into the mnemonic and the
operands of the statement. -/
theorem split_of_statement (entry : InstructionSet.Entry)
    (member : entry ∈ InstructionSet.table) (operands : Operands) (text : Text)
    (padded : Text.Padded (Statement entry operands) text) :
    entry.mnemonic = Text.lower (splitMnemonic text).1 ∧
      List.Forall₂ (fun role token => operands.Means role (Text.trim token)) entry.spec.form
        (splitOperands (splitMnemonic text).2) := by
  obtain ⟨_, plain⟩ := InstructionSet.table_plain entry member
  obtain ⟨left, core, right, blankLeft, blankRight, statement, rfl⟩ := padded
  cases statement with
  | bare mnemonic variant alone =>
    have word := isWord_of_variant entry member core variant
    have split := splitMnemonic_pad left core [] right blankLeft blankRight word.1
      word.solid (by simp)
    rw [List.append_nil] at split
    have none : splitOperands (Text.trim []) = [] := rfl
    rw [split, none, alone]
    exact ⟨((Text.lower_lower_eq_iff core entry.mnemonic plain).mpr variant).symm, .nil⟩
  | operated mnemonic gap list variant accompanied blank separated listed =>
    obtain ⟨pieces, means, rfl⟩ := listed
    have word := isWord_of_variant entry member mnemonic variant
    have head : ∀ c ∈ (gap ++ [','].intercalate pieces).head?, Text.isBlank c = true := by
      obtain ⟨first, rest, rfl⟩ := List.exists_cons_of_ne_nil separated
      intro c found
      have same : first = c := by simpa using found
      exact blank c (by simp [same])
    have split := splitMnemonic_pad left mnemonic (gap ++ [','].intercalate pieces) right blankLeft
      blankRight word.1 word.solid head
    have solid := not_allBlank_operandList operands entry.spec.form pieces accompanied means
    rw [List.append_assoc mnemonic, split, Text.trim_append_left gap _ blank,
      splitOperands_trim _ solid,
      splitOn_operandList operands entry.spec.form pieces accompanied means]
    exact ⟨((Text.lower_lower_eq_iff mnemonic entry.mnemonic plain).mpr variant).symm,
      (forall₂_trim_iff operands entry.spec.form pieces).mpr means⟩

/-- A line whose mnemonic and operands are those of an instruction is a
statement between blanks. -/
theorem statement_of_split (entry : InstructionSet.Entry)
    (member : entry ∈ InstructionSet.table) (operands : Operands) (text : Text)
    (named : entry.mnemonic = Text.lower (splitMnemonic text).1)
    (means : List.Forall₂ (fun role token => operands.Means role (Text.trim token))
      entry.spec.form (splitOperands (splitMnemonic text).2)) :
    Text.Padded (Statement entry operands) text := by
  obtain ⟨_, plain⟩ := InstructionSet.table_plain entry member
  obtain ⟨left, word, rest, right, blankLeft, blankRight, separated, parts, split⟩ :=
    exists_splitMnemonic text
  rw [split] at named means
  have variant := (Text.lower_lower_eq_iff word entry.mnemonic plain).mp named.symm
  by_cases alone : entry.spec.form = []
  · rw [alone, List.forall₂_nil_left_iff, splitOperands_eq_nil_iff, ← Text.trim_eq_nil_iff,
      Text.trim_trim, Text.trim_eq_nil_iff] at means
    refine ⟨left, word, rest ++ right, blankLeft, ?_, .bare word variant alone, ?_⟩
    · simp [means, blankRight]
    · simp [parts]
  · have solid : ¬Text.AllBlank rest := by
      intro blank
      rw [(Text.trim_eq_nil_iff rest).mpr blank] at means
      exact alone (List.forall₂_nil_right_iff.mp means)
    rw [splitOperands_trim rest solid, ← Text.map_trim_splitOn_trim ',' (by decide),
      forall₂_trim_iff] at means
    obtain ⟨gap, tail, blankGap, nonempty, blankTail, restParts⟩ := exists_gap rest separated solid
    have listed : OperandList operands entry.spec.form (Text.trim rest) :=
      ⟨_, means, (List.intercalate_splitOn ',').symm⟩
    refine ⟨left, word ++ gap ++ Text.trim rest, tail ++ right, blankLeft, ?_,
      .operated word gap _ variant alone blankGap nonempty listed, ?_⟩
    · simp [blankTail, blankRight]
    · rw [parts]
      nth_rewrite 1 [restParts]
      simp

/-- A line names an instruction and assigns operands to its form exactly when
its core denotes them. -/
theorem assigned_ofLine_iff (line : Option Int) (raw : Text) (entry : InstructionSet.Entry)
    (member : entry ∈ InstructionSet.table) (operands : Operands) :
    entry.mnemonic = Text.lower (Instruction.ofLine line raw).mnemonic ∧
        operands.Assigned entry.spec.form (Instruction.ofLine line raw).operands ↔
      Denotes (core raw) entry operands := by
  rw [Instruction.ofLine_eq]
  dsimp only
  constructor
  · rintro ⟨named, assigned⟩
    exact ⟨member, statement_of_split entry member operands _ named assigned.meanings,
      assigned.outside, assigned.range⟩
  · intro denotes
    obtain ⟨named, meanings⟩ :=
      split_of_statement entry member operands _ denotes.statement
    exact ⟨named, meanings, denotes.outside, denotes.range⟩

end SourceLine

/-- A line is assembled exactly when its core denotes an instruction with
operands, and its word is the sum of what it denotes.

Proof: encoding succeeds exactly with an entry of the set and the operands that
the tokens mean. What the tokens of a line mean is what its core denotes, and
the fields of such operands concatenate to the sum of the layout. -/
theorem encode_ofLine_iff_denotes (line : Option Int) (raw : Text) (word : Int) :
    (∃ encoded, (Instruction.ofLine line raw).encode = .ok encoded ∧ encoded.word = word) ↔
      ∃ entry operands, SourceLine.Denotes (SourceLine.core raw) entry operands ∧
        word = operands.sum entry.spec := by
  simp only [Instruction.encode_eq_ok_iff]
  constructor
  · rintro ⟨encoded, ⟨entry, member, operands, named, assigned, rfl⟩, rfl⟩
    have denotes :=
      (SourceLine.assigned_ofLine_iff line raw entry member operands).mp ⟨named, assigned⟩
    exact ⟨entry, operands, denotes,
      InstructionSet.concatenate_fieldsIn_of_mem entry member operands assigned.outside⟩
  · rintro ⟨entry, operands, denotes, rfl⟩
    obtain ⟨named, assigned⟩ :=
      (SourceLine.assigned_ofLine_iff line raw entry denotes.member operands).mpr denotes
    exact ⟨_, ⟨entry, denotes.member, operands, named, assigned, rfl⟩,
      InstructionSet.concatenate_fieldsIn_of_mem entry denotes.member operands denotes.outside⟩

end LineAssembler
