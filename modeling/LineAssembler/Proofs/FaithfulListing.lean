import LineAssembler.Proofs.LineAccounting
import LineAssembler.Proofs.ListingJoin

/-!
# Listings of assembled texts

A listing is put together from three lists, a program, its words and its diagnostics,
which are joined through two indexes by line number. In a numbered program a line number
belongs to one line. What is joined to a line is then what the line itself contributes,
and the listing of an assembled text is a concatenation over its lines, each shown by
itself.
-/

namespace LineAssembler

/-- No two lines of a numbered program have the same number. So a number found
in an index of the listing is that of one line. -/
theorem Program.Numbered.pairwise_line_ne {program : Program} (numbered : program.Numbered) :
    program.Pairwise fun left right => left.line ≠ right.line := by
  rw [List.pairwise_iff_getElem]
  intro first second firstInside secondInside earlier same
  rw [numbered first _ (List.getElem?_eq_getElem firstInside),
    numbered second _ (List.getElem?_eq_getElem secondInside), Option.some.injEq] at same
  omega

/-- Of what is selected from a numbered program, only what is selected from a
line itself has the number of the line. -/
theorem Program.Numbered.filter_filterMap {β : Type} {program : Program}
    (numbered : program.Numbered) (select : Instruction → Option β) (line : β → Option Int)
    (kept : ∀ instruction value, select instruction = some value →
      line value = instruction.line)
    (instruction : Instruction) (member : instruction ∈ program) :
    (program.filterMap select).filter (line · = instruction.line) =
      (select instruction).toList := by
  have distinct := numbered.pairwise_line_ne
  obtain ⟨before, after, rfl⟩ := List.append_of_mem member
  rw [List.pairwise_append, List.pairwise_cons] at distinct
  obtain ⟨_, ⟨later, _⟩, earlier⟩ := distinct
  have elsewhere : ∀ others : Program, (∀ other ∈ others, other.line ≠ instruction.line) →
      (others.filterMap select).filter (line · = instruction.line) = [] := by
    intro others apart
    rw [List.filter_eq_nil_iff]
    intro value selected
    obtain ⟨other, belongs, found⟩ := List.mem_filterMap.mp selected
    simpa [kept other value found] using apart other belongs
  have here : (select instruction).toList.filter (line · = instruction.line) =
      (select instruction).toList := by
    rw [List.filter_eq_self]
    intro value found
    simpa using kept instruction value (Option.mem_toList.mp found)
  have split : (before ++ instruction :: after).filterMap select =
      before.filterMap select ++ ((select instruction).toList ++ after.filterMap select) := by
    cases found : select instruction <;> simp [found]
  rw [split, List.filter_append, List.filter_append, here,
    elsewhere before fun other belongs => earlier other belongs _ List.mem_cons_self,
    elsewhere after fun other belongs => (later other belongs).symm, List.nil_append,
    List.append_nil]

/-- Every kind of fault has a name. -/
theorem FaultKind.name_ne_nil (kind : FaultKind) : kind.name ≠ [] := by
  cases kind <;> decide

/-- A listing calls a diagnostic by its kind, if that is not empty. -/
theorem Diagnostic.label_of_kind (diagnostic : Diagnostic) (kind : Text)
    (given : diagnostic.kind = some kind) (named : kind ≠ []) : diagnostic.label = kind := by
  obtain ⟨c, rest, rfl⟩ := List.exists_cons_of_ne_nil named
  simp [Diagnostic.label, given]

namespace Listing

/-! ## What is shown of a line -/

/-- What a listing shows of a line that stands by itself: its text and, unless
it is blank, either its word or its fault. -/
inductive Shows (instruction : Instruction) : List Text → Prop where
  | blank (empty : instruction.isBlank = true) : Shows instruction [instruction.text]
  | word (encoded : Encoded) (shown : Text) (solid : instruction.isBlank = false)
    (encodes : instruction.encode = .ok encoded) (rendered : encoded.render = .ok shown) :
    Shows instruction [instruction.text, "    -> ".toList ++ shown]
  | fault (fault : Fault) (solid : instruction.isBlank = false)
    (fails : instruction.encode = .error (.fault fault)) :
    Shows instruction [instruction.text,
      "    !! ".toList ++ fault.kind.name ++ ": ".toList ++ fault.message]

/-- A line is shown as one line of a listing, or as two if it is not blank. A
word takes one line behind the source line, and so does a fault. -/
theorem Shows.length_eq {instruction : Instruction} {lines : List Text}
    (shows : Shows instruction lines) :
    lines.length = 1 + (if instruction.isBlank then 0 else 1) := by
  cases shows with
  | blank empty => simp [empty]
  | word _ _ solid _ _ => simp [solid]
  | fault _ solid _ => simp [solid]

/-- The diagnostic of a fault is shown by the name of its kind. A diagnostic
without a kind would be shown by its severity, but every fault has one and no
kind has an empty name. -/
theorem diagnosticLine_ofProblem (fault : Fault) (line : Option Int) (file text : Option Text) :
    diagnosticLine (.ofProblem fault.problem line file text) =
      "    !! ".toList ++ fault.kind.name ++ ": ".toList ++ fault.message := by
  have label : (Diagnostic.ofProblem fault.problem line file text).label = fault.kind.name :=
    Diagnostic.label_of_kind _ fault.kind.name rfl fault.kind.name_ne_nil
  have message : (Diagnostic.ofProblem fault.problem line file text).message = fault.message := rfl
  unfold diagnosticLine
  rw [label, message]

/-- In a numbered program within the digit limit, the listing shows of each line
what the line contributes itself. -/
theorem exists_entry_shows (file : Option Text) (program : Program)
    (numbered : program.Numbered) (within : program.WithinLimit) (instruction : Instruction)
    (member : instruction ∈ program) :
    ∃ lines, entry (wordsByLine (program.isolated file).words)
        (diagnosticsByLine (program.isolated file).diagnostics) instruction = .ok lines ∧
      Shows instruction lines := by
  have ownWord : (wordsByLine (program.isolated file).words)[instruction.line]? =
      instruction.word? := by
    rw [getElem?_wordsByLine, Program.isolated, numbered.filter_filterMap _ Encoded.line _ _ member]
    · cases instruction.word? <;> rfl
    · intro other encoded found
      obtain ⟨_, success⟩ := (other.word?_eq_some_iff encoded).mp found
      exact (other.represents_of_encode encoded success).line
  have ownDiagnostics : (diagnosticsByLine (program.isolated file).diagnostics).getD
      instruction.line [] = (instruction.diagnostic? file).toList := by
    rw [getD_diagnosticsByLine, Program.isolated]
    refine numbered.filter_filterMap _ Diagnostic.line ?_ _ member
    intro other diagnostic found
    obtain ⟨_, fault, _, rfl⟩ := (other.diagnostic?_eq_some_iff file _).mp found
    rfl
  rw [entry, ownWord, ownDiagnostics]
  by_cases empty : instruction.isBlank = true
  · rw [if_pos empty]
    exact ⟨_, rfl, .blank empty⟩
  · have solid : instruction.isBlank = false := Bool.not_eq_true _ ▸ empty
    rw [if_neg empty]
    cases encoding : instruction.encode with
    | ok encoded =>
      have filled := (instruction.represents_of_encode encoded encoding).filled
      obtain ⟨shown, rendered⟩ := encoded.exists_render filled
      refine ⟨_, ?_, .word encoded shown solid encoding rendered⟩
      simp [Instruction.word?, Instruction.diagnostic?, solid, encoding, wordLine, rendered,
        Except.map]
    | error failure =>
      cases failure with
      | fault fault =>
        refine ⟨_, ?_, .fault fault solid encoding⟩
        simp [Instruction.word?, Instruction.diagnostic?, solid, encoding, wordLine, Except.map,
          diagnosticLine_ofProblem]
      | limit limit =>
        have exceeds := instruction.encode_eq_limit_iff.mp ⟨limit, encoding⟩
        exact absurd exceeds (within instruction member solid)

/-- A listing has a line for every source line and one more for each that is not
blank. By induction along the parts, each of which has one line or two. -/
theorem length_flatten_of_shows (program : Program) (parts : List (List Text))
    (shows : List.Forall₂ Shows program parts) :
    parts.flatten.length = program.length + (program.filter (!·.isBlank)).length := by
  induction shows with
  | nil => rfl
  | @cons instruction lines rest parts first _ inductionHypothesis =>
    rw [List.flatten_cons, List.length_append, inductionHypothesis, first.length_eq,
      List.length_cons, List.filter_cons]
    cases instruction.isBlank <;> simp <;> omega

end Listing

/-- The listing of an assembled program does not fail: the fields of every word
cover it. A word of an assembly represents a line, and its fields fill 32 bits. -/
theorem Program.exists_listing {file : Option Text} {program : Program} {assembly : Assembly}
    (assembled : (program.assemble file).result = .ok assembly) :
    ∃ listing, Listing.lines program assembly.words assembly.diagnostics = .ok listing := by
  apply Listing.exists_lines
  intro encoded member
  obtain ⟨_, _, _, represents⟩ := Program.exists_of_mem_words assembled encoded member
  exact represents.filled

/-- The listing of an assembled text is faithful. It does not fail, and it is
the concatenation over the lines of the text, in order, of the text of each line
and, unless the line is blank, one line that shows the word or the fault of that
very line.

Proof: line numbers are distinct, so the word and the diagnostics found under
the number of a line are its own. The entry of every line is shown, and the
listing concatenates the entries. -/
theorem listing_shows_lines (file : Option Text) (text : Text) (assembly : Assembly)
    (assembled : ((Program.ofText text).assemble file).result = .ok assembly) :
    ∃ parts, Listing.lines (Program.ofText text) assembly.words assembly.diagnostics =
        .ok parts.flatten ∧
      List.Forall₂ Listing.Shows (Program.ofText text) parts ∧
      parts.flatten.length = (Program.ofText text).length +
        ((Program.ofText text).filter (!·.isBlank)).length := by
  obtain ⟨within, rfl⟩ := (Program.assemble_eq_ok_iff file _ assembly).mp assembled
  obtain ⟨parts, listed, shows⟩ := Listing.exists_entries Listing.Shows _ _ (Program.ofText text)
    (Listing.exists_entry_shows file _ (Program.numbered_ofText text) within)
  exact ⟨parts, listed, shows, Listing.length_flatten_of_shows _ parts shows⟩

/-- The listing of a text of a good, a blank, an unknown and again a good line
has the four lines of the text and one more for each but the blank one. -/
theorem listing_shows_lines_mixed :
    ∃ assembly, ((Program.ofText "nop\n; note\nfoo R1\r\njr R2".toList).assemble none).result =
        .ok assembly ∧
      ∃ parts, Listing.lines (Program.ofText "nop\n; note\nfoo R1\r\njr R2".toList) assembly.words
          assembly.diagnostics = .ok parts.flatten ∧
        List.Forall₂ Listing.Shows (Program.ofText "nop\n; note\nfoo R1\r\njr R2".toList) parts ∧
        parts.flatten.length = 7 := by
  obtain ⟨assembly, assembled⟩ : ∃ assembly,
      ((Program.ofText "nop\n; note\nfoo R1\r\njr R2".toList).assemble none).result =
        .ok assembly := ⟨_, rfl⟩
  obtain ⟨parts, listed, shows, counted⟩ := listing_shows_lines none _ assembly assembled
  refine ⟨assembly, assembled, parts, listed, shows, counted.trans ?_⟩
  decide +kernel

end LineAssembler
