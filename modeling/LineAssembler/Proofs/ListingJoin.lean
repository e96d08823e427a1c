import LineAssembler.Proofs.WordListing

/-!
# Listings as a join of three lists

A listing is made from a program, words and diagnostics that may come from anywhere: line
numbers may be missing, may occur more than once and may belong to no line of the program. It
goes through an index of words, in which a later word takes the place of an earlier one, and an
index of diagnostics, in which a later diagnostic stands behind an earlier one.

The same listing is described here without an index: each line by itself selects from the
words the last one that has its number, and from the diagnostics all that have it. Two missing
numbers are equal. Whether a listing fails is described in the same way, by the words that are
selected: a word that is never selected may be as wide as it likes.
-/

namespace LineAssembler

/-- A listing calls a diagnostic by its kind, unless that is missing or empty,
and else by its severity. -/
theorem Diagnostic.label_eq (diagnostic : Diagnostic) :
    diagnostic.label = (diagnostic.kind.filter (!·.isEmpty)).getD diagnostic.severity := by
  unfold label
  cases diagnostic.kind with
  | none => rfl
  | some kind =>
    cases kind with
    | nil => rfl
    | cons c rest => rfl

namespace Listing

/-! ## What a line selects -/

/-- The last word that has a line number. -/
def lastWord? (words : List Encoded) (line : Option Int) : Option Encoded :=
  (words.filter (·.line = line)).getLast?

/-- A word as it is shown: its hexadecimal digits, and its bits in stretches of
the widths of its fields. -/
def shownWord (encoded : Encoded) : Text :=
  "    -> ".toList ++ (Word.markedHexadecimal encoded.word ++ "  ".toList ++
    [' '].intercalate ((encoded.fields.map Field.width).splitLengths (Word.binary encoded.word)))

/-- A diagnostic as it is shown: its kind or else its severity, and its message. -/
def shownDiagnostic (diagnostic : Diagnostic) : Text :=
  "    !! ".toList ++ (diagnostic.kind.filter (!·.isEmpty)).getD diagnostic.severity ++
    ": ".toList ++ diagnostic.message

/-- A line with what it selects: its text and, unless it is blank, the last word
and all diagnostics that have its number. -/
def joined (words : List Encoded) (diagnostics : List Diagnostic) (instruction : Instruction) :
    List Text :=
  if instruction.isBlank then [instruction.text]
  else
    instruction.text :: ((lastWord? words instruction.line).map shownWord).toList ++
      (diagnostics.filter (·.line = instruction.line)).map shownDiagnostic

/-- A line is covered unless it selects a word whose fields are not as wide as a
word. -/
def Covered (words : List Encoded) (instruction : Instruction) : Prop :=
  instruction.isBlank = false →
    ∀ encoded ∈ lastWord? words instruction.line, Field.totalWidth encoded.fields = 32

/-- Whether a line is covered is seen from the word that it selects. -/
instance (words : List Encoded) (instruction : Instruction) :
    Decidable (Covered words instruction) :=
  inferInstanceAs (Decidable (instruction.isBlank = false →
    ∀ encoded ∈ lastWord? words instruction.line, Field.totalWidth encoded.fields = 32))

/-! ## One line -/

/-- The line for a word that was found fails exactly when the fields do not
cover the word. Where no word was found there is no line, and nothing can fail. -/
theorem wordLine_eq (found : Option Encoded) :
    wordLine found =
      if ∀ encoded ∈ found, Field.totalWidth encoded.fields = 32 then
        .ok (found.map shownWord).toList
      else .error .notCovering := by
  cases found with
  | none => rfl
  | some encoded =>
    simp only [wordLine, Encoded.render, Encoded.groupedBits_eq, Option.mem_some_iff, forall_eq']
    by_cases filled : Field.totalWidth encoded.fields = 32
    · simp only [if_pos filled, Except.map]
      rfl
    · simp only [if_neg filled, Except.map]

/-- A line is shown with what it selects, if it is covered, and refused
otherwise. The indexes hold what the line selects from the two lists. -/
theorem entry_eq (words : List Encoded) (diagnostics : List Diagnostic)
    (instruction : Instruction) :
    entry (wordsByLine words) (diagnosticsByLine diagnostics) instruction =
      if Covered words instruction then .ok (joined words diagnostics instruction)
      else .error .notCovering := by
  have labels : diagnosticLine = shownDiagnostic := by
    funext diagnostic
    unfold diagnosticLine shownDiagnostic
    rw [Diagnostic.label_eq]
  rw [entry, getElem?_wordsByLine, getD_diagnosticsByLine, labels, ← lastWord?, wordLine_eq]
  by_cases blank : instruction.isBlank = true
  · simp [Covered, joined, blank]
  · have solid : instruction.isBlank = false := Bool.not_eq_true _ ▸ blank
    simp only [Covered, joined, solid, Bool.false_eq_true, if_false, true_implies]
    split <;> rfl

/-! ## All lines -/

/-- If every line of a program is shown or refused in one way by a rule, the
listing is the concatenation of what is shown, and is refused as soon as one
line is. -/
theorem entries_eq (words : Std.HashMap (Option Int) Encoded)
    (diagnostics : Std.HashMap (Option Int) (List Diagnostic)) (fault : Text.GroupFault)
    (rule : Instruction → Prop) [DecidablePred rule] (shown : Instruction → List Text)
    (each : ∀ instruction, entry words diagnostics instruction =
      if rule instruction then .ok (shown instruction) else .error fault)
    (program : Program) :
    entries words diagnostics program =
      if ∀ instruction ∈ program, rule instruction then .ok (program.flatMap shown)
      else .error fault := by
  induction program with
  | nil => simp [entries]
  | cons instruction rest inductionHypothesis =>
    rw [entries, each instruction]
    by_cases first : rule instruction
    · rw [if_pos first, inductionHypothesis]
      by_cases later : ∀ other ∈ rest, rule other
      · simp [if_pos later, first, Except.map]
      · simp [first, later, Except.map]
    · simp [first]

/-- A listing of words that their fields cover does not fail: whatever a line
selects is one of the words. -/
theorem exists_lines (program : Program) (words : List Encoded) (diagnostics : List Diagnostic)
    (filled : ∀ encoded ∈ words, Field.totalWidth encoded.fields = 32) :
    ∃ lines, Listing.lines program words diagnostics = .ok lines := by
  have covered : ∀ instruction ∈ program, Covered words instruction := by
    intro instruction _ _ encoded found
    exact filled encoded (List.mem_filter.mp (List.mem_of_getLast? found)).1
  have listed := entries_eq _ _ .notCovering (Covered words) (joined words diagnostics)
    (entry_eq words diagnostics) program
  rw [if_pos covered] at listed
  exact ⟨_, listed⟩

/-- A listing is the join of its three lists. It is the concatenation over the
program, in order, of every line with the last word and all diagnostics that
have its number, and it is refused exactly when a line that is not blank selects
a word that its fields do not cover.

Proof: the word in the index at a number is the last of that number in the list,
and the diagnostics there are all of that number in order. With these two
equations an entry speaks of the lists only, and the entries are concatenated up
to the first that fails. -/
theorem lines_eq_join (program : Program) (words : List Encoded) (diagnostics : List Diagnostic) :
    lines program words diagnostics =
      if ∀ instruction ∈ program, Covered words instruction then
        .ok (program.flatMap (joined words diagnostics))
      else .error .notCovering :=
  entries_eq _ _ .notCovering (Covered words) (joined words diagnostics)
    (entry_eq words diagnostics) program

/-- Two words and two diagnostics without a line number belong to a line without
one. The last word is shown, and whether the fields cover the other one does not
matter; both diagnostics are shown, the one with an empty kind by its severity.
The other way round the listing is refused. -/
theorem lines_eq_join_unnumbered :
    lines [⟨"nop".toList, [], none, "nop".toList⟩]
        [⟨1, none, [], [], [⟨4, 1, by decide⟩]⟩, ⟨10, none, [], [], [⟨32, 10, by decide⟩]⟩]
        [⟨"note".toList, "a".toList, none, none, none, some [], none⟩,
          ⟨"note".toList, "b".toList, none, none, none, some "Kind".toList, none⟩] =
      .ok ["nop".toList, "    -> 0x0000000a  00000000000000000000000000001010".toList,
        "    !! note: a".toList, "    !! Kind: b".toList] ∧
    lines [⟨"nop".toList, [], none, "nop".toList⟩]
        [⟨10, none, [], [], [⟨32, 10, by decide⟩]⟩, ⟨1, none, [], [], [⟨4, 1, by decide⟩]⟩] [] =
      .error .notCovering := by
  rw [lines_eq_join, lines_eq_join]
  exact ⟨by decide +kernel, by decide +kernel⟩

end Listing

end LineAssembler
