import LineAssembler.Listing
import LineAssembler.Proofs.Packing
import Mathlib.Data.List.Induction
import Mathlib.Data.List.SplitLengths

/-!
# Listings of words that their fields cover

A word is shown in groups of bits, one for each of its fields. Fields have positive
widths, so the groups exist as soon as the widths add up to the width of a word. A listing
looks words and diagnostics up by line number, through two indexes: an index of words holds
the last word of each line number, an index of diagnostics all diagnostics of it in order.
-/

namespace LineAssembler

/-- Groups of positive widths are the stretches of these lengths, one behind the
other from a position on, and they end where the widths add up to. -/
theorem Text.groupsFrom_of_positive (text : Text) (position : Nat) (widths : List Int)
    (positive : ∀ width ∈ widths, 0 < width) :
    groupsFrom text position widths =
      .ok ((widths.map Int.toNat).splitLengths (text.drop position),
        position + (widths.map Int.toNat).sum) := by
  induction widths generalizing position with
  | nil => rfl
  | cons width widths inductionHypothesis =>
    have first : ¬width ≤ 0 := Int.not_le.mpr (positive width List.mem_cons_self)
    have later := inductionHypothesis (position + width.toNat)
      (fun other member => positive other (List.mem_cons_of_mem width member))
    rw [groupsFrom, if_neg first, later, List.map_cons, List.splitLengths_cons, List.drop_drop,
      List.sum_cons, Nat.add_assoc]
    rfl

/-- Positive widths are refused only if they do not cover the text. The fault of
widths cannot arise, so cutting is splitting into lengths. -/
theorem Text.group_of_positive (separator : Text) (widths : List Int) (text : Text)
    (positive : ∀ width ∈ widths, 0 < width) :
    group separator widths text =
      if (widths.map Int.toNat).sum = text.length then
        .ok (separator.intercalate ((widths.map Int.toNat).splitLengths text))
      else .error .notCovering := by
  rw [group, groupsFrom_of_positive text 0 widths positive]
  simp only [Nat.zero_add, List.drop_zero]

/-- The bits of a word are grouped along the widths of its fields, if these
cover a word, and otherwise they are not. -/
theorem Encoded.groupedBits_eq (separator : Text) (encoded : Encoded) :
    encoded.groupedBits separator =
      if Field.totalWidth encoded.fields = 32 then
        .ok (separator.intercalate
          ((encoded.fields.map Field.width).splitLengths (Word.binary encoded.word)))
      else .error .notCovering := by
  have positive : ∀ width ∈ encoded.fields.map fun field => (field.width : Int), 0 < width := by
    intro width member
    obtain ⟨field, _, rfl⟩ := List.mem_map.mp member
    exact Int.natCast_pos.mpr field.width_pos
  have widths : (encoded.fields.map fun field => (field.width : Int)).map Int.toNat =
      encoded.fields.map Field.width := by
    rw [List.map_map]
    rfl
  have length : (Word.binary encoded.word).length = 32 := Numeral.length_fixed 2 32 _
  rw [groupedBits, Text.group_of_positive separator _ _ positive, widths, length,
    Field.totalWidth_eq_sum]

/-- A word that its fields cover can be shown. -/
theorem Encoded.exists_render (encoded : Encoded)
    (filled : Field.totalWidth encoded.fields = 32) : ∃ shown, encoded.render = .ok shown := by
  rw [render, groupedBits_eq, if_pos filled]
  exact ⟨_, rfl⟩

namespace Listing

/-! ## What the indexes hold -/

/-- A word that comes last is put into the index last. -/
theorem wordsByLine_append (words : List Encoded) (last : Encoded) :
    wordsByLine (words ++ [last]) = (wordsByLine words).insert last.line last := by
  simp [wordsByLine]

/-- The word that is found for a line number is the last one that has the
number. The induction takes words off the end, as the index was filled. -/
theorem getElem?_wordsByLine (words : List Encoded) (line : Option Int) :
    (wordsByLine words)[line]? = (words.filter (·.line = line)).getLast? := by
  induction words using List.reverseRecOn with
  | nil => simp [wordsByLine]
  | append_singleton words last inductionHypothesis =>
    rw [wordsByLine_append, Std.HashMap.getElem?_insert, List.filter_append]
    by_cases same : last.line = line
    · simp [same]
    · simp [same, inductionHypothesis]

/-- A diagnostic that comes last is put behind those that have its line number.
So the diagnostics of a line are kept in their order. -/
theorem diagnosticsByLine_append (diagnostics : List Diagnostic) (last : Diagnostic) :
    diagnosticsByLine (diagnostics ++ [last]) =
      (diagnosticsByLine diagnostics).insert last.line
        ((diagnosticsByLine diagnostics).getD last.line [] ++ [last]) := by
  simp [diagnosticsByLine]

/-- The diagnostics that are found for a line number are those that have the
number, in order. -/
theorem getD_diagnosticsByLine (diagnostics : List Diagnostic) (line : Option Int) :
    (diagnosticsByLine diagnostics).getD line [] = diagnostics.filter (·.line = line) := by
  induction diagnostics using List.reverseRecOn with
  | nil => simp [diagnosticsByLine]
  | append_singleton diagnostics last inductionHypothesis =>
    rw [diagnosticsByLine_append, Std.HashMap.getD_insert, List.filter_append]
    by_cases same : last.line = line
    · simp [same, inductionHypothesis]
    · simp [same, inductionHypothesis]

/-! ## Lines one after the other -/

/-- If every line of a program can be shown, the listing is their concatenation.
By induction on the lines; a rule that holds of each line and its part is
carried along. -/
theorem exists_entries (rule : Instruction → List Text → Prop)
    (words : Std.HashMap (Option Int) Encoded)
    (diagnostics : Std.HashMap (Option Int) (List Diagnostic)) (program : Program)
    (shown : ∀ instruction ∈ program,
      ∃ lines, entry words diagnostics instruction = .ok lines ∧ rule instruction lines) :
    ∃ parts, entries words diagnostics program = .ok parts.flatten ∧
      List.Forall₂ rule program parts := by
  induction program with
  | nil => exact ⟨[], rfl, .nil⟩
  | cons instruction rest inductionHypothesis =>
    obtain ⟨lines, first, holds⟩ := shown instruction List.mem_cons_self
    obtain ⟨parts, later, all⟩ := inductionHypothesis
      fun other member => shown other (List.mem_cons_of_mem instruction member)
    refine ⟨lines :: parts, ?_, .cons holds all⟩
    rw [entries, first, later]
    rfl

end Listing

end LineAssembler
