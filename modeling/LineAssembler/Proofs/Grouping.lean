import LineAssembler.Proofs.WordListing
import Mathlib.Algebra.BigOperators.Ring.Finset

/-!
# Groups partition a text

A text is cut from left to right, and whether the groups cover it is looked at only when
all of them have been cut. A group that lies beyond the end of the text is cut without
complaint, so nothing is known of the groups before the end of the cutting. There the
position is the sum of the widths: it is the length of the text exactly if no group was cut
short and nothing is left over. A width that is not positive is refused wherever it stands,
also behind the end of the text.
-/

namespace LineAssembler.Text

/-- A partition of a text along widths: one group for each width, as long as it
says, and together the groups are the text. -/
structure Partition (widths : List Int) (text : Text) (groups : List Text) : Prop where
  lengths : groups.map (fun group => (group.length : Int)) = widths
  covers : groups.flatten = text

/-- Faults are told apart by their wordings, so a statement about the wording is
one about the fault. -/
theorem GroupFault.message_injective : Function.Injective GroupFault.message := by
  intro left right same
  cases left <;> cases right
  · rfl
  · exact absurd same (by decide)
  · exact absurd same (by decide)
  · rfl

/-- Refusing with the wording of a fault is refusing for the fault. -/
theorem exists_wording_iff (result : Except GroupFault Text) (fault : GroupFault) :
    (∃ other, result = .error other ∧ other.message = fault.message) ↔ result = .error fault := by
  constructor
  · rintro ⟨other, refused, same⟩
    rw [refused, GroupFault.message_injective same]
  · intro refused
    exact ⟨fault, refused, rfl⟩

/-- A width that is not positive ends the cutting, whatever was cut before it.
By induction on the widths, from every position: the groups cut before are given
up. -/
theorem groupsFrom_of_nonpositive (text : Text) (position : Nat) (widths : List Int)
    (found : ∃ width ∈ widths, width ≤ 0) :
    groupsFrom text position widths = .error .invalidWidth := by
  induction widths generalizing position with
  | nil =>
    obtain ⟨width, member, _⟩ := found
    exact absurd member List.not_mem_nil
  | cons width widths inductionHypothesis =>
    rw [groupsFrom]
    by_cases first : width ≤ 0
    · rw [if_pos first]
    · have later : ∃ other ∈ widths, other ≤ 0 := by
        obtain ⟨other, member, low⟩ := found
        rcases List.mem_cons.mp member with rfl | behind
        · exact absurd low first
        · exact ⟨other, behind, low⟩
      rw [if_neg first, inductionHypothesis _ later]
      rfl

/-- Positive widths are numbers of characters: as natural numbers they lose
nothing. -/
theorem map_natCast_toNat (widths : List Int) (positive : ∀ width ∈ widths, 0 < width) :
    (widths.map Int.toNat).map (fun length : Nat => (length : Int)) = widths := by
  rw [List.map_map]
  conv_rhs => rw [← List.map_id widths]
  apply List.map_congr_left
  intro width member
  exact Int.toNat_of_nonneg (Int.le_of_lt (positive width member))

/-- Positive widths add up to the length of a text exactly if they do so as
numbers of characters. -/
theorem sum_eq_length_iff (widths : List Int) (positive : ∀ width ∈ widths, 0 < width)
    (text : Text) : widths.sum = text.length ↔ (widths.map Int.toNat).sum = text.length := by
  conv_lhs => rw [← map_natCast_toNat widths positive]
  rw [← Nat.cast_list_sum, Nat.cast_inj]

section Group

variable (separator : Text) (widths : List Int) (text : Text)

/-- A width that is not positive is refused, whatever the total. -/
theorem group_of_nonpositive (found : ∃ width ∈ widths, width ≤ 0) :
    group separator widths text = .error .invalidWidth := by
  rw [group, groupsFrom_of_nonpositive text 0 widths found]

example : group [' '] [9, 0] "ab".toList = .error .invalidWidth := by decide

/-- Positive widths that do not add up to the length of the text are refused.
Whether they add up too little or too much makes no difference. -/
theorem group_of_not_covering (positive : ∀ width ∈ widths, 0 < width)
    (uncovered : widths.sum ≠ text.length) :
    group separator widths text = .error .notCovering := by
  rw [group_of_positive separator widths text positive,
    if_neg (mt (sum_eq_length_iff widths positive text).mpr uncovered)]

/-- Positive widths that add up to the length of the text partition it. The
groups are the pieces of these lengths: they have the widths because the text is
long enough, and together they are the text because it is not longer. -/
theorem group_of_covering (positive : ∀ width ∈ widths, 0 < width)
    (covered : widths.sum = text.length) :
    ∃ groups, group separator widths text = .ok (separator.intercalate groups) ∧
      Partition widths text groups := by
  have total := (sum_eq_length_iff widths positive text).mp covered
  refine ⟨(widths.map Int.toNat).splitLengths text, ?_, ?_, ?_⟩
  · rw [group_of_positive separator widths text positive, if_pos total]
  · have lengths := List.map_splitLengths_length text _ total.le
    calc ((widths.map Int.toNat).splitLengths text).map (fun group => (group.length : Int))
        = (((widths.map Int.toNat).splitLengths text).map List.length).map
            (fun length : Nat => (length : Int)) := by rw [List.map_map]; rfl
      _ = widths := by rw [lengths, map_natCast_toNat widths positive]
  · exact List.flatten_splitLengths text _ total.ge

/-- A fault of widths is reported exactly if some width is not positive. With
positive widths there is a partition or the other fault, so this one is left for
the rest. -/
theorem group_eq_invalidWidth_iff :
    group separator widths text = .error .invalidWidth ↔ ∃ width ∈ widths, width ≤ 0 := by
  constructor
  · intro refused
    by_contra absent
    have positive : ∀ width ∈ widths, 0 < width := by simpa using absent
    by_cases covered : widths.sum = text.length
    · obtain ⟨groups, result, _⟩ := group_of_covering separator widths text positive covered
      rw [result] at refused
      contradiction
    · rw [group_of_not_covering separator widths text positive covered] at refused
      cases refused
  · exact group_of_nonpositive separator widths text

/-- A fault of coverage is reported exactly if positive widths do not add up to
the length of the text. -/
theorem group_eq_notCovering_iff :
    group separator widths text = .error .notCovering ↔
      (∀ width ∈ widths, 0 < width) ∧ widths.sum ≠ text.length := by
  constructor
  · intro refused
    have positive : ∀ width ∈ widths, 0 < width := by
      by_contra low
      have found : ∃ width ∈ widths, width ≤ 0 := by simpa using low
      rw [group_of_nonpositive separator widths text found] at refused
      cases refused
    refine ⟨positive, fun covered => ?_⟩
    obtain ⟨groups, result, _⟩ := group_of_covering separator widths text positive covered
    rw [result] at refused
    contradiction
  · rintro ⟨positive, uncovered⟩
    exact group_of_not_covering separator widths text positive uncovered

end Group

/-- Grouping partitions a text. A width that is not positive is refused whatever
the total, and positive widths exactly if they do not add up to the length of
the text; otherwise the result is the groups of a partition, with the separator
between neighbours.

Proof: the wordings tell the two faults apart. A width that is not positive ends
the cutting before the total is looked at; with positive widths, cutting is
splitting into lengths, and the total decides. -/
theorem group_partitions (separator : Text) (widths : List Int) (text : Text) :
    ((∃ fault, group separator widths text = .error fault ∧
        fault.message = "ancho de grupo inválido".toList) ↔ ∃ width ∈ widths, width ≤ 0) ∧
    ((∃ fault, group separator widths text = .error fault ∧
        fault.message = "los anchos no cubren la cadena completa".toList) ↔
      (∀ width ∈ widths, 0 < width) ∧ widths.sum ≠ text.length) ∧
    ((∀ width ∈ widths, 0 < width) → widths.sum = text.length →
      ∃ groups, group separator widths text = .ok (separator.intercalate groups) ∧
        Partition widths text groups) :=
  ⟨(exists_wording_iff _ .invalidWidth).trans (group_eq_invalidWidth_iff separator widths text),
    (exists_wording_iff _ .notCovering).trans (group_eq_notCovering_iff separator widths text),
    group_of_covering separator widths text⟩

/-- Five characters are cut into groups of two, one and two. -/
theorem group_partitions_five :
    (∀ width ∈ [2, 1, 2], (0 : Int) < width) ∧ [2, 1, 2].sum = ("10110".toList.length : Int) ∧
      ∃ groups, group [' '] [2, 1, 2] "10110".toList = .ok ([' '].intercalate groups) ∧
        Partition [2, 1, 2] "10110".toList groups :=
  ⟨by decide, by decide, (group_partitions [' '] [2, 1, 2] "10110".toList).2.2 (by decide)
    (by decide)⟩

end LineAssembler.Text
