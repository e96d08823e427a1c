import LineAssembler.Proofs.SourceLines

/-!
# What does not change an instruction

A comment behind a line, a label in front of it, carriage returns anywhere in it and
blanks around it leave the instruction of the line alone, also where there is none. The
instruction is a function of the trimmed core of a line, so each law compares two cores:
the first three leave the core as it is, and blanks around the line stay around the core.

A comment hides whatever it holds, so a colon in it is no label; a label hides nothing
behind it, so a line that has one already cannot be given another.
-/

namespace LineAssembler

/-- Two lines hold the same instruction, wherever they stand and however they
are written. -/
structure Instruction.Agrees (left right : Instruction) : Prop where
  mnemonic : left.mnemonic = right.mnemonic
  operands : left.operands = right.operands

/-- Lines with the same core, up to blanks around it, hold the same instruction.
All that a line is split into comes from its core, which is trimmed first. -/
theorem Instruction.agrees_ofLine (left right : Text)
    (same : Text.trim (SourceLine.core left) = Text.trim (SourceLine.core right))
    (line other : Option Int) : (ofLine line left).Agrees (ofLine other right) := by
  have split := SourceLine.splitMnemonic_congr _ _ same
  constructor
  · rw [mnemonic_ofLine, mnemonic_ofLine, split]
  · rw [operands_ofLine, operands_ofLine, split]

namespace Text

/-- A text with carriage returns inserted at any places. -/
inductive WithReturns : Text → Text → Prop where
  | nil : WithReturns [] []
  | kept (c : Char) {text longer : Text} (rest : WithReturns text longer) :
      WithReturns (c :: text) (c :: longer)
  | inserted {text longer : Text} (rest : WithReturns text longer) :
      WithReturns text ('\r' :: longer)

/-- No carriage return need be inserted. -/
theorem WithReturns.refl (text : Text) : WithReturns text text := by
  induction text with
  | nil => exact .nil
  | cons c rest inductionHypothesis => exact .kept c inductionHypothesis

/-- Inserted carriage returns are deleted again, and none of them starts a
comment. The induction is on how they were inserted; at a semicolon both texts
end. -/
theorem WithReturns.filter_before {text longer : Text} (inserted : WithReturns text longer) :
    (before ';' longer).filter (· != '\r') = (before ';' text).filter (· != '\r') := by
  induction inserted with
  | nil => rfl
  | kept c _ inductionHypothesis =>
    by_cases comment : c = ';'
    · simp [before, comment]
    · simp only [before] at inductionHypothesis
      simp [before, comment, List.filter_cons, inductionHypothesis]
  | inserted _ inductionHypothesis =>
    simp only [before] at inductionHypothesis
    simp [before, inductionHypothesis]

end Text

namespace SourceLine

/-- A comment behind a line is no part of its core, also behind another comment. -/
theorem core_append_comment (text comment : Text) : core (text ++ ';' :: comment) = core text := by
  rw [core, core, Text.before_append_mark]

/-- A label in front of a line without one is no part of its core. It holds no
semicolon, so the comment starts where it did, and its colon is the first of the
line once the carriage returns are deleted. -/
theorem core_append_label (label text : Text) (closed : ':' ∉ label) (uncommented : ';' ∉ label)
    (unlabelled : ':' ∉ Text.before ';' text) : core (label ++ ':' :: text) = core text := by
  have cut : Text.before ';' (label ++ ':' :: text) = label ++ ':' :: Text.before ';' text := by
    rw [Text.before_append_of_not_mem _ _ _ uncommented]
    simp [Text.before]
  have unclosed : ':' ∉ label.filter (· != '\r') := fun member =>
    closed (List.mem_filter.mp member).1
  have unmarked : ':' ∉ (Text.before ';' text).filter (· != '\r') := fun member =>
    unlabelled (List.mem_filter.mp member).1
  have parts : (label ++ ':' :: Text.before ';' text).filter (· != '\r') =
      label.filter (· != '\r') ++ ':' :: (Text.before ';' text).filter (· != '\r') := by
    rw [List.filter_append, List.filter_cons_of_pos (by decide)]
  rw [core, core, cut, parts, afterLabel, afterLabel, if_pos (by simp), if_neg unmarked,
    Text.after_append_cons _ _ _ unclosed]

/-- Carriage returns are no part of the core of a line. -/
theorem core_withReturns (text longer : Text) (inserted : Text.WithReturns text longer) :
    core longer = core text := by
  rw [core, core, inserted.filter_before]

/-- Blanks around a line are blanks around its core. Those in front stay in
front of whatever comment there is; those behind are blanks before the comment,
or are cut off with it. -/
theorem trim_core_pad (left text right : Text) (blankLeft : Text.AllBlank left)
    (blankRight : Text.AllBlank right) :
    Text.trim (core (left ++ text ++ right)) = Text.trim (core text) := by
  have notLeft : ';' ∉ left := Text.not_mem_of_allBlank _ (by decide) left blankLeft
  obtain ⟨ending, blankEnding, cut⟩ :=
    Text.exists_before_append ';' (by decide) text right blankRight
  rw [core, core, List.append_assoc, Text.before_append_of_not_mem _ _ _ notLeft, cut,
    ← List.append_assoc, List.filter_append, List.filter_append]
  exact trim_afterLabel_pad _ _ _ (allBlank_filter left blankLeft _)
    (allBlank_filter ending blankEnding _)

end SourceLine

/-- Comments, labels, carriage returns and blanks around a line never change its
instruction, under whatever numbers the lines stand.

Proof: an instruction depends on the core of its line up to blanks around it,
and none of the four changes reaches the core. -/
theorem Instruction.ofLine_unaffected (line other : Option Int) :
    (∀ text comment : Text,
      (ofLine line (text ++ ';' :: comment)).Agrees (ofLine other text)) ∧
    (∀ label text : Text, ':' ∉ label → ';' ∉ label → ':' ∉ Text.before ';' text →
      (ofLine line (label ++ ':' :: text)).Agrees (ofLine other text)) ∧
    (∀ text longer : Text, Text.WithReturns text longer →
      (ofLine line longer).Agrees (ofLine other text)) ∧
    (∀ left text right : Text, Text.AllBlank left → Text.AllBlank right →
      (ofLine line (left ++ text ++ right)).Agrees (ofLine other text)) := by
  refine ⟨?_, ?_, ?_, ?_⟩
  · intro text comment
    apply agrees_ofLine
    rw [SourceLine.core_append_comment]
  · intro label text closed uncommented unlabelled
    apply agrees_ofLine
    rw [SourceLine.core_append_label label text closed uncommented unlabelled]
  · intro text longer inserted
    apply agrees_ofLine
    rw [SourceLine.core_withReturns text longer inserted]
  · intro left text right blankLeft blankRight
    exact agrees_ofLine _ _ (SourceLine.trim_core_pad left text right blankLeft blankRight) _ _

/-- A jump behind a label, with a carriage return inside its mnemonic, and one
between blanks, each in front of a comment with a colon, are the jump. -/
theorem Instruction.ofLine_unaffected_jump :
    (ofLine none "on:jr R2;a:b".toList).Agrees (ofLine none "jr R2;a:b".toList) ∧
    (ofLine none "j\rr R2;a:b".toList).Agrees (ofLine none "jr R2;a:b".toList) ∧
    (ofLine none "\t jr R2;a:b\u2028".toList).Agrees (ofLine none "jr R2;a:b".toList) := by
  obtain ⟨_, labelled, returned, padded⟩ := ofLine_unaffected none none
  refine ⟨?_, ?_, ?_⟩
  · exact labelled "on".toList "jr R2;a:b".toList (by decide) (by decide) (by decide)
  · exact returned _ _ (.kept 'j' (.inserted (.refl _)))
  · refine padded "\t ".toList "jr R2;a:b".toList "\u2028".toList ?_ ?_
    · exact List.all_eq_true.mp (by decide)
    · exact List.all_eq_true.mp (by decide)

end LineAssembler
