import LineAssembler.Proofs.CanonicalLines
import LineAssembler.Proofs.LineInvariance
import LineAssembler.Proofs.LowercaseForms

/-!
# Normal forms of lines

Splitting a line leaves a normal form: a mnemonic in lower case without blanks, and trimmed
operands without commas. Written behind an empty label, with a blank behind the mnemonic
and behind every comma, a normal form is split into itself again.

Much survives the first split and has to survive the second. Operands may be empty, but a
single operand may not, since nothing but blanks behind a mnemonic is no operand. A mnemonic
may hold commas, and it may hold colons behind the one that ended its label: this is what
the empty label is for.
-/

namespace LineAssembler

namespace Text

/-- Trimming brings nothing into a text. -/
theorem mem_of_mem_trim (text : Text) (c : Char) (member : c ∈ trim text) : c ∈ text := by
  obtain ⟨left, right, _, _, parts⟩ := exists_pad text
  rw [parts]
  exact List.mem_append_left right (List.mem_append_right left member)

/-- The pieces between marks hold the characters of the text, and no mark. By
induction on the text: a mark opens an empty piece in front of the others, and
any other character joins the first piece, so that only this piece changes. -/
theorem mem_of_mem_splitOn (mark : Char) (text : Text) :
    ∀ piece ∈ text.splitOn mark, ∀ c ∈ piece, c ∈ text ∧ c ≠ mark := by
  induction text with
  | nil => simp [List.splitOn_nil]
  | cons first rest inductionHypothesis =>
    have later : ∀ piece ∈ rest.splitOn mark, ∀ c ∈ piece, c ∈ first :: rest ∧ c ≠ mark := by
      intro piece member c inside
      obtain ⟨found, different⟩ := inductionHypothesis piece member c inside
      exact ⟨List.mem_cons_of_mem first found, different⟩
    intro piece member c inside
    rw [List.splitOn_cons_eq_if_modifyHead] at member
    split at member
    case isTrue =>
      rcases List.mem_cons.mp member with rfl | elsewhere
      · simp at inside
      · exact later piece elsewhere c inside
    case isFalse different =>
      obtain ⟨head, tail, parts⟩ := List.exists_cons_of_ne_nil (List.splitOn_ne_nil mark rest)
      rw [parts] at later member
      rw [List.modifyHead_cons, List.mem_cons] at member
      rcases member with rfl | elsewhere
      · rcases List.mem_cons.mp inside with rfl | behind
        · exact ⟨List.mem_cons_self, by simpa using different⟩
        · exact later head List.mem_cons_self c behind
      · exact later piece (List.mem_cons_of_mem head elsewhere) c inside

end Text

/-- The form in which splitting leaves an instruction. -/
structure Instruction.Normal (instruction : Instruction) : Prop where
  named : instruction.mnemonic ≠ []
  word : ∀ c ∈ instruction.mnemonic, Text.isBlank c = false ∧ c ≠ ';' ∧ c ≠ '\r'
  trimmed : ∀ operand ∈ instruction.operands, Text.trim operand = operand
  unmarked : ∀ operand ∈ instruction.operands, ',' ∉ operand ∧ ';' ∉ operand ∧ '\r' ∉ operand
  operated : instruction.operands ≠ [[]]

/-- The line of a normal form: an empty label, the mnemonic, and the operands
behind it. -/
def Instruction.normalLine (instruction : Instruction) : Text :=
  ':' :: instruction.mnemonic ++ ' ' :: ", ".toList.intercalate instruction.operands

namespace SourceLine

/-! ## What splitting leaves -/

/-- What follows a label is part of the line, and without a label it is the
line. -/
theorem mem_of_mem_afterLabel (line : Text) (c : Char) (member : c ∈ afterLabel line) :
    c ∈ line := by
  unfold afterLabel at member
  split at member
  case isTrue =>
    exact (List.dropWhile_sublist _).subset (List.mem_of_mem_drop member)
  case isFalse => exact member

/-- Neither a semicolon nor a carriage return is part of the core of a line. The
cut before the comment removes the one, the filter removes the other, and what
comes after brings neither back. -/
theorem not_mem_core (raw : Text) : ';' ∉ core raw ∧ '\r' ∉ core raw := by
  constructor
  · intro member
    have found := List.mem_filter.mp (mem_of_mem_afterLabel _ _ member)
    exact Text.not_mem_before ';' raw found.1
  · intro member
    have found := List.mem_filter.mp (mem_of_mem_afterLabel _ _ member)
    exact absurd found.2 (by decide)

/-- A mnemonic holds no blank, and none of the characters that part a line but
those of the text that it was split from. Lower-casing could only bring in
others; a delimiter in the lower case is one of the word that was put in lower
case. -/
theorem mem_mnemonic (text : Text) (c : Char) (member : c ∈ (splitMnemonic text).1) :
    Text.isBlank c = false ∧ (Text.isDelimiter c = true → c ∈ text) := by
  have source (delimiter : Text.isDelimiter c = true) :
      c ∈ (Text.trim text).takeWhile (!Text.isBlank ·) :=
    Text.mem_of_mem_lower _ c delimiter member
  constructor
  · apply Bool.eq_false_iff.mpr
    intro blank
    have solid := List.mem_takeWhile_imp (source (Text.isDelimiter_of_isBlank c blank))
    simp [blank] at solid
  · intro delimiter
    exact Text.mem_of_mem_trim text c ((List.takeWhile_sublist _).subset (source delimiter))

/-- What follows a mnemonic is part of the text, since it is cut out of it and
trimmed twice. -/
theorem mem_of_mem_rest (text : Text) (c : Char) (member : c ∈ (splitMnemonic text).2) :
    c ∈ text := by
  have behind := Text.mem_of_mem_trim _ c member
  exact Text.mem_of_mem_trim text c ((List.dropWhile_sublist _).subset behind)

/-- An operand is trimmed, holds no comma, and is part of the text. It is a
piece between commas without the blanks around it. -/
theorem mem_operands (text operand : Text) (member : operand ∈ splitOperands text) :
    Text.trim operand = operand ∧ ',' ∉ operand ∧ ∀ c ∈ operand, c ∈ text := by
  unfold splitOperands at member
  split at member
  case isTrue => simp at member
  case isFalse =>
    obtain ⟨piece, between, rfl⟩ := List.mem_map.mp member
    have pieces := Text.mem_of_mem_splitOn ',' text piece between
    refine ⟨Text.trim_trim piece, ?_, ?_⟩
    · intro comma
      exact (pieces ',' (Text.mem_of_mem_trim piece _ comma)).2 rfl
    · intro c inside
      exact (pieces c (Text.mem_of_mem_trim piece c inside)).1

/-- A single empty operand is no operand: its text would be blank. The text is
its only piece, which is empty after trimming, and a text that is trimmed to
nothing has no operands at all. -/
theorem splitOperands_ne_single (text : Text) : splitOperands text ≠ [[]] := by
  intro single
  unfold splitOperands at single
  split at single
  case isTrue => simp at single
  case isFalse nonempty =>
    obtain ⟨piece, pieces, empty⟩ := List.map_eq_singleton_iff.mp single
    have whole : [','].intercalate (text.splitOn ',') = text := List.intercalate_splitOn ','
    rw [pieces, List.intercalate_singleton] at whole
    rw [← whole, empty] at nonempty
    simp at nonempty

/-! ## Splitting a normal form -/

/-- The operands of a normal form are more than blanks, if there are any. A
single operand is trimmed and not empty, and several are parted by a comma,
which is no blank. -/
theorem not_allBlank_operands (first : Text) (rest : List Text)
    (trimmed : Text.trim first = first) (operated : first :: rest ≠ [[]]) :
    ¬Text.AllBlank ([','].intercalate (first :: rest.map (' ' :: ·))) := by
  intro blank
  cases rest with
  | nil =>
    rw [List.map_nil, List.intercalate_singleton] at blank
    have empty : first = [] := trimmed ▸ (Text.trim_eq_nil_iff first).mpr blank
    exact operated (by rw [empty])
  | cons second rest =>
    have absent := Text.not_mem_of_allBlank ',' (by decide) _ blank
    rw [List.map_cons, List.intercalate_cons_cons] at absent
    simp at absent

/-- The operands of a normal form are found again behind its mnemonic. They are
joined by commas with a blank in front of every operand but the first; none
holds a comma, so splitting gives back these pieces, and trimming takes the
blanks off. -/
theorem splitOperands_intercalate (operands : List Text)
    (trimmed : ∀ operand ∈ operands, Text.trim operand = operand)
    (unmarked : ∀ operand ∈ operands, ',' ∉ operand) (operated : operands ≠ [[]]) :
    splitOperands (Text.trim (' ' :: ", ".toList.intercalate operands)) = operands := by
  cases operands with
  | nil => decide
  | cons first rest =>
    have solid := not_allBlank_operands first rest (trimmed first List.mem_cons_self) operated
    have padded (operand : Text) (member : operand ∈ rest) : Text.trim (' ' :: operand) = operand :=
      (Text.trim_append_left [' '] operand Text.allBlank_blank).trans
        (trimmed operand (List.mem_cons_of_mem first member))
    have absent : ∀ piece ∈ first :: rest.map (' ' :: ·), ',' ∉ piece := by
      intro piece member
      rcases List.mem_cons.mp member with rfl | later
      · exact unmarked _ List.mem_cons_self
      · obtain ⟨operand, belongs, rfl⟩ := List.mem_map.mp later
        simpa using unmarked operand (List.mem_cons_of_mem first belongs)
    rw [Text.intercalate_comma_blank, ← List.singleton_append,
      Text.trim_append_left [' '] _ Text.allBlank_blank, splitOperands_trim _ solid,
      List.splitOn_intercalate ',' absent (by simp), List.map_cons, List.map_map,
      trimmed first List.mem_cons_self, List.cons.injEq]
    refine ⟨rfl, ?_⟩
    nth_rewrite 2 [← List.map_id rest]
    exact List.map_congr_left padded

/-- The core of the line of a normal form is everything behind the empty label.
Neither a semicolon nor a carriage return stands in the line, and its first
colon is that of the label, whatever colons the mnemonic holds. -/
theorem core_normalLine (instruction : Instruction) (normal : instruction.Normal) :
    core instruction.normalLine =
      instruction.mnemonic ++ ' ' :: ", ".toList.intercalate instruction.operands := by
  have absent (mark : Char) (outside : mark ∉ [':', ' ', ','])
      (notMnemonic : mark ∉ instruction.mnemonic)
      (notOperands : ∀ operand ∈ instruction.operands, mark ∉ operand) :
      mark ∉ instruction.normalLine := by
    have notJoined := Text.not_mem_intercalate mark ", ".toList (by simp_all)
      instruction.operands notOperands
    simp_all [Instruction.normalLine]
  have uncommented : ';' ∉ instruction.normalLine :=
    absent ';' (by decide) (fun member => (normal.word ';' member).2.1 rfl)
      fun operand member => (normal.unmarked operand member).2.1
  have unreturned : '\r' ∉ instruction.normalLine :=
    absent '\r' (by decide) (fun member => (normal.word '\r' member).2.2 rfl)
      fun operand member => (normal.unmarked operand member).2.2
  rw [core, Text.before_of_not_mem _ _ uncommented,
    List.filter_eq_self.mpr (Text.bne_of_not_mem _ _ unreturned), afterLabel,
    Instruction.normalLine, if_pos (by simp)]
  exact Text.after_append_cons ':' [] _ (by simp)

end SourceLine

namespace Instruction

/-- The line of a normal form in lower case is split into the normal form. The
mnemonic ends at the blank behind it and is its own lower case, and the operands
are found again in the rest. -/
theorem Normal.agrees_normalLine {instruction : Instruction} (normal : instruction.Normal)
    (lowered : Text.lower instruction.mnemonic = instruction.mnemonic) (line : Option Int) :
    (ofLine line instruction.normalLine).Agrees instruction := by
  have separated : ∀ c ∈ (' ' :: ", ".toList.intercalate instruction.operands).head?,
      Text.isBlank c = true := by
    intro c found
    rw [← Option.some.inj found]
    decide
  have split := SourceLine.splitMnemonic_pad [] instruction.mnemonic _ [] Text.allBlank_nil
    Text.allBlank_nil normal.named (fun c member => (normal.word c member).1) separated
  rw [List.nil_append, List.append_nil] at split
  constructor
  · rw [mnemonic_ofLine, SourceLine.core_normalLine instruction normal, split, lowered]
  · rw [operands_ofLine, SourceLine.core_normalLine instruction normal, split,
      SourceLine.splitOperands_intercalate instruction.operands normal.trimmed
        (fun operand member => (normal.unmarked operand member).1) normal.operated]

/-- Splitting a line with an instruction leaves a normal form. Every condition
on the mnemonic and the operands goes back to the core of the line: what stands
in a part stands in the core, which holds neither a semicolon nor a carriage
return. -/
theorem normal_ofLine (line : Option Int) (raw : Text) (solid : (ofLine line raw).isBlank = false) :
    (ofLine line raw).Normal := by
  obtain ⟨uncommented, unreturned⟩ := SourceLine.not_mem_core raw
  have word := SourceLine.mem_mnemonic (SourceLine.core raw)
  have operands := SourceLine.mem_operands (SourceLine.splitMnemonic (SourceLine.core raw)).2
  have rest := SourceLine.mem_of_mem_rest (SourceLine.core raw)
  rw [← mnemonic_ofLine line] at word
  rw [← operands_ofLine line] at operands
  refine ⟨List.isEmpty_eq_false_iff.mp solid, ?_, ?_, ?_, ?_⟩
  · intro c member
    obtain ⟨bright, source⟩ := word c member
    refine ⟨bright, ?_, ?_⟩
    · rintro rfl
      exact uncommented (source (by decide))
    · rintro rfl
      exact unreturned (source (by decide))
  · intro operand member
    exact (operands operand member).1
  · intro operand member
    obtain ⟨_, comma, inside⟩ := operands operand member
    exact ⟨comma, fun semicolon => uncommented (rest _ (inside _ semicolon)),
      fun carriageReturn => unreturned (rest _ (inside _ carriageReturn))⟩
  · rw [operands_ofLine]
    exact SourceLine.splitOperands_ne_single _

/-- Splitting a line leaves a normal form that is split into itself again. It
remains to see that the mnemonic is its own lower case: lower-casing twice is
lower-casing once, also for a final sigma. -/
theorem ofLine_normalizes (line other : Option Int) (raw : Text)
    (solid : (ofLine line raw).isBlank = false) :
    (ofLine line raw).Normal ∧
      (ofLine other (ofLine line raw).normalLine).Agrees (ofLine line raw) := by
  have normal := normal_ofLine line raw solid
  refine ⟨normal, normal.agrees_normalLine ?_ other⟩
  rw [mnemonic_ofLine]
  exact Text.lower_lower _

/-- A mnemonic with a colon and a capital sigma, and operands of which the first
and the last are empty, are split into themselves again. -/
theorem ofLine_normalizes_empty_operands :
    (ofLine none "l:Jr:AΣ\u00a0, R1 x,;c".toList).operands = [[], "R1 x".toList, []] ∧
      (ofLine none "l:Jr:AΣ\u00a0, R1 x,;c".toList).Normal ∧
      (ofLine none ":jr:aς , R1 x, ".toList).Agrees
        (ofLine none "l:Jr:AΣ\u00a0, R1 x,;c".toList) := by
  have written : (ofLine none "l:Jr:AΣ\u00a0, R1 x,;c".toList).normalLine =
      ":jr:aς , R1 x, ".toList := by decide +kernel
  obtain ⟨normal, agrees⟩ := ofLine_normalizes none none "l:Jr:AΣ\u00a0, R1 x,;c".toList
    (by decide +kernel)
  rw [written] at agrees
  exact ⟨by decide +kernel, normal, agrees⟩

end Instruction

end LineAssembler
