import LineAssembler.Instruction
import LineAssembler.Proofs.Trimming

/-!
# The part of a line that is assembled

A line is cut and trimmed several times before its mnemonic is looked at. Only two
cuts and the deletion of carriage returns matter: up to blanks at its ends, what
remains of a line is its core, the text in front of the first semicolon, without
carriage returns, behind the first colon.

A mnemonic ends at the first blank behind it, and the operands behind it are split
at commas, whatever blanks surround them.
-/

namespace LineAssembler

namespace SourceLine

/-- What follows the label of a line, or the whole line if it has none. -/
def afterLabel (line : Text) : Text := if ':' ∈ line then Text.after ':' line else line

/-- The core of a line: cut at the first semicolon, without carriage returns,
and cut behind the first colon that is left. -/
def core (raw : Text) : Text := afterLabel ((Text.before ';' raw).filter (· != '\r'))

/-- A line without comment, carriage return and label is its own core. -/
theorem core_of_not_mem (text : Text) (absent : ∀ mark ∈ [';', ':', '\r'], mark ∉ text) :
    core text = text := by
  have kept : text.filter (· != '\r') = text :=
    List.filter_eq_self.mpr (Text.bne_of_not_mem '\r' text (absent '\r' (by decide)))
  rw [core, Text.before_of_not_mem ';' text (absent ';' (by decide)), kept, afterLabel,
    if_neg (absent ':' (by decide))]

/-- Blanks around a line stay around what follows its label. No colon is blank,
so the label ends where it did; the blanks in front belong to the label if there
is one. -/
theorem trim_afterLabel_pad (left text right : Text) (blankLeft : Text.AllBlank left)
    (blankRight : Text.AllBlank right) :
    Text.trim (afterLabel (left ++ text ++ right)) = Text.trim (afterLabel text) := by
  have notLeft : ':' ∉ left := Text.not_mem_of_allBlank _ (by decide) left blankLeft
  have notRight : ':' ∉ right := Text.not_mem_of_allBlank _ (by decide) right blankRight
  unfold afterLabel
  by_cases labelled : ':' ∈ text
  · obtain ⟨label, rest, absent, rfl⟩ := Text.exists_cut ':' text labelled
    have stillAbsent : ':' ∉ left ++ label := by simp [notLeft, absent]
    have regrouped : left ++ (label ++ ':' :: rest) ++ right =
        (left ++ label) ++ ':' :: (rest ++ right) := by simp
    rw [regrouped, if_pos (by simp), if_pos (by simp), Text.after_append_cons _ _ _ stillAbsent,
      Text.after_append_cons _ _ _ absent]
    exact Text.trim_append_right rest right blankRight
  · have unlabelled : ':' ∉ left ++ text ++ right := by simp [notLeft, labelled, notRight]
    rw [if_neg unlabelled, if_neg labelled]
    exact Text.trim_pad left text right blankLeft blankRight

/-- Up to blanks, splitting off a label leaves what follows it. The label itself
is not looked at any more. -/
theorem trim_splitLabel (line : Text) :
    Text.trim (splitLabel line).2 = Text.trim (afterLabel line) := by
  unfold splitLabel afterLabel
  split
  case isTrue => exact Text.trim_trim _
  case isFalse => rfl

/-- A line ending is blank, and it stands in front of a comment only as blanks.
It is part of the comment if there is one, and otherwise it stands at the end. -/
theorem exists_ending (raw : Text) :
    ∃ ending, Text.AllBlank ending ∧
      Text.before ';' raw =
        Text.before ';' (Text.dropTrailing (fun c => c == '\r' || c == '\n') raw) ++ ending := by
  obtain ⟨dropped, lineEnd, parts⟩ :=
    Text.exists_dropTrailing (fun c => c == '\r' || c == '\n') raw
  generalize Text.dropTrailing (fun c => c == '\r' || c == '\n') raw = kept at parts
  have blank : Text.AllBlank dropped := by
    intro c member
    have ending := lineEnd c member
    simp only [Bool.or_eq_true, beq_iff_eq] at ending
    rcases ending with rfl | rfl <;> decide
  rw [parts]
  exact Text.exists_before_append ';' (by decide) kept dropped blank

/-- Deleting carriage returns from blanks leaves blanks. -/
theorem allBlank_filter (text : Text) (blank : Text.AllBlank text) (p : Char → Bool) :
    Text.AllBlank (text.filter p) :=
  fun c member => blank c (List.mem_filter.mp member).1

/-- Up to blanks, all cutting and trimming of a line amounts to taking its core.
The trimming between the cuts and the line ending are put back as blanks around
the line, where they do not matter. -/
theorem trim_splitLabel_withoutComment (raw : Text) :
    Text.trim (splitLabel (withoutComment
        (Text.dropTrailing (fun c => c == '\r' || c == '\n') raw))).2 =
      Text.trim (core raw) := by
  obtain ⟨ending, blank, parts⟩ := exists_ending raw
  unfold core withoutComment
  rw [trim_splitLabel, parts, List.filter_append]
  generalize (Text.before ';' _).filter _ = line
  obtain ⟨left, right, blankLeft, blankRight, padded⟩ := Text.exists_pad line
  calc Text.trim (afterLabel (Text.trim line))
      = Text.trim (afterLabel (left ++ Text.trim line ++ right)) :=
        (trim_afterLabel_pad left _ right blankLeft blankRight).symm
    _ = Text.trim (afterLabel line) := by rw [← padded]
    _ = Text.trim (afterLabel ([] ++ line ++ ending.filter (· != '\r'))) :=
        (trim_afterLabel_pad [] line _ Text.allBlank_nil (allBlank_filter ending blank _)).symm

/-- Splitting off the mnemonic forgets blanks around the line. -/
theorem splitMnemonic_congr (left right : Text) (same : Text.trim left = Text.trim right) :
    splitMnemonic left = splitMnemonic right := by
  simp only [splitMnemonic, same]

/-- A word at the start of a line is its mnemonic, and the rest follows the
blanks behind the word. -/
theorem splitMnemonic_pad (left word rest right : Text) (blankLeft : Text.AllBlank left)
    (blankRight : Text.AllBlank right) (nonempty : word ≠ [])
    (solid : ∀ c ∈ word, Text.isBlank c = false)
    (separated : ∀ c ∈ rest.head?, Text.isBlank c = true) :
    splitMnemonic (left ++ (word ++ rest) ++ right) = (Text.lower word, Text.trim rest) := by
  have trimmed : Text.trim (word ++ rest) = word ++ Text.dropTrailing Text.isBlank rest := by
    obtain ⟨front, last, parts⟩ := (List.eq_nil_or_concat word).resolve_left nonempty
    have first : (word ++ rest).dropWhile Text.isBlank = word ++ rest := by
      obtain ⟨head, tail, rfl⟩ := List.exists_cons_of_ne_nil nonempty
      simp [solid head List.mem_cons_self]
    have solidLast : Text.isBlank last = false := solid last (by simp [parts])
    rw [Text.trim, first, parts, List.concat_eq_append, List.append_assoc, List.singleton_append,
      Text.dropTrailing_append_cons _ _ _ _ solidLast, List.append_assoc, List.singleton_append]
  obtain ⟨dropped, blank, whole⟩ := Text.exists_dropTrailing Text.isBlank rest
  generalize Text.dropTrailing Text.isBlank rest = kept at trimmed whole
  have letters : ∀ c ∈ word, (!Text.isBlank c) = true := by
    intro c member
    simp [solid c member]
  have stops : kept.takeWhile (!Text.isBlank ·) = [] ∧ kept.dropWhile (!Text.isBlank ·) = kept := by
    cases kept with
    | nil => exact ⟨rfl, rfl⟩
    | cons c others =>
      have found : Text.isBlank c = true := separated c (by simp [whole])
      simp [found]
  have core : Text.trim kept = Text.trim rest := by
    rw [whole, Text.trim_append_right kept dropped blank]
  rw [splitMnemonic_congr _ _ (Text.trim_pad left (word ++ rest) right blankLeft blankRight)]
  simp only [splitMnemonic, trimmed]
  rw [List.takeWhile_append_of_pos letters, List.dropWhile_append_of_pos letters, stops.1, stops.2,
    List.append_nil, core]

/-- Between blanks, a line is a word without blanks and a rest that starts with
a blank, if there is any. -/
theorem exists_splitMnemonic (text : Text) :
    ∃ left word rest right, Text.AllBlank left ∧ Text.AllBlank right ∧
      (∀ c ∈ rest.head?, Text.isBlank c = true) ∧ text = left ++ (word ++ rest) ++ right ∧
      splitMnemonic text = (Text.lower word, Text.trim rest) := by
  obtain ⟨left, right, blankLeft, blankRight, parts⟩ := Text.exists_pad text
  refine ⟨left, (Text.trim text).takeWhile (!Text.isBlank ·),
    (Text.trim text).dropWhile (!Text.isBlank ·), right, blankLeft, blankRight, ?_, ?_, rfl⟩
  · intro c found
    have stopped := List.head?_dropWhile_not (!Text.isBlank ·) (Text.trim text)
    rw [Option.mem_def.mp found] at stopped
    simpa using stopped
  · rw [List.takeWhile_append_dropWhile]
    exact parts

/-- A text that starts with a blank and is more than blanks is its core behind a
gap. If the gap were empty, the first character of the core would be the blank
that the text starts with. -/
theorem exists_gap (rest : Text) (separated : ∀ c ∈ rest.head?, Text.isBlank c = true)
    (solid : ¬Text.AllBlank rest) :
    ∃ gap tail, Text.AllBlank gap ∧ gap ≠ [] ∧ Text.AllBlank tail ∧
      rest = gap ++ Text.trim rest ++ tail := by
  obtain ⟨gap, tail, blankGap, blankTail, parts⟩ := Text.exists_pad rest
  refine ⟨gap, tail, blankGap, ?_, blankTail, parts⟩
  rintro rfl
  obtain ⟨first, others, core⟩ :=
    List.exists_cons_of_ne_nil (mt (Text.trim_eq_nil_iff rest).mp solid)
  have blank : Text.isBlank first = true := separated first (by rw [parts, core]; simp)
  have bright : Text.isBlank first = false :=
    Text.not_isBlank_head_trim rest first (by rw [core]; simp)
  rw [bright] at blank
  contradiction

/-- There are no operands exactly when there is nothing but blanks. -/
theorem splitOperands_eq_nil_iff (text : Text) :
    splitOperands text = [] ↔ Text.AllBlank text := by
  rw [← Text.trim_eq_nil_iff]
  unfold splitOperands
  split
  case isTrue empty => simp [List.isEmpty_iff.mp empty]
  case isFalse nonempty => simpa using nonempty

/-- Operands are the trimmed pieces between commas, if there is more than
blanks. Trimming the whole before changes none of the trimmed pieces. -/
theorem splitOperands_trim (text : Text) (nonempty : ¬Text.AllBlank text) :
    splitOperands (Text.trim text) = (text.splitOn ',').map Text.trim := by
  rw [← Text.trim_eq_nil_iff] at nonempty
  unfold splitOperands
  rw [Text.trim_trim, if_neg (by simpa using nonempty)]
  exact Text.map_trim_splitOn_trim ',' (by decide) text

end SourceLine

/-- A line is split into the mnemonic and the operands of its core. So
everything about the split of a line can be said of its core. -/
theorem Instruction.ofLine_eq (line : Option Int) (raw : Text) :
    Instruction.ofLine line raw =
      ⟨(SourceLine.splitMnemonic (SourceLine.core raw)).1,
        SourceLine.splitOperands (SourceLine.splitMnemonic (SourceLine.core raw)).2, line,
        Text.dropTrailing (fun c => c == '\r' || c == '\n') raw⟩ := by
  simp only [Instruction.ofLine]
  rw [SourceLine.splitMnemonic_congr _ _ (SourceLine.trim_splitLabel_withoutComment raw)]

/-- The mnemonic of a line is that of its core. -/
theorem Instruction.mnemonic_ofLine (line : Option Int) (raw : Text) :
    (ofLine line raw).mnemonic = (SourceLine.splitMnemonic (SourceLine.core raw)).1 := by
  rw [ofLine_eq]

/-- The operands of a line are those of its core. -/
theorem Instruction.operands_ofLine (line : Option Int) (raw : Text) :
    (ofLine line raw).operands =
      SourceLine.splitOperands (SourceLine.splitMnemonic (SourceLine.core raw)).2 := by
  rw [ofLine_eq]

end LineAssembler
