import LineAssembler.Text.Basic
import Mathlib.Data.List.TakeWhile

/-!
# Trimming and cutting

A text is its trimmed core between two runs of blanks, and a run of blanks at
either end never changes the core. A mark that is not blank is found at the same
place before and after trimming, so cutting at a mark and trimming commute up to
blanks at the ends. Splitting at every mark and trimming the pieces forgets the
blanks around the whole text.

Nothing here depends on which marks and which blanks a source line has, except
that a mark is never blank.
-/

namespace LineAssembler.Text

/-- A run of blanks, possibly empty. -/
def AllBlank (text : Text) : Prop := ∀ c ∈ text, isBlank c = true

/-- A text is checked for blanks character by character. -/
instance (text : Text) : Decidable (AllBlank text) :=
  decidable_of_iff (text.all isBlank = true) List.all_eq_true

/-- The empty text is a run of blanks. -/
@[simp]
theorem allBlank_nil : AllBlank [] := by
  intro c member
  simp at member

/-- A run of blanks is a blank before a run of blanks. -/
@[simp]
theorem allBlank_cons (c : Char) (text : Text) :
    AllBlank (c :: text) ↔ isBlank c = true ∧ AllBlank text := by
  simp [AllBlank]

/-- A blank is a run of blanks. -/
theorem allBlank_blank : AllBlank [' '] := by
  simp only [allBlank_cons, allBlank_nil, and_true]
  decide

/-- A character that is not blank does not occur in a run of blanks. -/
theorem not_mem_of_allBlank (mark : Char) (solid : isBlank mark = false) (text : Text)
    (blank : AllBlank text) : mark ∉ text := by
  intro member
  have found : isBlank mark = true := blank mark member
  rw [solid] at found
  contradiction

/-- Two runs of blanks join to a run of blanks. -/
@[simp]
theorem allBlank_append (left right : Text) :
    AllBlank (left ++ right) ↔ AllBlank left ∧ AllBlank right := by
  simp only [AllBlank, List.mem_append]
  constructor
  · intro blank
    exact ⟨fun c member => blank c (Or.inl member), fun c member => blank c (Or.inr member)⟩
  · rintro ⟨blankLeft, blankRight⟩ c (member | member)
    · exact blankLeft c member
    · exact blankRight c member

/-- What was dropped from the end of a text consists of the dropped characters.
Seen from the end, the text is cut where a run of them stops. -/
theorem exists_dropTrailing (p : Char → Bool) (text : Text) :
    ∃ dropped, (∀ c ∈ dropped, p c = true) ∧ text = dropTrailing p text ++ dropped := by
  refine ⟨(text.reverse.takeWhile p).reverse, ?_, ?_⟩
  · intro c member
    exact List.all_eq_true.mp List.all_takeWhile c (List.mem_reverse.mp member)
  · unfold dropTrailing
    rw [← List.reverse_append, List.takeWhile_append_dropWhile, List.reverse_reverse]

/-- Characters that are dropped from the end anyway may be appended. The
reversed text starts with them, and they are dropped before the rest is looked
at. -/
theorem dropTrailing_append_of_all (p : Char → Bool) (left right : Text)
    (all : ∀ c ∈ right, p c = true) : dropTrailing p (left ++ right) = dropTrailing p left := by
  unfold dropTrailing
  rw [List.reverse_append, List.dropWhile_append_of_pos]
  intro c member
  exact all c (List.mem_reverse.mp member)

/-- Nothing before a character that is kept is dropped from the end. Dropping
stops there at the latest, so it can be done behind that character alone. -/
theorem dropTrailing_append_cons (p : Char → Bool) (left right : Text) (c : Char)
    (kept : p c = false) :
    dropTrailing p (left ++ c :: right) = left ++ c :: dropTrailing p right := by
  unfold dropTrailing
  rw [List.reverse_append, List.reverse_cons, List.append_assoc, List.dropWhile_append]
  split
  case isTrue empty =>
    have nothing : List.dropWhile p right.reverse = [] := List.isEmpty_iff.mp empty
    simp [kept, nothing]
  case isFalse => simp

/-- Blanks at the ends of a text do not change its core. The blanks in front are
dropped with those of the text; if nothing of the text is left then, the blanks
behind go the same way, and otherwise they are dropped from the end. -/
theorem trim_pad (left text right : Text) (blankLeft : AllBlank left)
    (blankRight : AllBlank right) : trim (left ++ text ++ right) = trim text := by
  have leading : (left ++ text ++ right).dropWhile isBlank = (text ++ right).dropWhile isBlank := by
    rw [List.append_assoc, List.dropWhile_append_of_pos blankLeft]
  unfold trim
  rw [leading, List.dropWhile_append]
  split
  case isTrue empty =>
    have nothing : text.dropWhile isBlank = [] := List.isEmpty_iff.mp empty
    have gone : right.dropWhile isBlank = [] := List.dropWhile_eq_nil_iff.mpr blankRight
    rw [nothing, gone]
  case isFalse => rw [dropTrailing_append_of_all isBlank _ _ blankRight]

/-- A text is its core between two runs of blanks: the one that is dropped in
front, and what is dropped behind of the rest. -/
theorem exists_pad (text : Text) :
    ∃ left right, AllBlank left ∧ AllBlank right ∧ text = left ++ trim text ++ right := by
  obtain ⟨right, blankRight, parts⟩ := exists_dropTrailing isBlank (text.dropWhile isBlank)
  refine ⟨text.takeWhile isBlank, right, ?_, blankRight, ?_⟩
  · exact List.all_eq_true.mp List.all_takeWhile
  · unfold trim
    rw [List.append_assoc, ← parts, List.takeWhile_append_dropWhile]

/-- Trimming twice is trimming once. The text is its core between blanks, which
have no effect on the core's own trimming. -/
@[simp]
theorem trim_trim (text : Text) : trim (trim text) = trim text := by
  obtain ⟨left, right, blankLeft, blankRight, parts⟩ := exists_pad text
  have same := trim_pad left (trim text) right blankLeft blankRight
  rw [← parts] at same
  exact same.symm

/-- Blanks in front of a text do not change its core. -/
theorem trim_append_left (left text : Text) (blank : AllBlank left) :
    trim (left ++ text) = trim text := by
  simpa using trim_pad left text [] blank allBlank_nil

/-- Blanks behind a text do not change its core. -/
theorem trim_append_right (text right : Text) (blank : AllBlank right) :
    trim (text ++ right) = trim text := by
  simpa using trim_pad [] text right allBlank_nil blank

/-- A text has an empty core exactly when it is a run of blanks. With an empty
core only the two runs around it are left. -/
theorem trim_eq_nil_iff (text : Text) : trim text = [] ↔ AllBlank text := by
  constructor
  · intro empty
    obtain ⟨left, right, blankLeft, blankRight, parts⟩ := exists_pad text
    rw [parts, empty]
    simp [blankLeft, blankRight]
  · intro blank
    simpa [trim, dropTrailing] using trim_append_left text [] blank

/-- Trimming leaves a text alone that neither starts nor ends with a blank. Both
runs of blanks around the core are empty, since their outermost characters are
the first and the last of the text. -/
theorem trim_eq_self (text : Text) (first : ∀ c ∈ text.head?, isBlank c = false)
    (last : ∀ c ∈ text.getLast?, isBlank c = false) : trim text = text := by
  obtain ⟨left, right, blankLeft, blankRight, parts⟩ := exists_pad text
  have noLeft : left = [] := by
    cases left with
    | nil => rfl
    | cons c rest =>
      have solid : isBlank c = false := first c (by rw [parts]; simp)
      have blank : isBlank c = true := blankLeft c List.mem_cons_self
      rw [solid] at blank
      contradiction
  have noRight : right = [] := by
    rcases List.eq_nil_or_concat right with empty | ⟨rest, c, ending⟩
    · exact empty
    · have solid : isBlank c = false := last c (by rw [parts, ending]; simp)
      have blank : isBlank c = true := blankRight c (by rw [ending]; simp)
      rw [solid] at blank
      contradiction
  rw [noLeft, noRight] at parts
  simpa using parts.symm

/-- A text without blanks is its own core, as its first and its last character
are not blank. -/
theorem trim_of_solid (text : Text) (solid : ∀ c ∈ text, isBlank c = false) :
    trim text = text := by
  apply trim_eq_self
  · intro c found
    exact solid c (List.mem_of_head? found)
  · intro c found
    exact solid c (List.mem_of_getLast? found)

/-- A trimmed text does not start with a blank. What is left after the blanks in
front does not, and dropping from the end cannot change its first character
unless it takes all. -/
theorem not_isBlank_head_trim (text : Text) : ∀ c ∈ (trim text).head?, isBlank c = false := by
  intro c found
  obtain ⟨dropped, _, parts⟩ := exists_dropTrailing isBlank (text.dropWhile isBlank)
  have first : (text.dropWhile isBlank).head? = some c := by
    rw [parts, List.head?_append]
    exact Option.or_eq_some_iff.mpr (Or.inl found)
  have kept := List.head?_dropWhile_not isBlank text
  rw [first] at kept
  simpa using kept

/-- Blanks do not stand in front of a trimmed text: the first of them would be
its first character. -/
theorem eq_nil_of_trim_eq (text left right : Text) (trimmed : trim text = left ++ right)
    (blank : AllBlank left) : left = [] := by
  cases left with
  | nil => rfl
  | cons c rest =>
    have solid : isBlank c = false := not_isBlank_head_trim text c (by rw [trimmed]; simp)
    have found : isBlank c = true := blank c List.mem_cons_self
    rw [solid] at found
    contradiction

/-- In a text without a mark every character differs from it. -/
theorem bne_of_not_mem (mark : Char) (text : Text) (absent : mark ∉ text) :
    ∀ c ∈ text, (c != mark) = true := by
  intro c member
  have different : c ≠ mark := fun same => absent (same ▸ member)
  simpa using different

/-- Cutting in front of a mark leaves a text alone that lacks it. -/
theorem before_of_not_mem (mark : Char) (text : Text) (absent : mark ∉ text) :
    before mark text = text :=
  List.takeWhile_eq_self_iff.mpr (bne_of_not_mem mark text absent)

/-- Nothing stands after a mark that does not occur. -/
theorem after_of_not_mem (mark : Char) (text : Text) (absent : mark ∉ text) :
    after mark text = [] := by
  simp [after, List.dropWhile_eq_nil_iff.mpr (bne_of_not_mem mark text absent)]

/-- The first mark is where a text without it ends, so the cut in front of the
mark gives that text back. -/
theorem before_append_cons (mark : Char) (left right : Text) (absent : mark ∉ left) :
    before mark (left ++ mark :: right) = left := by
  unfold before
  rw [List.takeWhile_append_of_pos (bne_of_not_mem mark left absent)]
  simp

/-- What follows the first mark is the rest of the text, also if it holds
further marks. -/
theorem after_append_cons (mark : Char) (left right : Text) (absent : mark ∉ left) :
    after mark (left ++ mark :: right) = right := by
  unfold after
  rw [List.dropWhile_append_of_pos (bne_of_not_mem mark left absent)]
  simp

/-- A text with a mark is cut at its first occurrence. -/
theorem exists_cut (mark : Char) (text : Text) (occurs : mark ∈ text) :
    ∃ left right, mark ∉ left ∧ text = left ++ mark :: right :=
  ⟨before mark text, after mark text, not_mem_before mark text,
    (before_append_after mark text occurs).symm⟩

/-- The first mark of a text is not moved by what is put behind a later one.
Either the text has its first mark already, or the one that is put behind it is
the first. -/
theorem before_append_mark (mark : Char) (text rest : Text) :
    before mark (text ++ mark :: rest) = before mark text := by
  by_cases occurs : mark ∈ text
  · obtain ⟨left, right, absent, rfl⟩ := exists_cut mark text occurs
    rw [List.append_assoc, List.cons_append, before_append_cons _ _ _ absent,
      before_append_cons _ _ _ absent]
  · rw [before_append_cons _ _ _ occurs, before_of_not_mem _ _ occurs]

/-- The first mark of a text is found behind a stretch without it. -/
theorem before_append_of_not_mem (mark : Char) (left text : Text) (absent : mark ∉ left) :
    before mark (left ++ text) = left ++ before mark text :=
  List.takeWhile_append_of_pos (bne_of_not_mem mark left absent)

/-- Blanks behind a text stand in front of its first mark only as blanks: all of
them if the text has no mark, and otherwise none. -/
theorem exists_before_append (mark : Char) (solid : isBlank mark = false) (text right : Text)
    (blank : AllBlank right) :
    ∃ ending, AllBlank ending ∧ before mark (text ++ right) = before mark text ++ ending := by
  by_cases occurs : mark ∈ text
  · obtain ⟨front, rest, absent, rfl⟩ := exists_cut mark text occurs
    refine ⟨[], allBlank_nil, ?_⟩
    rw [List.append_assoc, List.cons_append, before_append_cons _ _ _ absent,
      before_append_cons _ _ _ absent, List.append_nil]
  · have absent : mark ∉ right := not_mem_of_allBlank mark solid right blank
    refine ⟨right, blank, ?_⟩
    rw [before_append_of_not_mem _ _ _ occurs, before_of_not_mem _ _ absent,
      before_of_not_mem _ _ occurs]

/-- Blanks behind a text change none of its trimmed pieces: they end up behind
the last piece. The induction follows the pieces, each cut off at the first
mark. -/
theorem map_trim_splitOn_append (mark : Char) (solid : isBlank mark = false)
    (text right : Text) (blank : AllBlank right) :
    ((text ++ right).splitOn mark).map trim = (text.splitOn mark).map trim := by
  have notRight : mark ∉ right := not_mem_of_allBlank mark solid right blank
  induction length : text.length using Nat.strong_induction_on generalizing text with
  | _ size inductionHypothesis =>
    by_cases occurs : mark ∈ text
    · obtain ⟨left, rest, absent, rfl⟩ := exists_cut mark text occurs
      have shorter : rest.length < size := by
        rw [← length]
        simp only [List.length_append, List.length_cons]
        omega
      have later := inductionHypothesis rest.length shorter rest rfl
      rw [List.append_assoc, List.cons_append, List.splitOn_append_cons_self_of_not_mem absent,
        List.splitOn_append_cons_self_of_not_mem absent, List.map_cons, List.map_cons, later]
    · have absent : mark ∉ text ++ right := by simp [occurs, notRight]
      rw [List.splitOn_eq_singleton absent, List.splitOn_eq_singleton occurs]
      simp [trim_append_right text right blank]

/-- Blanks in front of a text change none of its trimmed pieces: they end up in
front of the first piece. No induction is needed here, since the first piece is
at hand. -/
theorem map_trim_splitOn_cons (mark : Char) (solid : isBlank mark = false)
    (left text : Text) (blank : AllBlank left) :
    ((left ++ text).splitOn mark).map trim = (text.splitOn mark).map trim := by
  have notLeft : mark ∉ left := not_mem_of_allBlank mark solid left blank
  by_cases occurs : mark ∈ text
  · obtain ⟨first, rest, absent, rfl⟩ := exists_cut mark text occurs
    have stillAbsent : mark ∉ left ++ first := by simp [notLeft, absent]
    rw [← List.append_assoc, List.splitOn_append_cons_self_of_not_mem stillAbsent,
      List.splitOn_append_cons_self_of_not_mem absent]
    simp [trim_append_left left first blank]
  · have absent : mark ∉ left ++ text := by simp [notLeft, occurs]
    rw [List.splitOn_eq_singleton absent, List.splitOn_eq_singleton occurs]
    simp [trim_append_left left text blank]

/-- Trimming a text before splitting it changes none of the trimmed pieces. The
blanks of the text are put back first in front and then behind. -/
theorem map_trim_splitOn_trim (mark : Char) (solid : isBlank mark = false) (text : Text) :
    ((trim text).splitOn mark).map trim = (text.splitOn mark).map trim := by
  obtain ⟨left, right, blankLeft, blankRight, parts⟩ := exists_pad text
  calc ((trim text).splitOn mark).map trim
      = ((left ++ trim text).splitOn mark).map trim :=
        (map_trim_splitOn_cons mark solid left (trim text) blankLeft).symm
    _ = ((left ++ trim text ++ right).splitOn mark).map trim :=
        (map_trim_splitOn_append mark solid (left ++ trim text) right blankRight).symm
    _ = (text.splitOn mark).map trim := by rw [← parts]

/-- A text with blanks around it that satisfies a rule. -/
def Padded (rule : Text → Prop) (text : Text) : Prop :=
  ∃ left core right, AllBlank left ∧ AllBlank right ∧ rule core ∧ text = left ++ core ++ right

/-- A rule that holds of trimmed texts only holds between blanks exactly when it
holds of the core. So a grammar with blanks around its parts can be compared
with a reading that trims. -/
theorem padded_iff (rule : Text → Prop) (trimmed : ∀ text, rule text → trim text = text)
    (text : Text) : Padded rule text ↔ rule (trim text) := by
  constructor
  · rintro ⟨left, core, right, blankLeft, blankRight, holds, rfl⟩
    rw [trim_pad left core right blankLeft blankRight, trimmed core holds]
    exact holds
  · intro holds
    obtain ⟨left, right, blankLeft, blankRight, parts⟩ := exists_pad text
    exact ⟨left, trim text, right, blankLeft, blankRight, holds, parts⟩

end LineAssembler.Text
