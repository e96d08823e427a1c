import LineAssembler.CommandLine.Run
import LineAssembler.Proofs.Composition

/-!
# Line endings in a file and in a text

Text that is read from a file has its carriage returns replaced by line feeds; text that
is handed over directly keeps them, and splitting a line drops those at its end. The two
ways give the same program exactly when every carriage return is part of a line ending:
a line feed follows it, or the text ends with it.

Both ways are followed from character to character. A carriage return that is not part
of a line ending starts a new line in the file and none in the text, so the file has
more lines. Where there is none, the lines differ at most in what stands at their ends.
-/

namespace LineAssembler

namespace Text

/-- Every carriage return is part of a line ending: nothing follows it, or a
line feed does. -/
def ReturnsEndLines (text : Text) : Prop :=
  ∀ front back, text = front ++ '\r' :: back → back = [] ∨ back.head? = some '\n'

/-- A line without the carriage returns and line feeds at its end. -/
def withoutEnding (raw : Text) : Text := dropTrailing (fun c => c == '\r' || c == '\n') raw

/-- A character at the front of a text stands at the front of its first line; if
there is no line, it makes one. -/
def extendFirst (c : Char) : List Text → List Text
  | [] => [[c]]
  | line :: rest => (c :: line) :: rest

/-- The carriage returns of a text are looked at one by one. A cut of the text
at a carriage return is the one at its first character or a cut of the rest. -/
theorem returnsEndLines_cons_iff (c : Char) (rest : Text) :
    ReturnsEndLines (c :: rest) ↔
      (c = '\r' → rest = [] ∨ rest.head? = some '\n') ∧ ReturnsEndLines rest := by
  constructor
  · intro ends
    refine ⟨fun returns => ends [] rest (by simp [returns]), ?_⟩
    intro front back parts
    exact ends (c :: front) back (by simp [parts])
  · rintro ⟨first, later⟩ front back parts
    cases front with
    | nil =>
      obtain ⟨returns, rfl⟩ := List.cons.inj parts
      exact first returns
    | cons _ front => exact later front back (List.cons.inj parts).2

/-- A line feed at the front of a text ends an empty line. -/
theorem lines_lineFeed (text : Text) : lines ('\n' :: text) = [] :: lines text := by
  simpa using lines_append_cons [] text

/-- Any other character at the front of a text belongs to the first line. It
extends the first piece between line feeds; a single empty piece, which would
have been dropped, is a line now. -/
theorem lines_cons (c : Char) (text : Text) (inside : c ≠ '\n') :
    lines (c :: text) = extendFirst c (lines text) := by
  obtain ⟨piece, pieces, split⟩ :=
    List.exists_cons_of_ne_nil (List.splitOn_ne_nil '\n' text)
  have extended : (c :: text).splitOn '\n' = (c :: piece) :: pieces := by
    rw [List.splitOn_cons_eq_if_modifyHead, if_neg (by simpa using inside), split]
    rfl
  simp only [lines, extended, split]
  cases pieces with
  | nil => cases piece <;> simp [extendFirst]
  | cons next others =>
    simp only [List.getLast?_cons_cons, List.dropLast_cons_cons]
    split <;> rfl

/-- Only the empty text has no lines: a line feed has the empty line in front of
it, and any other character is part of a line. -/
theorem lines_eq_nil_iff (text : Text) : lines text = [] ↔ text = [] := by
  cases text with
  | nil => simp [lines_nil]
  | cons c rest =>
    by_cases feed : c = '\n'
    · simp [feed, lines_lineFeed]
    · rw [lines_cons c rest feed]
      cases lines rest <;> simp [extendFirst]

/-- A character at the front of the first line makes a new line only if there is
none, as in a text that ends with this character. -/
theorem length_extendFirst (c : Char) (texts : List Text) :
    (extendFirst c texts).length = max 1 texts.length := by
  cases texts with
  | nil => rfl
  | cons line rest => simp [extendFirst]

/-- A carriage return before a line feed is the whole line of the two. -/
theorem lines_return_lineFeed (text : Text) :
    lines ('\r' :: '\n' :: text) = ['\r'] :: lines text := by
  rw [lines_cons _ _ (by decide), lines_lineFeed]
  rfl

/-- Reading from a file splits lines but never joins them. The induction follows
the normalization: a carriage return before a line feed is dropped without a
trace in the number of lines, one elsewhere opens a line, and all else is kept. -/
theorem length_lines_le (text : Text) :
    (lines text).length ≤ (lines (normalizeNewlines text)).length := by
  fun_induction normalizeNewlines text with
  | case1 => exact Nat.le_refl _
  | case2 rest inductionHypothesis =>
    rw [lines_return_lineFeed, lines_lineFeed]
    simpa using inductionHypothesis
  | case3 c rest _ inductionHypothesis =>
    by_cases returns : c = '\r'
    · rw [if_pos returns, lines_lineFeed, lines_cons c rest (by simp [returns]),
        length_extendFirst, List.length_cons]
      omega
    · rw [if_neg returns]
      by_cases feed : c = '\n'
      · rw [feed, lines_lineFeed, lines_lineFeed]
        simpa using inductionHypothesis
      · rw [lines_cons c _ feed, lines_cons c _ feed, length_extendFirst, length_extendFirst]
        omega

/-- If reading from a file does not make more lines, every carriage return is
part of a line ending: any other one would start a line that the text does not
have. -/
theorem returnsEndLines_of_length_le (text : Text)
    (same : (lines (normalizeNewlines text)).length ≤ (lines text).length) :
    ReturnsEndLines text := by
  fun_induction normalizeNewlines text with
  | case1 =>
    intro front back parts
    simp at parts
  | case2 rest inductionHypothesis =>
    rw [lines_return_lineFeed, lines_lineFeed] at same
    have later : ReturnsEndLines rest := inductionHypothesis (by simpa using same)
    simp [returnsEndLines_cons_iff, later]
  | case3 c rest unpaired inductionHypothesis =>
    have grows := length_lines_le rest
    rw [returnsEndLines_cons_iff]
    by_cases returns : c = '\r'
    · rw [if_pos returns, lines_lineFeed, lines_cons c rest (by simp [returns]),
        length_extendFirst, List.length_cons] at same
      -- The text has one line here and the file two, unless nothing follows.
      have nothing : lines rest = [] := List.length_eq_zero_iff.mp (by omega)
      have last : rest = [] := (lines_eq_nil_iff rest).mp nothing
      exact ⟨fun _ => Or.inl last, inductionHypothesis (by simp [last, normalizeNewlines])⟩
    · refine ⟨fun found => absurd found returns, inductionHypothesis ?_⟩
      rw [if_neg returns] at same
      by_cases feed : c = '\n'
      · rw [feed, lines_lineFeed, lines_lineFeed] at same
        simpa using same
      · rw [lines_cons c _ feed, lines_cons c _ feed, length_extendFirst, length_extendFirst] at same
        rcases Nat.eq_zero_or_pos (lines rest).length with empty | filled
        · obtain rfl := (lines_eq_nil_iff rest).mp (List.length_eq_zero_iff.mp empty)
          exact Nat.le_refl _
        · omega

/-- A character that is not a line ending keeps everything before it. -/
theorem withoutEnding_cons (c : Char) (line : Text) (solid : c ≠ '\r') (inside : c ≠ '\n') :
    withoutEnding (c :: line) = c :: withoutEnding line := by
  have kept : (c == '\r' || c == '\n') = false := by simp [solid, inside]
  exact dropTrailing_append_cons _ [] line c kept

/-- Dropping the ending of a line again changes nothing. What was dropped may be
put back before dropping, which gives the line with its ending. -/
theorem withoutEnding_withoutEnding (raw : Text) :
    withoutEnding (withoutEnding raw) = withoutEnding raw := by
  obtain ⟨dropped, ending, parts⟩ :=
    exists_dropTrailing (fun c => c == '\r' || c == '\n') raw
  have same := dropTrailing_append_of_all _ (withoutEnding raw) dropped ending
  rw [withoutEnding, ← parts] at same
  exact same.symm

/-- If every carriage return is part of a line ending, reading from a file
changes nothing but what stands at the ends of lines. -/
theorem map_withoutEnding_lines (text : Text) (ends : ReturnsEndLines text) :
    (lines (normalizeNewlines text)).map withoutEnding = (lines text).map withoutEnding := by
  fun_induction normalizeNewlines text with
  | case1 => rfl
  | case2 rest inductionHypothesis =>
    rw [returnsEndLines_cons_iff, returnsEndLines_cons_iff] at ends
    rw [lines_return_lineFeed, lines_lineFeed, List.map_cons, List.map_cons,
      inductionHypothesis ends.2.2]
    rfl
  | case3 c rest unpaired inductionHypothesis =>
    rw [returnsEndLines_cons_iff] at ends
    by_cases returns : c = '\r'
    · -- Unless nothing follows, a line feed does, and this is the other case.
      rcases ends.1 returns with rfl | paired
      · subst returns
        rfl
      · obtain ⟨others, rfl⟩ := List.head?_eq_some_iff.mp paired
        exact absurd rfl (unpaired others returns)
    · rw [if_neg returns]
      have later := inductionHypothesis ends.2
      by_cases feed : c = '\n'
      · rw [feed, lines_lineFeed, lines_lineFeed, List.map_cons, List.map_cons, later]
      · rw [lines_cons c _ feed, lines_cons c _ feed]
        revert later
        cases lines (normalizeNewlines rest) <;> cases lines rest <;>
          simp +contextual [extendFirst, withoutEnding_cons, returns, feed]

end Text

/-- Splitting a line does not depend on its ending, which is dropped first of
all. -/
theorem Instruction.ofLine_withoutEnding (line : Option Int) (raw : Text) :
    Instruction.ofLine line (Text.withoutEnding raw) = Instruction.ofLine line raw := by
  have same := Text.withoutEnding_withoutEnding raw
  simp only [Text.withoutEnding] at same ⊢
  simp only [Instruction.ofLine, same]

namespace Program

/-- A program depends on the lines of its text without their endings. An
instruction is split from a line without looking at the ending, and its number
comes from its place. -/
theorem ofText_congr (left right : Text)
    (same : (Text.lines left).map Text.withoutEnding = (Text.lines right).map Text.withoutEnding) :
    ofText left = ofText right := by
  have stripped : ∀ text, ofText text = ((Text.lines text).map Text.withoutEnding).mapIdx
      fun index raw => Instruction.ofLine (some (index + 1 : Nat)) raw := by
    intro text
    simp [ofText, List.mapIdx_eq_zipIdx_map, List.zipIdx_map, Instruction.ofLine_withoutEnding]
  rw [stripped, stripped, same]

/-- A program has as many lines as its text. -/
theorem length_ofText (text : Text) : (ofText text).length = (Text.lines text).length :=
  List.length_mapIdx

/-- A text gives the same program when it is read from a file exactly if every
carriage return is part of a line ending. -/
theorem ofText_normalizeNewlines_iff (text : Text) :
    ofText (Text.normalizeNewlines text) = ofText text ↔ Text.ReturnsEndLines text := by
  constructor
  · intro same
    apply Text.returnsEndLines_of_length_le
    rw [← length_ofText, ← length_ofText, same]
  · intro ends
    exact ofText_congr _ _ (Text.map_withoutEnding_lines text ends)

end Program

/-- A file and its text agree. A text gives the same program when it is read
from a file exactly if every carriage return is part of a line ending, and then
a file that holds the text, in whatever store, is assembled to the same words
and diagnostics as the text itself.

Proof: a carriage return elsewhere makes one line more than there was, and none
is ever lost, so the programs differ in length. Where every one is part of a
line ending, the lines are the same without their endings, on which a program
does not depend. -/
theorem source_agrees_with_text (text : Text) :
    (Program.ofText (Text.normalizeNewlines text) = Program.ofText text ↔
      Text.ReturnsEndLines text) ∧
    (Text.ReturnsEndLines text →
      ∀ (σ : Type) [FileStore σ] (files : σ) (path : Path) (bytes : List UInt8),
      FileStore.read files path = .ok bytes → Text.Utf8.decode bytes = .ok text →
      ∃ source, CommandLine.readSource (FileStore.read files path) = .ok source ∧
        Program.ofText source = Program.ofText text ∧
        (Program.ofText source).assemble (some path.text) =
          (Program.ofText text).assemble (some path.text)) := by
  refine ⟨Program.ofText_normalizeNewlines_iff text, ?_⟩
  intro ends σ _ files path bytes stored decoded
  have same := (Program.ofText_normalizeNewlines_iff text).mpr ends
  refine ⟨Text.normalizeNewlines text, ?_, same, by rw [same]⟩
  rw [stored, CommandLine.readSource, decoded]
  rfl

/-- A file whose lines end in all three ways is assembled like its text. -/
theorem source_agrees_with_text_mixed :
    Text.ReturnsEndLines "nop\r\nfoo\nhalt\r".toList ∧
      ∃ source, CommandLine.readSource (FileSystem.read
          ⟨[(["a".toList], .file (Text.Utf8.encode "nop\r\nfoo\nhalt\r".toList))]⟩
          ⟨"a".toList, by decide⟩) = .ok source ∧
        Program.ofText source = Program.ofText "nop\r\nfoo\nhalt\r".toList ∧
        (Program.ofText source).assemble (some "a".toList) =
          (Program.ofText "nop\r\nfoo\nhalt\r".toList).assemble (some "a".toList) := by
  have ends : Text.ReturnsEndLines "nop\r\nfoo\nhalt\r".toList := by
    apply Text.returnsEndLines_of_length_le
    decide +kernel
  refine ⟨ends, ?_⟩
  exact (source_agrees_with_text _).2 ends FileSystem _ ⟨"a".toList, by decide⟩ _ rfl rfl

end LineAssembler
