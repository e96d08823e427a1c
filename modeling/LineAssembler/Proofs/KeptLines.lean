import LineAssembler.Proofs.LineEndings
import LineAssembler.Proofs.NormalLines

/-!
# A program keeps every line of its text

Only line feeds separate lines; form feeds, line separators and carriage returns inside a
line do not. A line feed ends a line even if nothing stands in front of it, and what stands
behind the last line feed is a line only if it is not empty. The lines of a text are counted
and put together again from character to character: a line feed adds an empty line in front,
and any other character goes to the front of the first line.

Of a line nothing is lost but the carriage returns at its end. Where no carriage return
stands at the end of a line, a text is its lines joined by line feeds.
-/

namespace LineAssembler

namespace Text

/-- Every carriage return stands inside a line: something other than a line feed
follows it. -/
def ReturnsInside (text : Text) : Prop :=
  ∀ front back, text = front ++ '\r' :: back → back ≠ [] ∧ back.head? ≠ some '\n'

/-- The line feed at the end of a text, if there is one. -/
def finalFeed (text : Text) : Text := if text.getLast? = some '\n' then ['\n'] else []

/-- A character in front of a text does not change how it ends. -/
theorem getLast?_cons_of_ne_nil (c : Char) (rest : Text) (nonempty : rest ≠ []) :
    (c :: rest).getLast? = rest.getLast? := by
  obtain ⟨first, others, rfl⟩ := List.exists_cons_of_ne_nil nonempty
  exact List.getLast?_cons_cons

/-- Every line feed ends a line, and there is one more line if something stands
behind the last line feed. -/
theorem length_lines (text : Text) :
    (lines text).length =
      text.count '\n' + if text ≠ [] ∧ text.getLast? ≠ some '\n' then 1 else 0 := by
  induction text with
  | nil => rw [lines_nil]; rfl
  | cons c rest inductionHypothesis =>
    by_cases empty : rest = []
    · subst empty
      by_cases feed : c = '\n'
      · simp [feed, lines_lineFeed, lines_nil]
      · simp [feed, lines_cons, lines_nil, extendFirst]
    · have filled : 1 ≤ (lines rest).length :=
        List.length_pos_of_ne_nil (mt (lines_eq_nil_iff rest).mp empty)
      have ending : (c :: rest ≠ [] ∧ (c :: rest).getLast? ≠ some '\n') =
          (rest ≠ [] ∧ rest.getLast? ≠ some '\n') := by
        simp [getLast?_cons_of_ne_nil c rest empty, empty]
      simp only [ending]
      by_cases feed : c = '\n'
      · rw [feed, lines_lineFeed, List.length_cons, inductionHypothesis, List.count_cons_self]
        omega
      · rw [lines_cons c rest feed, length_extendFirst, Nat.max_eq_right filled,
          inductionHypothesis, List.count_cons_of_ne feed]

/-- The lines of a text, joined by line feeds, are the text without its last
line feed. By induction on the text. A line feed in front opens an empty line,
and any other character joins the first line; only where nothing follows does
the first character decide about the last line feed. -/
theorem intercalate_lines (text : Text) :
    ['\n'].intercalate (lines text) ++ finalFeed text = text := by
  induction text with
  | nil => rw [lines_nil]; rfl
  | cons c rest inductionHypothesis =>
    by_cases empty : rest = []
    · subst empty
      by_cases feed : c = '\n'
      · simp [feed, lines_lineFeed, lines_nil, finalFeed]
      · simp [feed, lines_cons, lines_nil, extendFirst, finalFeed]
    · obtain ⟨line, others, parts⟩ :=
        List.exists_cons_of_ne_nil (mt (lines_eq_nil_iff rest).mp empty)
      have ending : finalFeed (c :: rest) = finalFeed rest := by
        rw [finalFeed, getLast?_cons_of_ne_nil c rest empty, finalFeed]
      rw [ending]
      by_cases feed : c = '\n'
      · rw [feed, lines_lineFeed, parts, List.intercalate_cons_cons, ← parts, List.append_assoc,
          inductionHypothesis]
        rfl
      · have extended : ['\n'].intercalate ((c :: line) :: others) =
            c :: ['\n'].intercalate (line :: others) := by
          cases others <;> simp [List.intercalate_cons_cons]
        rw [lines_cons c rest feed, parts, extendFirst, extended, ← parts, List.cons_append,
          inductionHypothesis]

/-- A piece of a join is followed by a line feed or by nothing. By induction on
the pieces: the last has nothing behind it, and every other is followed by a
line feed and the rest. -/
theorem exists_surroundings (pieces : List Text) (piece : Text) (member : piece ∈ pieces) :
    ∃ front back, ['\n'].intercalate pieces = front ++ piece ++ back ∧
      (back = [] ∨ back.head? = some '\n') := by
  induction pieces with
  | nil => exact absurd member List.not_mem_nil
  | cons first rest inductionHypothesis =>
    by_cases empty : rest = []
    · subst empty
      obtain rfl := List.mem_singleton.mp member
      exact ⟨[], [], by simp, Or.inl rfl⟩
    · rw [List.intercalate_cons_of_ne_nil empty]
      rcases List.mem_cons.mp member with rfl | later
      · exact ⟨[], '\n' :: ['\n'].intercalate rest, by simp, Or.inr rfl⟩
      · obtain ⟨front, back, parts, ends⟩ := inductionHypothesis later
        exact ⟨first ++ '\n' :: front, back, by simp [parts], ends⟩

/-- A line of a text is followed by a line feed or by the end of the text. The
lines are joined to the text up to its last line feed, which follows the last
line if there is one. -/
theorem exists_surroundings_of_mem_lines (text line : Text) (member : line ∈ lines text) :
    ∃ front back, text = front ++ line ++ back ∧ (back = [] ∨ back.head? = some '\n') := by
  obtain ⟨front, back, parts, ends⟩ := exists_surroundings (lines text) line member
  refine ⟨front, back ++ finalFeed text, ?_, ?_⟩
  · rw [← List.append_assoc, ← parts, intercalate_lines]
  · rcases ends with rfl | feed
    · rw [finalFeed, List.nil_append]
      split
      case isTrue => exact Or.inr rfl
      case isFalse => exact Or.inl rfl
    · exact Or.inr (by rw [List.head?_append, feed]; rfl)

/-- Lines are the pieces between line feeds, at the same places; only an empty
last piece is no line. -/
theorem lines_prefix_splitOn (text : Text) : lines text <+: text.splitOn '\n' := by
  simp only [lines]
  split
  case isTrue => exact List.dropLast_prefix _
  case isFalse => exact List.prefix_refl _

/-- No line holds a line feed. -/
theorem not_mem_of_mem_lines (text line : Text) (member : line ∈ lines text) : '\n' ∉ line := by
  intro feed
  have piece : line ∈ text.splitOn '\n' := (lines_prefix_splitOn text).subset member
  exact (mem_of_mem_splitOn '\n' text line piece '\n' feed).2 rfl

/-- What is left of a line does not end in a carriage return. Seen from the end,
dropping stops at the first character that is none. -/
theorem getLast?_withoutEnding (raw : Text) : (withoutEnding raw).getLast? ≠ some '\r' := by
  intro returns
  rw [withoutEnding, dropTrailing, List.getLast?_reverse] at returns
  have kept := List.head?_dropWhile_not (fun c => c == '\r' || c == '\n') raw.reverse
  rw [returns] at kept
  simp at kept

/-- A line loses the carriage returns at its end and nothing else. Line feeds
would be dropped too, but a line holds none. -/
theorem exists_returns (line : Text) (unbroken : '\n' ∉ line) :
    ∃ count, line = withoutEnding line ++ List.replicate count '\r' := by
  obtain ⟨dropped, ending, parts⟩ :=
    exists_dropTrailing (fun c => c == '\r' || c == '\n') line
  have returns : ∀ c ∈ dropped, c = '\r' := by
    intro c member
    have inside : c ≠ '\n' := by
      rintro rfl
      exact unbroken (parts ▸ List.mem_append_right _ member)
    simpa [inside] using ending c member
  rw [List.eq_replicate_of_mem returns] at parts
  exact ⟨dropped.length, parts⟩

/-- If every carriage return stands inside a line, the lines have no ending to
lose. A carriage return at the end of a line would be followed in the text by a
line feed or by nothing, and neither is inside a line. -/
theorem withoutEnding_of_returnsInside (text : Text) (inside : ReturnsInside text) (line : Text)
    (member : line ∈ lines text) : withoutEnding line = line := by
  obtain ⟨count, parts⟩ := exists_returns line (not_mem_of_mem_lines text line member)
  cases count with
  | zero => rw [List.replicate_zero, List.append_nil] at parts; exact parts.symm
  | succ count =>
    -- The last carriage return of the line would stand before a line feed or the end.
    obtain ⟨front, back, whole, ends⟩ := exists_surroundings_of_mem_lines text line member
    rw [List.replicate_succ'] at parts
    have cut : text =
        (front ++ (withoutEnding line ++ List.replicate count '\r')) ++ '\r' :: back := by
      conv_lhs => rw [whole, parts]
      simp
    obtain ⟨more, different⟩ := inside _ _ cut
    exact absurd ends (not_or.mpr ⟨more, different⟩)

end Text

namespace SourceLine

/-- A line without a first word has nothing behind it. The first character of a
trimmed line that is not empty is not blank, so it would belong to a first word. -/
theorem splitMnemonic_of_nameless (line : Text) (nameless : (splitMnemonic line).1 = []) :
    (splitMnemonic line).2 = [] := by
  cases trimmed : Text.trim line with
  | nil =>
    simp only [splitMnemonic, trimmed]
    rfl
  | cons c rest =>
    have solid : Text.isBlank c = false := Text.not_isBlank_head_trim line c (by rw [trimmed]; simp)
    rw [splitMnemonic, trimmed, Text.lower_eq_nil_iff, List.takeWhile_cons_of_pos (by simp [solid])]
      at nameless
    contradiction

end SourceLine

namespace Instruction

/-- A blank line has no operands. It has no first word, so nothing is left
behind it that could be an operand. -/
theorem operands_of_isBlank (line : Option Int) (raw : Text)
    (blank : (ofLine line raw).isBlank = true) : (ofLine line raw).operands = [] := by
  rw [isBlank, mnemonic_ofLine, List.isEmpty_iff] at blank
  rw [operands_ofLine, SourceLine.splitMnemonic_of_nameless _ blank,
    SourceLine.splitOperands_eq_nil_iff]
  exact Text.allBlank_nil

/-- The text of a line is kept without its ending. -/
theorem text_ofLine (line : Option Int) (raw : Text) :
    (ofLine line raw).text = Text.withoutEnding raw := rfl

end Instruction

namespace Program

/-- The texts of a program are the lines of its text without their endings. Both
lists are compared place by place. -/
theorem map_text_ofText (text : Text) :
    (ofText text).map Instruction.text = (Text.lines text).map Text.withoutEnding := by
  apply List.ext_getElem?
  intro index
  rw [List.getElem?_map, getElem?_ofText, Option.map_map, List.getElem?_map]
  rfl

/-- A program keeps every line of its text and its position. There is a line for
every line feed, and one more for what stands behind the last of them. The line
at a place has the number of the place, and its text is the piece between line
feeds at the place, without the carriage returns at its end; a blank line has no
operands. If no carriage return stands before a line feed or at the end, the
texts joined by line feeds are the whole.

Proof: lines are the pieces between line feeds, without an empty last piece. A
piece holds no line feed, so what it loses at its end are carriage returns, and
if none stands there the lines are joined to the text again. -/
theorem ofText_keeps_lines (text : Text) :
    (ofText text).length =
      text.count '\n' + (if text ≠ [] ∧ text.getLast? ≠ some '\n' then 1 else 0) ∧
    (∀ (index : Nat) (instruction : Instruction), (ofText text)[index]? = some instruction →
      instruction.line = some (index + 1 : Int) ∧
      instruction.text.getLast? ≠ some '\r' ∧
      ∃ count, (text.splitOn '\n')[index]? =
        some (instruction.text ++ List.replicate count '\r')) ∧
    (∀ instruction ∈ ofText text, instruction.isBlank = true → instruction.operands = []) ∧
    (Text.ReturnsInside text →
      ['\n'].intercalate ((ofText text).map Instruction.text) ++
        (if text.getLast? = some '\n' then ['\n'] else []) = text) := by
  refine ⟨?_, ?_, ?_, ?_⟩
  · rw [length_ofText, Text.length_lines]
  · intro index instruction found
    refine ⟨numbered_ofText text index instruction found, ?_⟩
    rw [getElem?_ofText, Option.map_eq_some_iff] at found
    obtain ⟨raw, line, rfl⟩ := found
    have unbroken := Text.not_mem_of_mem_lines text raw (List.mem_of_getElem? line)
    obtain ⟨count, parts⟩ := Text.exists_returns raw unbroken
    refine ⟨Text.getLast?_withoutEnding raw, count, ?_⟩
    obtain ⟨tail, pieces⟩ := Text.lines_prefix_splitOn text
    obtain ⟨inside, _⟩ := List.getElem?_eq_some_iff.mp line
    rw [Instruction.text_ofLine, ← parts, ← pieces, List.getElem?_append_left inside, line]
  · intro instruction member blank
    obtain ⟨index, found⟩ := List.mem_iff_getElem?.mp member
    rw [getElem?_ofText, Option.map_eq_some_iff] at found
    obtain ⟨raw, _, rfl⟩ := found
    exact Instruction.operands_of_isBlank _ raw blank
  · intro inside
    have kept : (Text.lines text).map Text.withoutEnding = Text.lines text :=
      (List.map_congr_left (Text.withoutEnding_of_returnsInside text inside)).trans
        (List.map_id' _)
    rw [map_text_ofText, kept]
    exact Text.intercalate_lines text

/-- A carriage return inside a line, a form feed and two line feeds at the end
are kept. -/
theorem ofText_keeps_lines_return :
    Text.ReturnsInside ['a', '\r', 'b', '\x0c', '\n', '\n'] ∧
      ['\n'].intercalate ((ofText ['a', '\r', 'b', '\x0c', '\n', '\n']).map Instruction.text) ++
        ['\n'] = ['a', '\r', 'b', '\x0c', '\n', '\n'] := by
  have inside : Text.ReturnsInside ['a', '\r', 'b', '\x0c', '\n', '\n'] := by
    intro front back parts
    rcases front with _ | ⟨first, _ | ⟨second, front⟩⟩
    · exact absurd (List.cons.inj parts).1 (by decide)
    · obtain rfl := (List.cons.inj (List.cons.inj parts).2).2
      decide
    · have later : '\r' ∈ ['b', '\x0c', '\n', '\n'] := by
        rw [(List.cons.inj (List.cons.inj parts).2).2]
        exact List.mem_append_right front List.mem_cons_self
      exact absurd later (by decide)
  exact ⟨inside, (ofText_keeps_lines _).2.2.2 inside⟩

end Program

end LineAssembler
