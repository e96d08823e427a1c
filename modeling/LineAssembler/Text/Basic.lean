import LineAssembler.Text.CodePoint

/-!
# Text

Text is a list of characters. The operations here cut text at a mark and trim
blank characters from its ends; cutting at every mark is `List.splitOn`, and
joining is `List.intercalate`. Lines end with a line feed. A file may also end its lines
with a carriage return, or with both; text read from a file has line feeds only.
-/

namespace LineAssembler

/-- Text is read and written character by character. -/
abbrev Text := List Char

namespace Text

/-- Remove the longest run of characters at the end that all satisfy `p`. -/
def dropTrailing (p : Char → Bool) (text : Text) : Text :=
  (text.reverse.dropWhile p).reverse

/-- Remove the blank characters at both ends. -/
def trim (text : Text) : Text :=
  dropTrailing isBlank (text.dropWhile isBlank)

/-- What stands before the first occurrence of `mark`; all of the text if there
is none. -/
def before (mark : Char) (text : Text) : Text :=
  text.takeWhile (· != mark)

/-- What stands after the first occurrence of `mark`; nothing if there is none. -/
def after (mark : Char) (text : Text) : Text :=
  (text.dropWhile (· != mark)).drop 1

/-- The lines, each ended by a line feed. -/
def ofLines (lines : List Text) : Text :=
  lines.flatMap (· ++ ['\n'])

/-- The lines of a text. A line feed ends a line; only a last line that is not
empty may lack one. -/
def lines (text : Text) : List Text :=
  let pieces := text.splitOn '\n'
  if pieces.getLast? = some [] then pieces.dropLast else pieces

/-- Replace every carriage return, together with a line feed right after it, by
one line feed. -/
def normalizeNewlines : Text → Text
  | [] => []
  | '\r' :: '\n' :: rest => '\n' :: normalizeNewlines rest
  | c :: rest => (if c = '\r' then '\n' else c) :: normalizeNewlines rest

/-- The order of texts by their code points, in which a text stands before its
continuations. -/
def precedes : Text → Text → Bool
  | [], _ => true
  | _ :: _, [] => false
  | a :: as, b :: bs => a.toNat < b.toNat || (a == b && precedes as bs)

/-- The lines of two lists one behind the other. -/
theorem ofLines_append (first second : List Text) :
    ofLines (first ++ second) = ofLines first ++ ofLines second :=
  List.flatMap_append

/-- Cutting at a mark that occurs loses nothing but the mark. By induction on
the text, up to the first mark. -/
theorem before_append_after (mark : Char) (text : Text) (occurs : mark ∈ text) :
    before mark text ++ mark :: after mark text = text := by
  induction text with
  | nil => simp at occurs
  | cons c rest inductionHypothesis =>
    by_cases same : c = mark
    · simp [before, after, same]
    · have later : mark ∈ rest := by
        rcases List.mem_cons.mp occurs with found | found
        · exact absurd found.symm same
        · exact found
      simpa [before, after, same] using inductionHypothesis later

/-- The part before a mark does not contain it, as it ends at the first one. -/
theorem not_mem_before (mark : Char) (text : Text) : mark ∉ before mark text := by
  induction text with
  | nil => simp [before]
  | cons c rest inductionHypothesis =>
    by_cases same : c = mark
    · simp [before, same]
    · have different : ¬mark = c := fun found => same found.symm
      simpa [before, same, different] using inductionHypothesis

end Text

end LineAssembler
