import LineAssembler.Proofs.LineAccounting
import LineAssembler.Proofs.SourceLines

/-!
# Assembling texts one after the other

A text that is empty or ends in a line feed can be continued: the lines of the whole
are its own lines and, moved down by their number, the lines of the continuation.
Assembling the whole is assembling the two parts in turn. Nothing is carried from one
line to the next, so the words and diagnostics of the second part change in their line
numbers only; the first line that exceeds the digit limit ends the whole as it ends
its own part.

A line number takes no part in encoding. The word of a line is therefore a function of
the line alone, wherever it stands.
-/

namespace LineAssembler

namespace Text

/-- A text that is empty or ends in a line feed, so that what is appended to it
starts a new line. -/
def Closed (text : Text) : Prop := text = [] ∨ text.getLast? = some '\n'

/-- The empty text has no lines. -/
theorem lines_nil : lines [] = [] := by
  simp [lines]

/-- A line feed separates the pieces in front of it from the lines behind it.
Whether an empty last piece is dropped is decided behind the line feed alone,
because the text behind it has a last piece of its own. -/
theorem lines_append_cons (front back : Text) :
    lines (front ++ '\n' :: back) = front.splitOn '\n' ++ lines back := by
  have nonempty : back.splitOn '\n' ≠ [] := List.splitOn_ne_nil '\n' back
  simp only [lines, List.splitOn_append_cons_self, List.getLast?_append,
    List.getLast?_eq_some_getLast nonempty, Option.some_or]
  split
  case isTrue => exact List.dropLast_append_of_ne_nil nonempty
  case isFalse => rfl

/-- The lines of a closed text come before the lines of its continuation. An
empty text has none; otherwise its last line feed parts the two, with nothing
between it and the continuation. -/
theorem lines_append (front back : Text) (closed : Closed front) :
    lines (front ++ back) = lines front ++ lines back := by
  rcases closed with rfl | ending
  · rw [lines_nil]
    rfl
  · obtain ⟨body, rfl⟩ := List.getLast?_eq_some_iff.mp ending
    rw [List.append_assoc, List.singleton_append, lines_append_cons, lines_append_cons, lines_nil,
      List.append_nil]

end Text

/-- A line that stands further down by some lines. -/
def Instruction.moved (distance : Nat) (instruction : Instruction) : Instruction :=
  { instruction with line := instruction.line.map (· + (distance : Int)) }

/-- A word whose line stands further down by some lines. -/
def Encoded.moved (distance : Nat) (encoded : Encoded) : Encoded :=
  { encoded with line := encoded.line.map (· + (distance : Int)) }

/-- A diagnostic whose line stands further down by some lines. -/
def Diagnostic.moved (distance : Nat) (diagnostic : Diagnostic) : Diagnostic :=
  { diagnostic with line := diagnostic.line.map (· + (distance : Int)) }

namespace Assembly

/-- The words and the diagnostics of two assemblies one after the other. -/
def append (first second : Assembly) : Assembly :=
  ⟨first.words ++ second.words, first.diagnostics ++ second.diagnostics⟩

/-- An assembly of lines that stand further down by some lines. -/
def moved (distance : Nat) (assembly : Assembly) : Assembly :=
  ⟨assembly.words.map (Encoded.moved distance),
    assembly.diagnostics.map (Diagnostic.moved distance)⟩

end Assembly

namespace Instruction

/-- A line is split in the same way under every number. -/
theorem withLine_ofLine (line other : Option Int) (raw : Text) :
    { ofLine line raw with line := other } = ofLine other raw := by
  rw [ofLine_eq, ofLine_eq]

/-- Moving a line down changes the number under which it is split. -/
theorem moved_ofLine (distance : Nat) (line : Option Int) (raw : Text) :
    (ofLine line raw).moved distance = ofLine (line.map (· + (distance : Int))) raw := by
  simp only [moved, ofLine_eq]

/-- Whether a line is blank does not depend on its number. -/
theorem isBlank_ofLine (line other : Option Int) (raw : Text) :
    (ofLine line raw).isBlank = (ofLine other raw).isBlank := by
  simp only [isBlank, ofLine_eq]

/-- A line at another number is encoded as before, under that number. The fields
are made of the mnemonic and the operands, and the number is only taken over. -/
theorem encode_withLine (instruction : Instruction) (line : Option Int) :
    { instruction with line }.encode =
      instruction.encode.map fun encoded => { encoded with line } := by
  have sameFields : { instruction with line }.fields = instruction.fields := rfl
  simp only [encode_eq, sameFields]
  cases instruction.fields <;> rfl

/-- A line that is moved down is encoded as before, and its word is moved down.
The number of a line is taken over into its word and used for nothing else. -/
theorem encode_moved (distance : Nat) (instruction : Instruction) :
    (instruction.moved distance).encode = instruction.encode.map (Encoded.moved distance) := by
  rw [moved, encode_withLine]
  cases encoding : instruction.encode with
  | error failure => rfl
  | ok encoded =>
    have sameLine := (instruction.represents_of_encode encoded encoding).line
    simp only [Except.map, Encoded.moved, sameLine]

end Instruction

namespace Program

/-- The lines of a closed text come before the lines of its continuation, which
are moved down by the number of lines before them. -/
theorem ofText_append (front back : Text) (closed : Text.Closed front) :
    ofText (front ++ back) =
      ofText front ++ (ofText back).map (Instruction.moved (ofText front).length) := by
  have places : (ofText front).length = (Text.lines front).length := by simp [ofText]
  apply List.ext_getElem?
  intro index
  rw [getElem?_ofText, Text.lines_append front back closed, List.getElem?_append,
    List.getElem?_append, places]
  split
  case isTrue => rw [getElem?_ofText]
  case isFalse behind =>
    have number : ((index - (Text.lines front).length : Nat) : Int) + 1 +
        ((Text.lines front).length : Nat) = (index : Int) + 1 := by omega
    have split : Instruction.moved (Text.lines front).length ∘
        Instruction.ofLine (some ((index - (Text.lines front).length : Nat) + 1 : Int)) =
        Instruction.ofLine (some (index + 1 : Int)) := by
      funext raw
      rw [Function.comp_apply, Instruction.moved_ofLine, Option.map_some, number]
    rw [List.getElem?_map, getElem?_ofText, Option.map_map, split]

/-- Moving a program down moves its words and diagnostics down and changes
nothing else. The induction follows the assembly from line to line. -/
theorem assemble_map_moved (file : Option Text) (distance : Nat) (program : Program) :
    (assemble file (program.map (Instruction.moved distance))).result =
      (assemble file program).result.map (Assembly.moved distance) := by
  induction program with
  | nil => rfl
  | cons instruction rest inductionHypothesis =>
    have sameBlank : (instruction.moved distance).isBlank = instruction.isBlank := rfl
    rw [List.map_cons, assemble_step, assemble_step, sameBlank, Instruction.encode_moved]
    by_cases blank : instruction.isBlank = true
    · rw [if_pos blank, if_pos blank]
      exact inductionHypothesis
    · rw [if_neg blank, if_neg blank]
      cases instruction.encode with
      | ok encoded =>
        simp only [Except.map, Assembly.Outcome.withWord, Recorded.after, inductionHypothesis]
        cases (assemble file rest).result <;> rfl
      | error failure =>
        cases failure with
        | fault fault =>
          simp only [Except.map, Assembly.Outcome.withDiagnostic, inductionHypothesis]
          cases (assemble file rest).result <;> rfl
        | limit limit => rfl

/-- Assembling a program in two parts: the first part that has no result ends
the whole, and otherwise the words and diagnostics of the parts stand one after
the other. -/
theorem assemble_append_eq_bind (file : Option Text) (before after : Program) :
    (assemble file (before ++ after)).result =
      (assemble file before).result.bind fun first =>
        (assemble file after).result.map fun second => first.append second := by
  rcases withinLimit_or_exists_first before with
    within | ⟨front, instruction, behind, limit, rfl, within, solid, failure⟩
  · rw [assemble_append file before after within, assemble_of_withinLimit file before within]
    rfl
  · rw [assemble_of_limit file front behind instruction limit within solid failure,
      List.append_assoc, List.cons_append,
      assemble_of_limit file front (behind ++ after) instruction limit within solid failure]
    rfl

/-- Assembling a closed text with its continuation. The continuation is
assembled as if it stood alone and is moved down behind the front; if either
ends at the digit limit there is no result, and the front is asked first. -/
theorem assemble_ofText_append (file : Option Text) (front back : Text)
    (closed : Text.Closed front) :
    ((ofText (front ++ back)).assemble file).result =
      ((ofText front).assemble file).result.bind fun first =>
        ((ofText back).assemble file).result.map fun second =>
          first.append (second.moved (ofText front).length) := by
  rw [ofText_append front back closed, assemble_append_eq_bind, assemble_map_moved]
  cases ((ofText front).assemble file).result with
  | error limit => rfl
  | ok first => cases ((ofText back).assemble file).result <;> rfl

/-- A line of a text that is assembled has a word exactly when it is not blank
and is encoded. -/
theorem mem_words_iff (file : Option Text) (text : Text) (assembly : Assembly)
    (assembled : ((ofText text).assemble file).result = .ok assembly) (index : Nat) (raw : Text)
    (found : (Text.lines text)[index]? = some raw) (encoded : Encoded) :
    encoded ∈ assembly.words ∧ encoded.line = some (index + 1 : Int) ↔
      (Instruction.ofLine (some (index + 1 : Int)) raw).isBlank = false ∧
        (Instruction.ofLine (some (index + 1 : Int)) raw).encode = .ok encoded := by
  have placed : (ofText text)[index]? = some (Instruction.ofLine (some (index + 1 : Int)) raw) := by
    rw [getElem?_ofText, found, Option.map_some]
  have member : Instruction.ofLine (some (index + 1 : Int)) raw ∈ ofText text :=
    List.mem_of_getElem? placed
  constructor
  · rintro ⟨word, line⟩
    obtain ⟨instruction, belongs, solid, represents⟩ := exists_of_mem_words assembled encoded word
    have sameLine : instruction.line = (Instruction.ofLine (some (index + 1 : Int)) raw).line :=
      represents.line.symm.trans line
    obtain rfl := (numbered_ofText text).eq_of_line_eq _ _ belongs member sameLine
    exact ⟨solid, represents.encodes⟩
  · rintro ⟨solid, success⟩
    obtain ⟨_, rfl⟩ := (assemble_eq_ok_iff file _ assembly).mp assembled
    have word := (Instruction.word?_eq_some_iff _ encoded).mpr ⟨solid, success⟩
    exact ⟨List.mem_filterMap.mpr ⟨_, member, word⟩,
      (Instruction.represents_of_encode _ encoded success).line⟩

/-- The same line in two texts that are assembled has the same word in both,
under the number that it has in each. -/
theorem word_of_line (file : Option Text) (text other : Text) (assembly others : Assembly)
    (assembled : ((ofText text).assemble file).result = .ok assembly)
    (otherAssembled : ((ofText other).assemble file).result = .ok others) (index place : Nat)
    (raw : Text) (found : (Text.lines text)[index]? = some raw)
    (otherFound : (Text.lines other)[place]? = some raw) (encoded : Encoded)
    (word : encoded ∈ assembly.words) (line : encoded.line = some (index + 1 : Int)) :
    { encoded with line := some (place + 1 : Int) } ∈ others.words := by
  obtain ⟨solid, success⟩ :=
    (mem_words_iff file text assembly assembled index raw found encoded).mp ⟨word, line⟩
  have renumbered := Instruction.encode_withLine
    (Instruction.ofLine (some (index + 1 : Int)) raw) (some (place + 1 : Int))
  rw [Instruction.withLine_ofLine, success] at renumbered
  rw [Instruction.isBlank_ofLine _ (some (place + 1 : Int))] at solid
  exact ((mem_words_iff file other others otherAssembled place raw otherFound _).mpr
    ⟨solid, renumbered⟩).1

end Program

/-- Assembly is compositional. Behind a closed text the lines of a continuation
are moved down by the lines before them. If both texts are assembled, so is the
whole, to the words and diagnostics of the first and, moved down, of the second;
a limit that ends the first ends the whole, and so does a limit that ends the
second after a first that is assembled. The word of a line is the same in every
text that is assembled, but for its number.

Proof: the whole is one equation, which binds the assembly of the front to that
of the continuation, moved down. The parts are its cases; a word is that of its
line at any number. -/
theorem assemble_composes (file : Option Text) (front back : Text) (closed : Text.Closed front) :
    Program.ofText (front ++ back) =
      Program.ofText front ++
        (Program.ofText back).map (Instruction.moved (Program.ofText front).length) ∧
    (∀ first second, ((Program.ofText front).assemble file).result = .ok first →
      ((Program.ofText back).assemble file).result = .ok second →
      ((Program.ofText (front ++ back)).assemble file).result = .ok
        ⟨first.words ++ second.words.map (Encoded.moved (Program.ofText front).length),
          first.diagnostics ++
            second.diagnostics.map (Diagnostic.moved (Program.ofText front).length)⟩) ∧
    (∀ limit, ((Program.ofText front).assemble file).result = .error limit →
      ((Program.ofText (front ++ back)).assemble file).result = .error limit) ∧
    (∀ first limit, ((Program.ofText front).assemble file).result = .ok first →
      ((Program.ofText back).assemble file).result = .error limit →
      ((Program.ofText (front ++ back)).assemble file).result = .error limit) ∧
    (∀ text other assembly others (index place : Nat) raw,
      ((Program.ofText text).assemble file).result = .ok assembly →
      ((Program.ofText other).assemble file).result = .ok others →
      (Text.lines text)[index]? = some raw → (Text.lines other)[place]? = some raw →
      ∀ encoded ∈ assembly.words, encoded.line = some (index + 1 : Int) →
        { encoded with line := some (place + 1 : Int) } ∈ others.words) := by
  have whole := Program.assemble_ofText_append file front back closed
  refine ⟨Program.ofText_append front back closed, ?_, ?_, ?_, ?_⟩
  · intro first second assembledFront assembledBack
    rw [whole, assembledFront, assembledBack]
    rfl
  · intro limit ended
    rw [whole, ended]
    rfl
  · intro first limit assembledFront ended
    rw [whole, assembledFront, ended]
    rfl
  · intro text other assembly others index place raw assembled otherAssembled found otherFound
      encoded word line
    exact Program.word_of_line file text other assembly others assembled otherAssembled index place
      raw found otherFound encoded word line

/-- A jump behind a comment and a fault is on the third line of the whole, and
its word is assembled behind theirs. -/
theorem assemble_composes_jump :
    Text.Closed "; start\nfoo\n".toList ∧
      ∃ first second, ((Program.ofText "; start\nfoo\n".toList).assemble none).result = .ok first ∧
        ((Program.ofText "jr R1".toList).assemble none).result = .ok second ∧
        ((Program.ofText "; start\nfoo\njr R1".toList).assemble none).result = .ok
          ⟨first.words ++ second.words.map (Encoded.moved 2),
            first.diagnostics ++ second.diagnostics.map (Diagnostic.moved 2)⟩ := by
  have closed : Text.Closed "; start\nfoo\n".toList := Or.inr rfl
  obtain ⟨first, assembledFront⟩ : ∃ first,
      ((Program.ofText "; start\nfoo\n".toList).assemble none).result = .ok first := ⟨_, rfl⟩
  obtain ⟨second, assembledBack⟩ : ∃ second,
      ((Program.ofText "jr R1".toList).assemble none).result = .ok second := ⟨_, rfl⟩
  have composed := (assemble_composes none _ "jr R1".toList closed).2.1 first second
    assembledFront assembledBack
  exact ⟨closed, first, second, assembledFront, assembledBack, composed⟩

end LineAssembler
