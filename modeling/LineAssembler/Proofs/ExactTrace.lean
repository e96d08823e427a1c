import LineAssembler.Proofs.EncodingTrace

/-!
# The trace records exactly the encoded lines

A log receives an event as a record on a channel, at a level, in words. What is recorded of
an assembly are two records for every encoded line, in the order of the lines: its fields,
for debugging, and its word, for information. They come as a pair or not at all. A blank line
and a line with a fault leave no record, so the trace is the same without them; a line that
exceeds the digit limit leaves the records of the lines before it, and nothing behind them.
-/

namespace LineAssembler

/-- An event as a log receives it. -/
structure LogRecord where
  channel : Text
  level : Level
  message : Text
deriving DecidableEq

/-- The record of an event. -/
def Event.logRecord (event : Event) : LogRecord := ⟨event.channel, event.level, event.message⟩

/-- The widths and the values of fields, as a list of pairs. -/
def Field.pairs (fields : List Field) : Text :=
  let pair (field : Field) : Text :=
    "(".toList ++ Numeral.ofNat field.width ++ ", ".toList ++ Numeral.ofInt field.value ++
      ")".toList
  "[".toList ++ ", ".toList.intercalate (fields.map pair) ++ "]".toList

/-- The two records of an encoded line. The first shows its number and the width
and the value of each field, the second its number, its text without the blanks
at the ends, and its word in hexadecimal. -/
def Encoded.logRecords (encoded : Encoded) : List LogRecord :=
  let line := "line ".toList ++ Event.lineNumber encoded.line
  [⟨"asm374.encoding".toList, .debug,
      line ++ ": fields ".toList ++ Field.pairs encoded.fields⟩,
    ⟨"asm374.encoding".toList, .info,
      line ++ ": \"".toList ++ Text.trim encoded.text ++ "\" -> ".toList ++
        Word.markedHexadecimal encoded.word⟩]

/-- Fields are listed in a trace as pairs. Both sides join the same texts; only
the way in which the brackets are written differs. -/
theorem Field.renderList_renderPair (fields : List Field) :
    renderList renderPair fields = pairs fields := by
  have openingList : "[".toList = ['['] := by decide
  have closingList : "]".toList = [']'] := by decide
  have openingPair : "(".toList = ['('] := by decide
  have closingPair : ")".toList = [')'] := by decide
  unfold renderList pairs
  rw [openingList, closingList, openingPair, closingPair]
  rfl

/-- The events of an encoded line reach a log as its two records: the fields as
pairs, and then the word. -/
theorem Encoded.map_logRecord_events (encoded : Encoded) :
    encoded.events.map Event.logRecord = encoded.logRecords := by
  unfold logRecords
  rw [← Field.renderList_renderPair]
  rfl

/-- A line that leaves no record: it is blank or has a fault. -/
def Instruction.Unrecorded (instruction : Instruction) : Prop :=
  instruction.isBlank = true ∨ ∃ fault, instruction.encode = .error (.fault fault)

namespace Program

/-- What is recorded of a line does not depend on the lines behind it: it stays
in front of whatever they record. -/
theorem events_cons_congr (file : Option Text) (instruction : Instruction) (left right : Program)
    (same : (assemble file left).events = (assemble file right).events) :
    (assemble file (instruction :: left)).events =
      (assemble file (instruction :: right)).events := by
  rw [assemble_step, assemble_step]
  by_cases blank : instruction.isBlank = true
  · rw [if_pos blank, if_pos blank]
    exact same
  · rw [if_neg blank, if_neg blank]
    cases instruction.encode with
    | ok encoded => simp only [Assembly.Outcome.withWord, Recorded.after, same]
    | error failure =>
      cases failure with
      | fault fault => exact same
      | limit limit => rfl

/-- A blank line or a line with a fault records nothing. A blank line is passed
over, and the encoding of a line with a fault ends before its first event. -/
theorem events_cons_of_unrecorded (file : Option Text) (instruction : Instruction)
    (rest : Program) (unrecorded : instruction.Unrecorded) :
    (assemble file (instruction :: rest)).events = (assemble file rest).events := by
  rw [assemble_step]
  rcases unrecorded with blank | ⟨fault, fails⟩
  · rw [if_pos blank]
  · split
    case isTrue => rfl
    case isFalse =>
      rw [fails]
      rfl

/-- The record is the same without a blank line or a line with a fault, wherever
it stands. By induction on the lines before it, each of which puts its own
events in front of those that follow, or ends the record. -/
theorem events_append_of_unrecorded (file : Option Text) (before after : Program)
    (instruction : Instruction) (unrecorded : instruction.Unrecorded) :
    (assemble file (before ++ instruction :: after)).events =
      (assemble file (before ++ after)).events := by
  induction before with
  | nil => exact events_cons_of_unrecorded file instruction after unrecorded
  | cons first before inductionHypothesis =>
    exact events_cons_congr file first _ _ inductionHypothesis

/-- A program that the limit ends is cut at the line that exceeds it: the lines
before it are assembled by themselves, and what is recorded are the events of
their words. -/
theorem exists_of_ended {file : Option Text} {program : Program} {limit : DigitLimit}
    (ended : (assemble file program).result = .error limit) :
    ∃ before instruction after assembly, program = before ++ instruction :: after ∧
      instruction.isBlank = false ∧ instruction.encode = .error (.limit limit) ∧
      (assemble file before).result = .ok assembly ∧
      (assemble file program).events = assembly.words.flatMap Encoded.events := by
  rcases withinLimit_or_exists_first program with
    within | ⟨before, instruction, after, found, rfl, within, solid, failure⟩
  · rw [assemble_of_withinLimit file program within] at ended
    contradiction
  · rw [assemble_of_limit file before after instruction found within solid failure] at ended
    obtain rfl := Except.error.inj ended
    refine ⟨before, instruction, after, before.isolated file, rfl, solid, failure,
      assemble_of_withinLimit file before within, ?_⟩
    have silent : (assemble file (instruction :: after)).events = [] := by
      simp [assemble_step, solid, failure]
    rw [events_append file before _ within, silent, List.append_nil]

end Program

/-- The events of several encoded lines reach a log as their records. -/
theorem map_logRecord_flatMap (words : List Encoded) :
    (words.flatMap Encoded.events).map Event.logRecord = words.flatMap Encoded.logRecords := by
  rw [List.map_flatMap]
  simp only [Encoded.map_logRecord_events]

/-- The trace records exactly the encoded lines. If a text is assembled, its
records are the two records of each of its words, in order. If a line exceeds
the digit limit, its records are those of the lines before it, which are
assembled by themselves. Either way a blank line and a line with a fault leave
no record.

Proof: by induction on the lines, each adds the records of its own word or none.
If the limit ends the assembly, the lines before are assembled, and the line
that ended it adds nothing. -/
theorem trace_records_encoded_lines (file : Option Text) (text : Text) :
    (∀ assembly, ((Program.ofText text).assemble file).result = .ok assembly →
      ((Program.ofText text).assemble file).events.map Event.logRecord =
        assembly.words.flatMap Encoded.logRecords) ∧
    (∀ limit, ((Program.ofText text).assemble file).result = .error limit →
      ∃ before instruction after assembly,
        Program.ofText text = before ++ instruction :: after ∧
        instruction.isBlank = false ∧ instruction.encode = .error (.limit limit) ∧
        (Program.assemble file before).result = .ok assembly ∧
        ((Program.ofText text).assemble file).events.map Event.logRecord =
          assembly.words.flatMap Encoded.logRecords) ∧
    (∀ before instruction after, Program.ofText text = before ++ instruction :: after →
      instruction.Unrecorded →
      ((Program.ofText text).assemble file).events =
        (Program.assemble file (before ++ after)).events) := by
  refine ⟨?_, ?_, ?_⟩
  · intro assembly assembled
    rw [Program.events_of_assembled assembled, map_logRecord_flatMap]
  · intro limit ended
    obtain ⟨before, instruction, after, assembly, parts, solid, failure, assembled, recorded⟩ :=
      Program.exists_of_ended ended
    refine ⟨before, instruction, after, assembly, parts, solid, failure, assembled, ?_⟩
    rw [recorded, map_logRecord_flatMap]
  · intro before instruction after parts unrecorded
    rw [parts]
    exact Program.events_append_of_unrecorded file before after instruction unrecorded

/-- Of a good, a blank, an unknown and another good line, the first and the last
are recorded, and the record is the same without the unknown line. -/
theorem trace_records_encoded_lines_mixed :
    ∃ before instruction after assembly,
      Program.ofText "nop\n; note\nfoo\njr R1".toList = before ++ instruction :: after ∧
      instruction.Unrecorded ∧
      ((Program.ofText "nop\n; note\nfoo\njr R1".toList).assemble none).result = .ok assembly ∧
      assembly.words.map Encoded.line = [some 1, some 4] ∧
      ((Program.assemble none (before ++ after)).events).map Event.logRecord =
        assembly.words.flatMap Encoded.logRecords := by
  obtain ⟨assembly, assembled, numbers⟩ : ∃ assembly,
      ((Program.ofText "nop\n; note\nfoo\njr R1".toList).assemble none).result = .ok assembly ∧
        assembly.words.map Encoded.line = [some 1, some 4] := ⟨_, rfl, rfl⟩
  obtain ⟨before, instruction, after, parts, unrecorded⟩ : ∃ before instruction after,
      Program.ofText "nop\n; note\nfoo\njr R1".toList = before ++ instruction :: after ∧
        instruction.Unrecorded := ⟨[_, _], _, [_], rfl, Or.inr ⟨_, rfl⟩⟩
  obtain ⟨recorded, _, skipped⟩ :=
    trace_records_encoded_lines none "nop\n; note\nfoo\njr R1".toList
  refine ⟨before, instruction, after, assembly, parts, unrecorded, assembled, numbers, ?_⟩
  rw [← skipped before instruction after parts unrecorded, recorded assembly assembled]

end LineAssembler
