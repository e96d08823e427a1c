import LineAssembler.Proofs.LineAccounting

/-!
# What is recorded of a program

Two events are recorded of a line that is encoded: its fields and its word. Nothing is
recorded of a blank line or of a line with a fault, and a line that exceeds the digit
limit ends the record. A stretch of lines within the limit therefore leaves the events
of its words, in order, in front of whatever is recorded behind it.
-/

namespace LineAssembler

/-- What is recorded of a line that is encoded. -/
def Encoded.events (encoded : Encoded) : List Event :=
  [.fields encoded.line encoded.fields, .encoded encoded.line encoded.text encoded.word]

namespace Program

/-- A line that does not exceed the limit records the events of its word, if it
has one, and leaves the rest of the record alone. -/
theorem events_cons (file : Option Text) (instruction : Instruction) (rest : Program)
    (within : instruction.isBlank = false → ¬instruction.Exceeds) :
    (assemble file (instruction :: rest)).events =
      instruction.word?.toList.flatMap Encoded.events ++ (assemble file rest).events := by
  rw [assemble_step]
  by_cases blank : instruction.isBlank = true
  · simp [blank, Instruction.word?]
  · rw [if_neg blank]
    cases encoding : instruction.encode with
    | ok encoded =>
      simp [Assembly.Outcome.withWord, Recorded.after, Instruction.word?, Encoded.events, blank,
        encoding]
    | error failure =>
      cases failure with
      | fault fault =>
        simp [Assembly.Outcome.withDiagnostic, Instruction.word?, blank, encoding]
      | limit limit =>
        have exceeds := instruction.encode_eq_limit_iff.mp ⟨limit, encoding⟩
        exact absurd exceeds (within (Bool.not_eq_true _ ▸ blank))

/-- Lines that do not exceed the limit record the events of their words, in
order, in front of what the rest of the program records. -/
theorem events_append (file : Option Text) (before after : Program)
    (within : WithinLimit before) :
    (assemble file (before ++ after)).events =
      (before.isolated file).words.flatMap Encoded.events ++ (assemble file after).events := by
  induction before with
  | nil => rfl
  | cons instruction rest inductionHypothesis =>
    have withinRest : WithinLimit rest := fun line member =>
      within line (List.mem_cons_of_mem instruction member)
    rw [List.cons_append, events_cons file instruction _ (within instruction List.mem_cons_self),
      inductionHypothesis withinRest]
    cases word : instruction.word? <;> simp [isolated, word]

/-- A program that is assembled records the events of its words and nothing
else. No line of it exceeds the digit limit, so every line has added what it
records on its own. -/
theorem events_of_assembled {file : Option Text} {program : Program} {assembly : Assembly}
    (assembled : (assemble file program).result = .ok assembly) :
    (assemble file program).events = assembly.words.flatMap Encoded.events := by
  obtain ⟨within, rfl⟩ := (assemble_eq_ok_iff file program assembly).mp assembled
  have whole := events_append file program [] within
  rw [List.append_nil] at whole
  simpa [assemble, Assembly.Outcome.empty] using whole

end Program

end LineAssembler
