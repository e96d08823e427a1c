import LineAssembler.Diagnostic
import LineAssembler.Encoding

/-!
# Assembling a program

Every line that is not blank yields one word or one diagnostic, and a line's
faults do not affect other lines. A conversion past the digit limit ends the
assembly at its line, without a result; what was recorded before it stays recorded.
-/

namespace LineAssembler

/-- The result of assembling a program: its words and its diagnostics, each in
source order. -/
structure Assembly where
  words : List Encoded
  diagnostics : List Diagnostic
deriving DecidableEq

/-- What remains of an assembly: the events recorded, and its result unless the
digit limit ended it. -/
abbrev Assembly.Outcome := Recorded (Except DigitLimit Assembly)

namespace Assembly.Outcome

/-- The outcome for a program without lines. -/
def empty : Outcome := ⟨[], .ok ⟨[], []⟩⟩

/-- An encoded line before the rest of the program; its word is recorded. -/
def withWord (encoded : Encoded) (rest : Outcome) : Outcome :=
  ⟨.encoded encoded.line encoded.text encoded.word :: rest.events,
    rest.result.map fun assembly => { assembly with words := encoded :: assembly.words }⟩

/-- A reported line before the rest of the program. -/
def withDiagnostic (diagnostic : Diagnostic) (rest : Outcome) : Outcome :=
  ⟨rest.events,
    rest.result.map fun assembly =>
      { assembly with diagnostics := diagnostic :: assembly.diagnostics }⟩

end Assembly.Outcome

namespace Program

/-- Assemble a program; `file` is the name that diagnostics give to its source.
What encoding a line recorded stays recorded, whatever it came to. -/
def assemble (file : Option Text) : Program → Assembly.Outcome
  | [] => .empty
  | instruction :: rest =>
    if instruction.isBlank then assemble file rest
    else
      let outcome := match instruction.attempt.result with
        | .ok encoded => (assemble file rest).withWord encoded
        | .error (.fault fault) =>
          (assemble file rest).withDiagnostic
            (.ofProblem fault.problem instruction.line file (some instruction.text))
        | .error (.limit limit) => ⟨[], .error limit⟩
      outcome.after instruction.attempt.events

/-- One step of an assembly. A line that is encoded records its fields and its
word; any other line records nothing, so neither of the two records stands
alone. -/
theorem assemble_step (file : Option Text) (instruction : Instruction) (rest : Program) :
    assemble file (instruction :: rest) =
      if instruction.isBlank then assemble file rest
      else match instruction.encode with
        | .ok encoded =>
          ((assemble file rest).withWord encoded).after [.fields encoded.line encoded.fields]
        | .error (.fault fault) =>
          (assemble file rest).withDiagnostic
            (.ofProblem fault.problem instruction.line file (some instruction.text))
        | .error (.limit limit) => ⟨[], .error limit⟩ := by
  rw [assemble, instruction.attempt_eq]
  split
  case isTrue => rfl
  case isFalse =>
    cases instruction.encode with
    | ok encoded => rfl
    | error failure => cases failure <;> rfl

end Program

end LineAssembler
