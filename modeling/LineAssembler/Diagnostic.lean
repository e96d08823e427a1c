import LineAssembler.Fault
import LineAssembler.Text.Uppercase

/-!
# Diagnostics

A diagnostic is a problem with its place: a file, a line and the text of that
line. Severity and kind are free text, so that diagnostics can also be made by
hand; every diagnostic of the assembler is an error.
-/

namespace LineAssembler

/-- A problem to be reported. -/
structure Diagnostic where
  severity : Text
  message : Text
  line : Option Int
  hint : Option Text
  file : Option Text
  kind : Option Text
  text : Option Text
deriving DecidableEq

namespace Diagnostic

/-- The severity of every diagnostic of the assembler. -/
def errorSeverity : Text := "error".toList

/-- An error with the given parts. -/
def error (message : Text) (line : Option Int) (file hint kind text : Option Text) : Diagnostic :=
  ⟨errorSeverity, message, line, hint, file, kind, text⟩

/-- The error that reports a problem at a place. -/
def ofProblem (problem : Problem) (line : Option Int) (file text : Option Text) : Diagnostic :=
  error problem.message line file problem.hint (some problem.kind.name) text

/-- A part of a diagnostic that is shown only if it is given and not empty. -/
def optional (rendering : Text → Text) : Option Text → Text
  | some (c :: rest) => rendering (c :: rest)
  | _ => []

/-- The place of a diagnostic, if it has one. -/
def place (diagnostic : Diagnostic) : Text :=
  let file := match diagnostic.file with
    | some file => file ++ [':']
    | none => []
  let line := match diagnostic.line with
    | some line => Numeral.ofInt line
    | none => []
  let both := file ++ line
  if both.isEmpty then [] else both ++ ": ".toList

/-- A diagnostic on one line. -/
def render (diagnostic : Diagnostic) : Text :=
  diagnostic.place ++ Text.upper diagnostic.severity ++
    optional (fun kind => " [".toList ++ kind ++ [']']) diagnostic.kind ++
    ": ".toList ++ diagnostic.message ++
    optional (fun hint => "  (pista: ".toList ++ hint ++ [')']) diagnostic.hint ++
    optional (fun text => "  (en: ".toList ++ Text.trim text ++ [')']) diagnostic.text

/-- What a listing calls a diagnostic: its kind, or its severity if it has none. -/
def label (diagnostic : Diagnostic) : Text :=
  match diagnostic.kind with
  | some (c :: rest) => c :: rest
  | _ => diagnostic.severity

end Diagnostic

end LineAssembler
