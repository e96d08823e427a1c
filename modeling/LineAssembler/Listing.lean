import LineAssembler.Assembly
import LineAssembler.Text.Groups
import Std.Data.HashMap

/-!
# Listings

The words of a program in hexadecimal and in binary, and the listing, in which
each source line is followed by its word or by what is wrong with it. A listing
joins lines with words and diagnostics by line number. Of several words with the
same line number the last is shown; diagnostics with the same line number are all
shown, in order.
-/

namespace LineAssembler

namespace Encoded

/-- The bits of a word, grouped by the fields of its layout. -/
def groupedBits (separator : Text) (encoded : Encoded) : Except Text.GroupFault Text :=
  Text.group separator (encoded.fields.map fun field => (field.width : Int))
    (Word.binary encoded.word)

/-- A word in hexadecimal and in grouped bits. -/
def render (encoded : Encoded) : Except Text.GroupFault Text :=
  (encoded.groupedBits [' ']).map fun bits =>
    Word.markedHexadecimal encoded.word ++ "  ".toList ++ bits

end Encoded

namespace Listing

/-- The words in hexadecimal, one on a line. -/
def hexadecimalLines (words : List Encoded) : List Text :=
  words.map fun encoded => Word.markedHexadecimal encoded.word

/-- The words in binary, one on a line. -/
def binaryLines (words : List Encoded) : List Text :=
  words.map fun encoded => Word.binary encoded.word

/-- The word of each line number. -/
def wordsByLine (words : List Encoded) : Std.HashMap (Option Int) Encoded :=
  words.foldl (fun index encoded => index.insert encoded.line encoded) ∅

/-- The diagnostics of each line number. -/
def diagnosticsByLine (diagnostics : List Diagnostic) :
    Std.HashMap (Option Int) (List Diagnostic) :=
  diagnostics.foldl
    (fun index diagnostic =>
      index.insert diagnostic.line (index.getD diagnostic.line [] ++ [diagnostic])) ∅

/-- The line of a listing that shows a diagnostic. -/
def diagnosticLine (diagnostic : Diagnostic) : Text :=
  "    !! ".toList ++ diagnostic.label ++ ": ".toList ++ diagnostic.message

/-- The line of a listing that shows a word, if there is one. -/
def wordLine : Option Encoded → Except Text.GroupFault (List Text)
  | none => .ok []
  | some encoded => encoded.render.map fun word => ["    -> ".toList ++ word]

/-- The lines of a listing for one source line. -/
def entry (words : Std.HashMap (Option Int) Encoded)
    (diagnostics : Std.HashMap (Option Int) (List Diagnostic)) (instruction : Instruction) :
    Except Text.GroupFault (List Text) :=
  if instruction.isBlank then .ok [instruction.text]
  else
    (wordLine words[instruction.line]?).map fun word =>
      instruction.text :: word ++
        (diagnostics.getD instruction.line []).map diagnosticLine

/-- The lines of a listing for several source lines. -/
def entries (words : Std.HashMap (Option Int) Encoded)
    (diagnostics : Std.HashMap (Option Int) (List Diagnostic)) :
    Program → Except Text.GroupFault (List Text)
  | [] => .ok []
  | instruction :: rest =>
    match entry words diagnostics instruction with
    | .error fault => .error fault
    | .ok lines => (entries words diagnostics rest).map (lines ++ ·)

/-- The listing of a program. -/
def lines (program : Program) (words : List Encoded) (diagnostics : List Diagnostic) :
    Except Text.GroupFault (List Text) :=
  entries (wordsByLine words) (diagnosticsByLine diagnostics) program

end Listing

end LineAssembler
