import LineAssembler.Text.Lowercase

/-!
# Source lines

A source line may hold a label, an instruction and a comment, each of which may be
missing. A semicolon starts a comment. Everything up to the first colon is a label
and is dropped: there are no symbols. The first word is the mnemonic and the rest
is a list of operands separated by commas. Splitting a line never fails.
-/

namespace LineAssembler

/-- A source line split into a mnemonic and raw operands. A line without an
instruction has an empty mnemonic. -/
structure Instruction where
  mnemonic : Text
  operands : List Text
  line : Option Int
  text : Text
deriving DecidableEq

namespace SourceLine

/-- A line without its comment, its carriage returns and the blanks at its ends. -/
def withoutComment (line : Text) : Text :=
  Text.trim ((Text.before ';' line).filter (· != '\r'))

/-- The label of a line, if it has one, and what follows it. A line without a
label stays untouched. -/
def splitLabel (line : Text) : Option Text × Text :=
  if ':' ∈ line then (some (Text.trim (Text.before ':' line)), Text.trim (Text.after ':' line))
  else (none, line)

/-- The first word of a line in lower case, and the rest of the line. -/
def splitMnemonic (line : Text) : Text × Text :=
  let trimmed := Text.trim line
  (Text.lower (trimmed.takeWhile (!Text.isBlank ·)),
    Text.trim (trimmed.dropWhile (!Text.isBlank ·)))

/-- The operands in a text. Empty operands are kept, so that they are reported. -/
def splitOperands (text : Text) : List Text :=
  if (Text.trim text).isEmpty then [] else (text.splitOn ',').map Text.trim

end SourceLine

namespace Instruction

/-- A line is blank when it has no mnemonic. -/
def isBlank (instruction : Instruction) : Bool := instruction.mnemonic.isEmpty

/-- Split one line. Its text is kept without the line ending. -/
def ofLine (line : Option Int) (raw : Text) : Instruction :=
  let text := Text.dropTrailing (fun c => c == '\r' || c == '\n') raw
  let (mnemonic, operands) :=
    SourceLine.splitMnemonic (SourceLine.splitLabel (SourceLine.withoutComment text)).2
  ⟨mnemonic, SourceLine.splitOperands operands, line, text⟩

end Instruction

/-- A program is a list of source lines. -/
abbrev Program := List Instruction

/-- The lines of a text, numbered from one. Only line feeds end lines. -/
def Program.ofText (text : Text) : Program :=
  (Text.lines text).mapIdx fun index raw => Instruction.ofLine (some (index + 1 : Nat)) raw

end LineAssembler
