import LineAssembler.CommandLine.Usage

/-!
# Arguments

Each word of a command line is first classified by its own shape: it is a plain
word, an option, or an unknown option. An option is a short flag, which further
letters may join, or a long flag, which may be abbreviated as long as it stays
unambiguous; a value may be attached to either. A word of two dashes ends the
options: all words after it are plain.
-/

namespace LineAssembler.CommandLine

/-- A word of the command line by its shape. -/
inductive Argument where
  | plain (word : Text)
  | short (flag : Flag) (attached : Option Text)
  | long (flag : Flag) (attached : Option Text)
  | unknown (word : Text)
deriving DecidableEq

/-- A decimal number with a minus sign and an optional fraction. A line feed at
the end does not count. -/
def isNegativeNumber (word : Text) : Bool :=
  match word with
  | '-' :: rest =>
    let number := if rest.getLast? = some '\n' then rest.dropLast else rest
    let whole := number.takeWhile Text.isDigit
    match number.dropWhile Text.isDigit with
    | [] => !whole.isEmpty
    | '.' :: fraction => !fraction.isEmpty && fraction.all Text.isDigit
    | _ => false
  | _ => false

/-- The value attached to a word after its first equals sign. -/
def attachedValue (word : Text) : Option Text :=
  if '=' ∈ word then some (Text.after '=' word) else none

namespace Argument

/-- A word that starts with a dash and is no flag in full: an abbreviated long
flag, joined short flags, a plain word that only looks like an option, or an
unknown option. -/
def abbreviated (word : Text) : Except UsageFault Argument :=
  let candidates : List Argument :=
    match word with
    | '-' :: '-' :: _ =>
      (Flag.completions (Text.before '=' word)).map fun flag => .long flag (attachedValue word)
    | '-' :: letter :: attached =>
      (Flag.ofLetter? letter).toList.map fun flag => .short flag (some attached)
    | _ => []
  match candidates with
  | [argument] => .ok argument
  | _ :: _ => .error (.ambiguous word (Flag.completions (Text.before '=' word)))
  | [] =>
    if isNegativeNumber word || word.contains ' ' then .ok (.plain word) else .ok (.unknown word)

/-- Classify one word. A lone dash is plain; the part before an equals sign may
be a flag in full. -/
def classify (word : Text) : Except UsageFault Argument :=
  if word.head? ≠ some '-' ∨ word = ['-'] then .ok (.plain word)
  else match Flag.ofShort? word, Flag.ofLong? word with
    | some flag, _ => .ok (.short flag none)
    | _, some flag => .ok (.long flag none)
    | none, none =>
      match attachedValue word with
      | none => abbreviated word
      | some value =>
        match Flag.ofShort? (Text.before '=' word), Flag.ofLong? (Text.before '=' word) with
        | some flag, _ => .ok (.short flag (some value))
        | _, some flag => .ok (.long flag (some value))
        | none, none => abbreviated word

/-- Classify several words; the first fault counts. -/
def classifyAll : List Text → Except UsageFault (List Argument)
  | [] => .ok []
  | word :: words =>
    match classify word with
    | .error fault => .error fault
    | .ok argument => (classifyAll words).map (argument :: ·)

end Argument

end LineAssembler.CommandLine
