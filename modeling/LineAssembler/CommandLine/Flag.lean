import LineAssembler.Text.Basic

/-!
# Flags

The five flags of the command line, each with a short and a long spelling. Two of
them take a value.
-/

namespace LineAssembler.CommandLine

/-- The flags, in the order in which they are listed. -/
inductive Flag where
  | help
  | outHex
  | outBin
  | quiet
  | verbose
deriving DecidableEq

namespace Flag

/-- All flags. -/
def all : List Flag := [.help, .outHex, .outBin, .quiet, .verbose]

/-- The letter of a flag, written after one dash. -/
def letter : Flag → Char
  | .help => 'h'
  | .outHex => 'o'
  | .outBin => 'b'
  | .quiet => 'q'
  | .verbose => 'v'

/-- The long spelling of a flag. -/
def long : Flag → Text
  | .help => "--help".toList
  | .outHex => "--out-hex".toList
  | .outBin => "--out-bin".toList
  | .quiet => "--quiet".toList
  | .verbose => "--verbose".toList

/-- The short spelling of a flag. -/
def short (flag : Flag) : Text := ['-', flag.letter]

/-- Whether a flag is followed by a value. -/
def takesValue : Flag → Bool
  | .outHex | .outBin => true
  | _ => false

/-- Both spellings of a flag. -/
def names (flag : Flag) : Text := flag.short ++ '/' :: flag.long

/-- The flag of a letter. -/
def ofLetter? (c : Char) : Option Flag := all.find? (·.letter == c)

/-- The flag of a short spelling. -/
def ofShort? (word : Text) : Option Flag := all.find? (·.short == word)

/-- The flag of a long spelling. -/
def ofLong? (word : Text) : Option Flag := all.find? (·.long == word)

/-- The flags whose long spelling starts with the given text. -/
def completions (start : Text) : List Flag := all.filter fun flag => start.isPrefixOf flag.long

end Flag

end LineAssembler.CommandLine
