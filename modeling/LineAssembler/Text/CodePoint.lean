/-!
# Code points

The character properties of this library are finite tables of code points. A class of
characters is a list of ranges, and a character belongs to the class exactly when one of the
ranges covers its code point. The letters that change case come in runs at a constant
distance from their counterparts, and a table of runs maps a letter to its counterpart.

Two classes stand here, since text is cut and trimmed by them. Blank characters are the
white space of Unicode together with the four information separators U+001C to U+001F;
zero-width characters and the byte order mark are not blank. The decimal digits are those of
all scripts of Unicode 14: numerals in source lines are written in ASCII digits only, and the
others serve to tell a negative number on the command line from an option.
-/

namespace LineAssembler.Text

/-! ## Ranges and runs -/

/-- The code points from `first` to `last`, both included. -/
structure CodeRange where
  first : Nat
  last : Nat
deriving DecidableEq

/-- Membership of a code point in a range. -/
def CodeRange.covers (range : CodeRange) (code : Nat) : Bool :=
  range.first ≤ code && code ≤ range.last

/-- Membership of a character in one of several ranges. -/
def covered (ranges : List CodeRange) (c : Char) : Bool :=
  ranges.any (·.covers c.toNat)

/-- A character is covered exactly when it lies between the ends of some range. -/
theorem covered_iff (ranges : List CodeRange) (c : Char) :
    covered ranges c = true ↔
      ∃ range ∈ ranges, range.first ≤ c.toNat ∧ c.toNat ≤ range.last := by
  simp [covered, CodeRange.covers]

/-- What holds of the characters of all code points below 128 holds of every
ASCII character. For a property that computes, the premise is decided. -/
theorem forall_ascii (p : Char → Prop) (codes : ∀ code < 0x80, p (Char.ofNat code)) (c : Char)
    (ascii : c.toNat < 0x80) : p c := by
  have found := codes c.toNat ascii
  rwa [Char.ofNat_toNat] at found

/-- The letters `first`, `first + stride`, … up to `last`, whose counterparts
start at `target` and keep the same distances. -/
structure CaseRun where
  first : Nat
  last : Nat
  stride : Nat
  target : Nat

namespace CaseRun

/-- Membership of a code point in a run. -/
def covers (run : CaseRun) (code : Nat) : Bool :=
  run.first ≤ code && code ≤ run.last && (code - run.first) % run.stride == 0

/-- The code point of the counterpart of a member of a run. -/
def image (run : CaseRun) (code : Nat) : Nat := run.target + (code - run.first)

/-- The counterpart of a character by a table of runs; a character that no run
covers is its own counterpart. -/
def counterpart (runs : List CaseRun) (c : Char) : Char :=
  match runs.find? (·.covers c.toNat) with
  | some run => Char.ofNat (run.image c.toNat)
  | none => c

end CaseRun

/-! ## Blank characters and digits -/

/-- The ranges of blank code points, in increasing order. -/
def blankRanges : List CodeRange :=
  [⟨0x09, 0x0D⟩, ⟨0x1C, 0x20⟩, ⟨0x85, 0x85⟩, ⟨0xA0, 0xA0⟩, ⟨0x1680, 0x1680⟩,
   ⟨0x2000, 0x200A⟩, ⟨0x2028, 0x2029⟩, ⟨0x202F, 0x202F⟩, ⟨0x205F, 0x205F⟩,
   ⟨0x3000, 0x3000⟩]

/-- Blank characters are the white space of source lines. -/
def isBlank (c : Char) : Bool := covered blankRanges c

/-- The ranges of decimal digits, in increasing order. -/
def digitRanges : List CodeRange :=
  [⟨0x30, 0x39⟩, ⟨0x0660, 0x0669⟩, ⟨0x06F0, 0x06F9⟩, ⟨0x07C0, 0x07C9⟩, ⟨0x0966, 0x096F⟩,
   ⟨0x09E6, 0x09EF⟩, ⟨0x0A66, 0x0A6F⟩, ⟨0x0AE6, 0x0AEF⟩, ⟨0x0B66, 0x0B6F⟩, ⟨0x0BE6, 0x0BEF⟩,
   ⟨0x0C66, 0x0C6F⟩, ⟨0x0CE6, 0x0CEF⟩, ⟨0x0D66, 0x0D6F⟩, ⟨0x0DE6, 0x0DEF⟩, ⟨0x0E50, 0x0E59⟩,
   ⟨0x0ED0, 0x0ED9⟩, ⟨0x0F20, 0x0F29⟩, ⟨0x1040, 0x1049⟩, ⟨0x1090, 0x1099⟩, ⟨0x17E0, 0x17E9⟩,
   ⟨0x1810, 0x1819⟩, ⟨0x1946, 0x194F⟩, ⟨0x19D0, 0x19D9⟩, ⟨0x1A80, 0x1A89⟩, ⟨0x1A90, 0x1A99⟩,
   ⟨0x1B50, 0x1B59⟩, ⟨0x1BB0, 0x1BB9⟩, ⟨0x1C40, 0x1C49⟩, ⟨0x1C50, 0x1C59⟩, ⟨0xA620, 0xA629⟩,
   ⟨0xA8D0, 0xA8D9⟩, ⟨0xA900, 0xA909⟩, ⟨0xA9D0, 0xA9D9⟩, ⟨0xA9F0, 0xA9F9⟩, ⟨0xAA50, 0xAA59⟩,
   ⟨0xABF0, 0xABF9⟩, ⟨0xFF10, 0xFF19⟩, ⟨0x104A0, 0x104A9⟩, ⟨0x10D30, 0x10D39⟩,
   ⟨0x11066, 0x1106F⟩, ⟨0x110F0, 0x110F9⟩, ⟨0x11136, 0x1113F⟩, ⟨0x111D0, 0x111D9⟩,
   ⟨0x112F0, 0x112F9⟩, ⟨0x11450, 0x11459⟩, ⟨0x114D0, 0x114D9⟩, ⟨0x11650, 0x11659⟩,
   ⟨0x116C0, 0x116C9⟩, ⟨0x11730, 0x11739⟩, ⟨0x118E0, 0x118E9⟩, ⟨0x11950, 0x11959⟩,
   ⟨0x11C50, 0x11C59⟩, ⟨0x11D50, 0x11D59⟩, ⟨0x11DA0, 0x11DA9⟩, ⟨0x16A60, 0x16A69⟩,
   ⟨0x16AC0, 0x16AC9⟩, ⟨0x16B50, 0x16B59⟩, ⟨0x1D7CE, 0x1D7FF⟩, ⟨0x1E140, 0x1E149⟩,
   ⟨0x1E2F0, 0x1E2F9⟩, ⟨0x1E950, 0x1E959⟩, ⟨0x1FBF0, 0x1FBF9⟩]

/-- A decimal digit of some script. -/
def isDigit (c : Char) : Bool := covered digitRanges c

end LineAssembler.Text
