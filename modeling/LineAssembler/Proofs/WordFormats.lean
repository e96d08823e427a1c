import LineAssembler.Listing
import LineAssembler.Proofs.FileWrites
import LineAssembler.Proofs.LineAccounting
import LineAssembler.Proofs.OperandGrammar
import LineAssembler.Proofs.TwosComplement

/-!
# Reading words back

The words of a program are written in two formats, one word on a line: eight hexadecimal
digits behind a mark, or thirty-two binary digits. Both are numerals of a fixed number
of digits in a base whose power is the number of words, so that either shows exactly the
low 32 bits of an integer. The lines of a file are found again between its line feeds,
since no line holds one, and its bytes are decoded again, since every character is ASCII.

What is said of a format is said once, for a mark, a base and a number of digits.
-/

namespace LineAssembler

namespace Numeral

/-- The digits of a base up to 16, in lower case and in the order of their
values. -/
def digitsOf (base : Nat) : Text := "0123456789abcdef".toList.take base

/-- The digit of a number below a base is one of the digits of the base. -/
theorem digitChar_mem_digitsOf (base digit : Nat) (few : base ≤ 16) (small : digit < base) :
    digit.digitChar ∈ digitsOf base := by
  have table : ∀ base ≤ 16, ∀ digit < base, digit.digitChar ∈ digitsOf base := by decide
  exact table base few digit small

/-- The digit of a number has the number as its value. -/
theorem digitValue_digitChar (digit : Nat) (small : digit < 16) :
    digitValue digit.digitChar = digit := by
  have table : ∀ digit < 16, digitValue digit.digitChar = digit := by decide
  exact table digit small

/-- A fixed numeral consists of digits of its base. By induction on the number
of digits: the last digit shows a remainder, and the others are a fixed numeral
of the quotient. -/
theorem mem_digitsOf_of_mem_fixed (base : Nat) (positive : 0 < base) (few : base ≤ 16)
    (width n : Nat) : ∀ c ∈ fixed base width n, c ∈ digitsOf base := by
  induction width generalizing n with
  | zero => simp [fixed]
  | succ width inductionHypothesis =>
    intro c member
    rcases List.mem_append.mp member with front | last
    · exact inductionHypothesis (n / base) c front
    · rw [List.mem_singleton.mp last]
      exact digitChar_mem_digitsOf base _ few (Nat.mod_lt n positive)

/-- The value of a fixed numeral is what its digits leave of the number: the
last digit is the remainder, and the digits before it show the quotient. -/
theorem value_fixed (base : Nat) (positive : 0 < base) (few : base ≤ 16) (width n : Nat) :
    value base (fixed base width n) = n % base ^ width := by
  induction width generalizing n with
  | zero => simp [fixed, value, Nat.mod_one]
  | succ width inductionHypothesis =>
    have last : n % base < 16 := Nat.lt_of_lt_of_le (Nat.mod_lt n positive) few
    rw [fixed, value_append_singleton, inductionHypothesis, digitValue_digitChar _ last,
      Nat.pow_succ', Nat.mod_mul, Nat.mul_comm, Nat.add_comm]

/-- A digit is a hexadecimal digit, is an ASCII character and ends no line. It
is one of sixteen characters, which are tried. -/
theorem isHexDigit_of_mem_digitsOf (base : Nat) (c : Char) (member : c ∈ digitsOf base) :
    isHexDigit c = true ∧ c.toNat < 128 ∧ c ≠ '\n' := by
  have table : "0123456789abcdef".toList.all
      (fun c => isHexDigit c && decide (c.toNat < 128) && c != '\n') = true := by decide
  have found := List.all_eq_true.mp table c (List.mem_of_mem_take member)
  simpa [and_assoc] using found

end Numeral

/-- The low bits of an integer are its remainder modulo the number of words. -/
theorem Word.low_eq_emod (x : Int) : (low x : Int) = x % 2 ^ 32 := Bits.residue_eq_emod width x

/-- The hexadecimal digits of a word are read as an immediate of its low bits.
Behind a dollar sign they are a hexadecimal literal, which is not bound by the
digit limit, and eight digits hold all of the low bits. -/
theorem Word.read_hexadecimal (x : Int) :
    Immediate.read ('$' :: hexadecimal x) = .ok (x % 2 ^ 32) := by
  have hexadecimal : ∀ c ∈ hexadecimal x, Numeral.isHexDigit c = true := by
    intro c member
    have digit := Numeral.mem_digitsOf_of_mem_fixed 16 (by decide) (by decide) 8 (low x) c member
    exact (Numeral.isHexDigit_of_mem_digitsOf 16 c digit).1
  have nonempty : Word.hexadecimal x ≠ [] :=
    List.ne_nil_of_length_eq_add_one (Numeral.length_fixed 16 8 (low x))
  have literal := Immediate.Literal.hexadecimal _ nonempty hexadecimal
  have small : low x < 2 ^ 32 := Bits.residue_lt width x
  have same : (Numeral.value 16 (Word.hexadecimal x) : Int) = x % 2 ^ 32 := by
    rw [Word.hexadecimal, Numeral.value_fixed 16 (by decide) (by decide), ← low_eq_emod]
    exact congrArg Int.ofNat (Nat.mod_eq_of_lt small)
  rw [← same, (Immediate.classified_read _).eq_ok_iff, literal.isWord.trim]
  exact literal

namespace Text

/-- Lines that hold no line feed are found again between the line feeds, before
an empty piece behind the last of them. By induction on the lines, each of which
ends at its own line feed. -/
theorem splitOn_ofLines (lines : List Text) (unbroken : ∀ line ∈ lines, '\n' ∉ line) :
    (ofLines lines).splitOn '\n' = lines ++ [[]] := by
  induction lines with
  | nil => simp [ofLines]
  | cons line rest inductionHypothesis =>
    have later := inductionHypothesis fun other member =>
      unbroken other (List.mem_cons_of_mem line member)
    have parts : ofLines (line :: rest) = line ++ '\n' :: ofLines rest := by simp [ofLines]
    rw [parts, List.splitOn_append_cons_self_of_not_mem (unbroken line List.mem_cons_self), later,
      List.cons_append]

/-- An ASCII character is encoded as the byte of its code, which is below the
bytes that start or continue a longer sequence. -/
theorem utf8EncodeChar_of_ascii (c : Char) (ascii : c.toNat < 128) :
    ∃ byte : UInt8, String.utf8EncodeChar c = [byte] ∧ byte < 0x80 ∧ byte.toNat = c.toNat := by
  have short : c.val.toNat ≤ 127 := Nat.le_of_lt_succ ascii
  have code : (UInt8.ofNat c.toNat).toNat = c.toNat := by
    rw [UInt8.toNat_ofNat']
    omega
  refine ⟨UInt8.ofNat c.toNat, ?_, ?_, code⟩
  · simp only [String.utf8EncodeChar, if_pos short]
    rfl
  · rw [UInt8.lt_iff_toNat_lt, code]
    exact ascii

/-- ASCII text is decoded from the bytes that encode it. By induction on the
text, at every position: one byte is one character, and no sequence is ever left
open. -/
theorem Utf8.decodeFrom_encode_of_ascii (text : Text) (ascii : ∀ c ∈ text, c.toNat < 128)
    (position : Nat) : decodeFrom position none (encode text) = .ok text := by
  induction text generalizing position with
  | nil => rfl
  | cons c rest inductionHypothesis =>
    obtain ⟨byte, encoded, small, code⟩ := utf8EncodeChar_of_ascii c (ascii c List.mem_cons_self)
    have later := inductionHypothesis
      (fun other member => ascii other (List.mem_cons_of_mem c member)) (position + 1)
    have bytes : encode (c :: rest) = byte :: encode rest := by simp [encode, encoded]
    rw [bytes, decodeFrom, if_pos small, later, code, Char.ofNat_toNat]
    rfl

end Text

/-- The file at a path holds a text. -/
def FileSystem.HoldsText (files : FileSystem) (path : Path) (content : Text) : Prop :=
  ∃ bytes, files.read path = .ok bytes ∧ Text.Utf8.decode bytes = .ok content

namespace Listing

/-- A format in which words are listed: a mark, and behind it a fixed number of
digits in a base. There are as many such numerals as words, and a mark does not
end a line. -/
structure Format where
  mark : Text
  base : Nat
  count : Nat
  base_pos : 0 < base
  base_le : base ≤ 16
  room : base ^ count = 2 ^ 32
  mark_plain : ∀ c ∈ mark, c.toNat < 128 ∧ c ≠ '\n'

namespace Format

/-- Eight hexadecimal digits behind `0x`. -/
def hexadecimal : Format where
  mark := ['0', 'x']
  base := 16
  count := 8
  base_pos := by decide
  base_le := by decide
  room := by decide
  mark_plain := by simp

/-- Thirty-two binary digits. -/
def binary : Format where
  mark := []
  base := 2
  count := 32
  base_pos := Nat.two_pos
  base_le := by decide
  room := by decide
  mark_plain := by simp

/-- The line that shows an integer. -/
def line (format : Format) (x : Int) : Text :=
  format.mark ++ Numeral.fixed format.base format.count (Word.low x)

/-- The integers that the lines of a text show. The piece behind the last line
feed is no line. -/
def read (format : Format) (content : Text) : List Int :=
  (content.splitOn '\n').dropLast.map fun line =>
    (Numeral.value format.base (line.drop format.mark.length) : Int)

/-- A line shows an integer modulo the number of words. -/
structure Shows (format : Format) (x : Int) (line : Text) : Prop where
  marked : line = format.mark ++ line.drop format.mark.length
  length : (line.drop format.mark.length).length = format.count
  digits : ∀ c ∈ line.drop format.mark.length, c ∈ Numeral.digitsOf format.base
  value : (Numeral.value format.base (line.drop format.mark.length) : Int) = x % 2 ^ 32

/-- The line of an integer shows it. The digits behind the mark are a fixed
numeral of the low bits, and there is room for all of them. -/
theorem shows_line (format : Format) (x : Int) : format.Shows x (format.line x) := by
  have behind : (format.line x).drop format.mark.length =
      Numeral.fixed format.base format.count (Word.low x) := List.drop_left
  have small : Word.low x < format.base ^ format.count := by
    rw [format.room]
    exact Bits.residue_lt Word.width x
  refine ⟨?_, ?_, ?_, ?_⟩
  · rw [behind, line]
  · rw [behind, Numeral.length_fixed]
  · rw [behind]
    exact Numeral.mem_digitsOf_of_mem_fixed format.base format.base_pos format.base_le _ _
  · rw [behind, Numeral.value_fixed format.base format.base_pos format.base_le,
      Nat.mod_eq_of_lt small, Word.low_eq_emod]

/-- The characters of a line are ASCII, and none ends a line: the mark has been
chosen so, and the others are digits. -/
theorem plain_line (format : Format) (x : Int) :
    ∀ c ∈ format.line x, c.toNat < 128 ∧ c ≠ '\n' := by
  intro c member
  rcases List.mem_append.mp member with inMark | inDigits
  · exact format.mark_plain c inMark
  · have digit := Numeral.mem_digitsOf_of_mem_fixed format.base format.base_pos format.base_le
      format.count (Word.low x) c inDigits
    exact (Numeral.isHexDigit_of_mem_digitsOf format.base c digit).2

/-- Lines list words in a format: there are as many, each shows the word at its
place, a file to which they are written holds them between its line feeds, and
the words of an assembly are read back from it. -/
structure Lists (format : Format) (words : List Encoded) (lines : List Text) : Prop where
  length : lines.length = words.length
  shows (index : Nat) (encoded : Encoded) : words[index]? = some encoded →
    ∃ line, lines[index]? = some line ∧ format.Shows encoded.word line
  written (files after : FileSystem) (path : Path) :
    files.write path (Text.Utf8.encode (Text.ofLines lines)) = .ok after →
      ∃ content, after.HoldsText path content ∧ content.splitOn '\n' = lines ++ [[]] ∧
        ∀ file program diagnostics,
          (Program.assemble file program).result = .ok ⟨words, diagnostics⟩ →
            format.read content = words.map Encoded.word

/-- The words of an assembly are read back from their lines: they are words of
32 bits. A line shows a word modulo the number of words, and every word of an
assembly is its own remainder. -/
theorem read_of_splitOn (format : Format) (file : Option Text) (program : Program)
    (assembly : Assembly) (assembled : (program.assemble file).result = .ok assembly)
    (content : Text)
    (split : content.splitOn '\n' =
      (assembly.words.map fun encoded => format.line encoded.word) ++ [[]]) :
    format.read content = assembly.words.map Encoded.word := by
  rw [read, split, List.dropLast_concat, List.map_map]
  apply List.map_congr_left
  intro encoded member
  obtain ⟨_, _, _, represents⟩ := Program.exists_of_mem_words assembled encoded member
  rw [Function.comp_apply, (format.shows_line encoded.word).value]
  exact Int.emod_eq_of_lt represents.nonnegative represents.small

/-- The lines of words list them. What was written is read from the file again;
all of it is ASCII, so it is decoded to the same text, and none of the lines
holds a line feed, so it is split into them. -/
theorem lists_map_line (format : Format) (words : List Encoded) :
    format.Lists words (words.map fun encoded => format.line encoded.word) where
  length := List.length_map _
  shows := by
    intro index encoded found
    refine ⟨format.line encoded.word, ?_, format.shows_line encoded.word⟩
    rw [List.getElem?_map, found, Option.map_some]
  written := by
    intro files after path written
    have plain : ∀ line ∈ words.map fun encoded => format.line encoded.word,
        ∀ c ∈ line, c.toNat < 128 ∧ c ≠ '\n' := by
      intro line member
      obtain ⟨encoded, _, rfl⟩ := List.mem_map.mp member
      exact format.plain_line encoded.word
    have split := Text.splitOn_ofLines _ fun line member feed =>
      (plain line member '\n' feed).2 rfl
    refine ⟨_, ⟨_, files.read_of_write after path _ written, ?_⟩, split, ?_⟩
    · apply Text.Utf8.decodeFrom_encode_of_ascii
      intro c member
      obtain ⟨line, belongs, inside⟩ := List.mem_flatMap.mp member
      rcases List.mem_append.mp inside with inLine | feed
      · exact (plain line belongs c inLine).1
      · rw [List.mem_singleton.mp feed]
        decide
    · intro file program diagnostics assembled
      exact format.read_of_splitOn file program ⟨words, diagnostics⟩ assembled _ split

/-- The hexadecimal line of a word is its line in the hexadecimal format. -/
theorem line_hexadecimal (x : Int) : hexadecimal.line x = Word.markedHexadecimal x := by
  simp only [line, hexadecimal, Word.markedHexadecimal, Word.hexadecimal, List.cons_append,
    List.nil_append]

/-- The binary line of a word is its line in the binary format. -/
theorem line_binary (x : Int) : binary.line x = Word.binary x := by
  simp only [line, binary, Word.binary, List.nil_append]

end Format

/-- The hexadecimal lines of words list them, as an instance of the format of
eight digits. -/
theorem lists_hexadecimalLines (words : List Encoded) :
    Format.hexadecimal.Lists words (hexadecimalLines words) := by
  have lists := Format.hexadecimal.lists_map_line words
  simpa only [Format.line_hexadecimal, hexadecimalLines] using lists

/-- The binary lines of words list them, as an instance of the format of
thirty-two digits. -/
theorem lists_binaryLines (words : List Encoded) :
    Format.binary.Lists words (binaryLines words) := by
  have lists := Format.binary.lists_map_line words
  simpa only [Format.line_binary, binaryLines] using lists

end Listing

/-- Both listings carry the same words and can be read back. For all words, of
whatever size, the lines of either format show them modulo the number of words,
and a file holds the lines again; the words of an assembly are recovered from
either file. The hexadecimal digits of any integer are an immediate of its low
bits.

Proof: both are instances of one format, in which a fixed numeral shows the low
bits and a file of ASCII lines is decoded and split into them again. -/
theorem listings_carry_words (words : List Encoded) :
    Listing.Format.hexadecimal.Lists words (Listing.hexadecimalLines words) ∧
    Listing.Format.binary.Lists words (Listing.binaryLines words) ∧
    ∀ x : Int, Immediate.read ('$' :: Word.hexadecimal x) = .ok (x % 2 ^ 32) ∧
      (Word.low x : Int) = x % 2 ^ 32 := by
  refine ⟨Listing.lists_hexadecimalLines words, Listing.lists_binaryLines words, ?_⟩
  intro x
  exact ⟨Word.read_hexadecimal x, Word.low_eq_emod x⟩

/-- The words of two lines, one with a negative immediate, are read back from
the binary file to which they were written. -/
theorem listings_carry_words_branch :
    ∃ assembly after, ((Program.ofText "nop\nbrmi R3, -2".toList).assemble none).result =
        .ok assembly ∧
      FileSystem.empty.write ⟨"a".toList, by decide⟩
        (Text.Utf8.encode (Text.ofLines (Listing.binaryLines assembly.words))) = .ok after ∧
      ∃ content, after.HoldsText ⟨"a".toList, by decide⟩ content ∧
        Listing.Format.binary.read content = [3355443200, 2447900670] := by
  obtain ⟨words, diagnostics, assembled, same⟩ : ∃ words diagnostics,
      ((Program.ofText "nop\nbrmi R3, -2".toList).assemble none).result =
        .ok ⟨words, diagnostics⟩ ∧ words.map Encoded.word = [3355443200, 2447900670] :=
    ⟨_, _, rfl, rfl⟩
  obtain ⟨after, written⟩ : ∃ after, FileSystem.empty.write ⟨"a".toList, by decide⟩
      (Text.Utf8.encode (Text.ofLines (Listing.binaryLines words))) = .ok after := ⟨_, rfl⟩
  obtain ⟨_, lists, _⟩ := listings_carry_words words
  obtain ⟨content, holds, _, recovered⟩ := lists.written _ after _ written
  exact ⟨⟨words, diagnostics⟩, after, assembled, written, content, holds,
    (recovered none _ diagnostics assembled).trans same⟩

end LineAssembler
