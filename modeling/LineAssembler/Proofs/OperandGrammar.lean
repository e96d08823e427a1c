import LineAssembler.Operand
import LineAssembler.Proofs.Numerals
import LineAssembler.Proofs.Results
import LineAssembler.Proofs.Trimming

/-!
# The grammar of operands

Relations between a trimmed text and what it denotes: a register name, an
immediate literal and an address. Each says which texts are operands of its sort
and what they stand for, without reference to how a token is read. The same is done
for the one way of failing that is no fault of the operand's syntax: a decimal
numeral past the digit limit.

For each sort one theorem classifies what reading comes to: the value that the text
denotes, the digit limit if the text is overlong, and a fault in all other cases.
That reading succeeds exactly on the texts of the relation, and runs into the limit
exactly on overlong ones, follows from the classification alone.
-/

namespace LineAssembler

/-- A name of a register: an R in either case before a decimal numeral of its
index. Leading zeros are allowed. -/
inductive Register.Named : Text → Register → Prop where
  | intro (letter : Char) (digits : Text) (register : Register)
      (marked : letter = 'R' ∨ letter = 'r') (readable : Numeral.Readable digits)
      (indexed : Numeral.value 10 digits = register.val) :
      Register.Named (letter :: digits) register

/-- A literal of an integer: hexadecimal digits after a dollar sign, or a
decimal numeral with or without a minus sign. -/
inductive Immediate.Literal : Text → Int → Prop where
  | hexadecimal (digits : Text) (nonempty : digits ≠ [])
      (hexadecimal : ∀ c ∈ digits, Numeral.isHexDigit c = true) :
      Immediate.Literal ('$' :: digits) (Numeral.value 16 digits)
  | decimal (digits : Text) (readable : Numeral.Readable digits) :
      Immediate.Literal digits (Numeral.value 10 digits)
  | negative (digits : Text) (readable : Numeral.Readable digits) :
      Immediate.Literal ('-' :: digits) (-(Numeral.value 10 digits : Int))

/-- An address as it is written: an offset alone, a base register in
parentheses, or both, with blanks allowed between them and inside the
parentheses. -/
inductive Address.Written : Text → Address → Prop where
  | offset (text : Text) (offset : Int) (literal : Immediate.Literal text offset) :
      Address.Written text ⟨.zero, offset⟩
  | base (inner : Text) (base : Register)
      (named : Text.Padded (Register.Named · base) inner) :
      Address.Written ('(' :: inner ++ [')']) ⟨base, 0⟩
  | full (text gap inner : Text) (offset : Int) (base : Register)
      (literal : Immediate.Literal text offset) (blank : Text.AllBlank gap)
      (named : Text.Padded (Register.Named · base) inner) :
      Address.Written (text ++ gap ++ '(' :: inner ++ [')']) ⟨base, offset⟩

/-- A register name whose numeral is past the digit limit. -/
inductive Register.Overlong : Text → Prop where
  | intro (letter : Char) (digits : Text) (marked : letter = 'R' ∨ letter = 'r')
      (overlong : Numeral.Overlong digits) : Register.Overlong (letter :: digits)

/-- A decimal literal whose numeral is past the digit limit. -/
inductive Immediate.Overlong : Text → Prop where
  | decimal (digits : Text) (overlong : Numeral.Overlong digits) : Immediate.Overlong digits
  | negative (digits : Text) (overlong : Numeral.Overlong digits) :
      Immediate.Overlong ('-' :: digits)

/-- An address in which the first numeral to be read that is not an operand is
past the digit limit. The base register is read before the offset. -/
inductive Address.Overlong : Text → Prop where
  | offset (text : Text) (overlong : Immediate.Overlong text) : Address.Overlong text
  | base (outer inner : Text) (alone : '(' ∉ outer) (closed : ')' ∉ inner)
      (overlong : Register.Overlong (Text.trim inner)) :
      Address.Overlong (outer ++ '(' :: inner ++ [')'])
  | full (outer inner : Text) (base : Register) (alone : '(' ∉ outer)
      (named : Text.Padded (Register.Named · base) inner)
      (overlong : Immediate.Overlong (Text.trim outer)) :
      Address.Overlong (outer ++ '(' :: inner ++ [')'])

/-! ## Characters of names and literals -/

/-- The code points of register names and literals: dollar sign, minus sign,
digits and letters. -/
def wordRanges : List Text.CodeRange :=
  [⟨0x24, 0x24⟩, ⟨0x2D, 0x2D⟩, ⟨0x30, 0x39⟩, ⟨0x41, 0x5A⟩, ⟨0x61, 0x7A⟩]

/-- The characters of register names and literals. -/
def isWordCharacter (c : Char) : Bool := Text.covered wordRanges c

/-- The characters of names and literals by code point, so that arithmetic can
decide about them. -/
theorem isWordCharacter_iff (c : Char) :
    isWordCharacter c = true ↔ c.toNat = 0x24 ∨ c.toNat = 0x2D ∨
      (0x30 ≤ c.toNat ∧ c.toNat ≤ 0x39) ∨ (0x41 ≤ c.toNat ∧ c.toNat ≤ 0x5A) ∨
      (0x61 ≤ c.toNat ∧ c.toNat ≤ 0x7A) := by
  simp only [isWordCharacter, Text.covered, wordRanges, Text.CodeRange.covers, List.any_cons,
    List.any_nil, Bool.or_eq_true, Bool.and_eq_true, decide_eq_true_eq, Bool.false_eq_true,
    or_false]
  omega

/-- No character of a name or literal is blank, and none has a meaning of its
own in a source line. The characters of words are all below code 128, so a table
of these codes decides it. -/
theorem isWordCharacter_apart (c : Char) (inWord : isWordCharacter c = true) :
    Text.isBlank c = false ∧ c ∉ [',', '(', ')', ';', ':', '\r'] := by
  have ascii : c.toNat < 0x80 := by
    have ranges := (isWordCharacter_iff c).mp inWord
    omega
  exact Text.forall_ascii (fun c => isWordCharacter c = true →
    Text.isBlank c = false ∧ c ∉ [',', '(', ')', ';', ':', '\r']) (by decide) c ascii inWord

/-- A decimal digit is a word character. -/
theorem isWordCharacter_of_isDigit (c : Char) (digit : c.isDigit = true) :
    isWordCharacter c = true := by
  have range := Char.isDigit_iff_toNat.mp digit
  rw [isWordCharacter_iff]
  exact Or.inr (Or.inr (Or.inl range))

/-- A hexadecimal digit is a word character: its three ranges of codes lie
within those of digits and letters. -/
theorem isWordCharacter_of_isHexDigit (c : Char) (digit : Numeral.isHexDigit c = true) :
    isWordCharacter c = true := by
  simp only [Numeral.isHexDigit, Bool.or_eq_true, Bool.and_eq_true, decide_eq_true_eq,
    Char.le_def, UInt32.le_iff_toNat_le, Char.toNat_val] at digit
  rcases digit with (decimal | ⟨low, high⟩) | ⟨low, high⟩
  · exact isWordCharacter_of_isDigit c decimal
  · simp at low high
    exact (isWordCharacter_iff c).mpr (by omega)
  · simp at low high
    exact (isWordCharacter_iff c).mpr (by omega)

/-- A text of word characters, such as a name or a literal. -/
def IsWord (text : Text) : Prop := text ≠ [] ∧ ∀ c ∈ text, isWordCharacter c = true

/-- There is no blank in a word. -/
theorem IsWord.solid {text : Text} (word : IsWord text) : ∀ c ∈ text, Text.isBlank c = false :=
  fun c member => (isWordCharacter_apart c (word.2 c member)).1

/-- A word is its own core. -/
theorem IsWord.trim {text : Text} (word : IsWord text) : Text.trim text = text :=
  Text.trim_of_solid text word.solid

/-- A word holds none of the marks of a source line. -/
theorem IsWord.not_mem {text : Text} (word : IsWord text) (mark : Char)
    (marks : mark ∈ [',', '(', ')', ';', ':', '\r']) : mark ∉ text :=
  fun member => (isWordCharacter_apart mark (word.2 mark member)).2 marks

/-- Nothing in a word starts a comment, ends a label or is deleted from a line. -/
theorem IsWord.not_mem_cut {text : Text} (word : IsWord text) (mark : Char)
    (marks : mark ∈ [';', ':', '\r']) : mark ∉ text :=
  word.not_mem mark (List.mem_append_right [',', '(', ')'] marks)

/-- A word character before word characters makes a word. -/
theorem isWord_cons (first : Char) (rest : Text) (inWord : isWordCharacter first = true)
    (others : ∀ c ∈ rest, isWordCharacter c = true) : IsWord (first :: rest) :=
  ⟨List.cons_ne_nil _ _, List.forall_mem_cons.mpr ⟨inWord, others⟩⟩

/-- An R before digits is a word, whatever the digits say. So the next two
lemmas need not look at the numeral. -/
theorem isWord_of_register (letter : Char) (digits : Text) (marked : letter = 'R' ∨ letter = 'r')
    (decimal : ∀ c ∈ digits, c.isDigit = true) : IsWord (letter :: digits) := by
  apply isWord_cons
  · rcases marked with rfl | rfl <;> decide
  · exact fun c member => isWordCharacter_of_isDigit c (decimal c member)

/-- A register name is a word. -/
theorem Register.Named.isWord {text : Text} {register : Register}
    (named : Register.Named text register) : IsWord text := by
  obtain ⟨letter, digits, _, marked, readable, _⟩ := named
  exact isWord_of_register letter digits marked readable.digits

/-- A register name is a word also when its numeral is too long. -/
theorem Register.Overlong.isWord {text : Text} (overlong : Register.Overlong text) :
    IsWord text := by
  obtain ⟨letter, digits, marked, overlong⟩ := overlong
  exact isWord_of_register letter digits marked overlong.digits

/-- An immediate literal is a word: a mark before digits, or digits alone. In
particular it holds no blank and no parenthesis, by which an address is cut. -/
theorem Immediate.Literal.isWord {text : Text} {value : Int}
    (literal : Immediate.Literal text value) : IsWord text := by
  cases literal with
  | hexadecimal digits nonempty hexadecimal =>
    exact isWord_cons '$' digits (by decide) fun c member =>
      isWordCharacter_of_isHexDigit c (hexadecimal c member)
  | decimal digits readable =>
    exact ⟨readable.nonempty, fun c member =>
      isWordCharacter_of_isDigit c (readable.digits c member)⟩
  | negative digits readable =>
    exact isWord_cons '-' digits (by decide) fun c member =>
      isWordCharacter_of_isDigit c (readable.digits c member)

/-- A decimal literal is a word also when its numeral is too long. A numeral
past the limit has digits, so it is not empty. -/
theorem Immediate.Overlong.isWord {text : Text} (overlong : Immediate.Overlong text) :
    IsWord text := by
  cases overlong with
  | decimal digits overlong =>
    refine ⟨?_, fun c member => isWordCharacter_of_isDigit c (overlong.digits c member)⟩
    rintro rfl
    exact absurd overlong.long (by simp)
  | negative digits overlong =>
    exact isWord_cons '-' digits (by decide) fun c member =>
      isWordCharacter_of_isDigit c (overlong.digits c member)

/-- An integer whose numeral keeps the digit limit has that numeral as a
literal. The numeral is that of the magnitude, after a minus sign if the integer
is negative. -/
theorem Immediate.literal_numeral (value : Int)
    (short : (Numeral.ofNat value.natAbs).length ≤ Numeral.digitLimit) :
    Immediate.Literal (Numeral.ofInt value) value := by
  have readable : Numeral.Readable (Numeral.ofNat value.natAbs) :=
    ⟨Nat.toDigits_ne_nil, Numeral.isDigit_of_mem_ofNat _, short⟩
  cases value with
  | ofNat n =>
    have literal := Immediate.Literal.decimal _ readable
    rw [Numeral.value_ofNat] at literal
    exact literal
  | negSucc n =>
    have literal := Immediate.Literal.negative _ readable
    rw [Numeral.value_ofNat] at literal
    exact literal

/-! ## Reading registers and immediates -/

/-- How reading ends, in terms of what is read: with every value that it means,
past the digit limit if it is overlong, and otherwise by a fault. -/
structure Classified {α : Type} (result : Except Failure α) (means : α → Prop)
    (overlong : Prop) : Prop where
  ok : ∀ value, means value → result = .ok value
  limit : overlong → ∃ limit, result = .error (.limit limit)
  complete : (∃ value, means value) ∨ overlong ∨ ∃ fault, result = .error (.fault fault)

namespace Classified

variable {α β : Type} {result : Except Failure α} {means : α → Prop} {overlong : Prop}

/-- Reading yields exactly what is meant. If it yields a value, the other two
ways of ending are excluded, and what is meant is that very value. -/
theorem eq_ok_iff (classified : Classified result means overlong) (value : α) :
    result = .ok value ↔ means value := by
  constructor
  · intro success
    rcases classified.complete with ⟨other, meant⟩ | long | ⟨fault, failure⟩
    · obtain rfl := Except.ok.inj (success.symm.trans (classified.ok other meant))
      exact meant
    · obtain ⟨limit, failure⟩ := classified.limit long
      rw [success] at failure
      contradiction
    · rw [success] at failure
      contradiction
  · exact classified.ok value

/-- Reading runs into the digit limit exactly for what is overlong. Meant values
are yielded and faults are reported, so the limit is left for what is overlong. -/
theorem eq_limit_iff (classified : Classified result means overlong) :
    (∃ limit, result = .error (.limit limit)) ↔ overlong := by
  constructor
  · rintro ⟨limit, failure⟩
    rcases classified.complete with ⟨value, meant⟩ | long | ⟨fault, other⟩
    · rw [classified.ok value meant] at failure
      contradiction
    · exact long
    · rw [other] at failure
      simp at failure
  · exact classified.limit

/-- What is computed from a value that was read is classified as the value is. A
fault and the limit pass through the computation unchanged. -/
theorem map (classified : Classified result means overlong) (f : α → β) :
    Classified (result.map f) (fun value => ∃ inner, means inner ∧ f inner = value)
      overlong where
  ok := by
    rintro _ ⟨inner, meant, rfl⟩
    rw [classified.ok inner meant]
    rfl
  limit := by
    intro long
    obtain ⟨limit, failure⟩ := classified.limit long
    exact ⟨limit, by rw [failure]; rfl⟩
  complete := by
    rcases classified.complete with ⟨inner, meant⟩ | long | ⟨fault, failure⟩
    · exact Or.inl ⟨f inner, inner, meant, rfl⟩
    · exact Or.inr (Or.inl long)
    · exact Or.inr (Or.inr ⟨fault, by rw [failure]; rfl⟩)

end Classified

/-- A token is read as the register that it names, and runs into the digit limit
if it is a register name with too long a numeral. For completeness the checks of
the reading are followed in their order: the letter and the digits, then the
length, then the index. Only the second of them is no fault. -/
theorem Register.classified_read (token : Text) :
    Classified (Register.read token) (Register.Named (Text.trim token))
      (Register.Overlong (Text.trim token)) := by
  simp only [Register.read]
  generalize Text.trim token = text
  refine ⟨?_, ?_, ?_⟩
  · rintro register ⟨letter, digits, _, marked, readable, indexed⟩
    have inside : Numeral.value 10 digits < 16 := indexed ▸ register.isLt
    simp only [marked, readable.isDecimal, readable.readDecimal, inside, and_self, if_true,
      dif_pos]
    exact congrArg Except.ok (Fin.ext indexed)
  · rintro ⟨letter, digits, marked, overlong⟩
    refine ⟨.reading digits.length, ?_⟩
    simp only [marked, overlong.isDecimal, overlong.readDecimal, and_self, if_true]
  · cases text with
    | nil => exact Or.inr (Or.inr ⟨_, rfl⟩)
    | cons letter digits =>
      by_cases check : (letter = 'R' ∨ letter = 'r') ∧ Numeral.isDecimal digits = true
      · rcases Numeral.readable_or_overlong digits check.2 with readable | overlong
        · by_cases inside : Numeral.value 10 digits < 16
          · exact Or.inl ⟨⟨_, inside⟩, .intro letter digits _ check.1 readable rfl⟩
          · refine Or.inr (Or.inr ⟨.registerOutOfRange token, ?_⟩)
            simp [check, readable.readDecimal, inside]
        · exact Or.inr (Or.inl (.intro letter digits check.1 overlong))
      · exact Or.inr (Or.inr ⟨.malformedRegister token, if_neg check⟩)

namespace Immediate

/-- A magnitude is read as the value of a decimal numeral that keeps the limit.
Digits are counted before they are read, so decimal digits keep the limit or are
overlong. -/
theorem classified_readMagnitude (token digits : Text) :
    Classified (readMagnitude token digits)
      (fun n => Numeral.Readable digits ∧ Numeral.value 10 digits = n)
      (Numeral.Overlong digits) := by
  refine ⟨?_, ?_, ?_⟩
  · rintro n ⟨readable, rfl⟩
    rw [readMagnitude, if_pos readable.isDecimal, readable.readDecimal]
    rfl
  · intro overlong
    refine ⟨.reading digits.length, ?_⟩
    rw [readMagnitude, if_pos overlong.isDecimal, overlong.readDecimal]
    rfl
  · by_cases decimal : Numeral.isDecimal digits = true
    · rcases Numeral.readable_or_overlong digits decimal with readable | overlong
      · exact Or.inl ⟨_, readable, rfl⟩
      · exact Or.inr (Or.inl overlong)
    · exact Or.inr (Or.inr ⟨_, if_neg decimal⟩)

/-- Without a mark in front, a text is read as an unsigned decimal numeral. Two
of the three cases of the reading need a mark. -/
theorem read_of_unmarked (token text : Text) (whole : Text.trim token = text)
    (dollar : text.head? ≠ some '$') (minus : text.head? ≠ some '-') :
    Immediate.read token = (readMagnitude token text).map fun n : Nat => (n : Int) := by
  rw [Immediate.read, whole]
  split
  case h_1 => exact absurd rfl dollar
  case h_2 => exact absurd rfl minus
  case h_3 => rfl

/-- Digits start with neither of the marks of an immediate, so they are read as
an unsigned decimal numeral. -/
theorem read_of_digits (token digits : Text) (whole : Text.trim token = digits)
    (decimal : ∀ c ∈ digits, c.isDigit = true) :
    Immediate.read token = (readMagnitude token digits).map fun n : Nat => (n : Int) := by
  apply read_of_unmarked token digits whole
  · intro dollar
    exact absurd (decimal '$' (List.mem_of_head? dollar)) (by decide)
  · intro minus
    exact absurd (decimal '-' (List.mem_of_head? minus)) (by decide)

/-- A token is read as an immediate of the value of which it is a literal, and
runs into the digit limit if it is a decimal literal with too long a numeral.
Hexadecimal literals are never too long. The first character tells the three
forms of a literal apart, and in both decimal forms the magnitude is classified
already. -/
theorem classified_read (token : Text) :
    Classified (Immediate.read token) (Immediate.Literal (Text.trim token))
      (Immediate.Overlong (Text.trim token)) := by
  generalize whole : Text.trim token = text
  have magnitude := classified_readMagnitude token
  refine ⟨?_, ?_, ?_⟩
  · intro value literal
    cases literal with
    | hexadecimal digits nonempty all =>
      rw [Immediate.read, whole]
      exact if_pos ((Numeral.isHexadecimal_iff digits).mpr ⟨nonempty, all⟩)
    | negative digits readable =>
      rw [Immediate.read, whole]
      exact ((magnitude digits).map _).ok _ ⟨_, ⟨readable, rfl⟩, rfl⟩
    | decimal digits readable =>
      rw [read_of_digits token text whole readable.digits]
      exact ((magnitude text).map _).ok _ ⟨_, ⟨readable, rfl⟩, rfl⟩
  · intro overlong
    cases overlong with
    | negative digits overlong =>
      rw [Immediate.read, whole]
      exact ((magnitude digits).map _).limit overlong
    | decimal digits overlong =>
      rw [read_of_digits token text whole overlong.digits]
      exact ((magnitude text).map _).limit overlong
  · rw [Immediate.read, whole]
    split
    case h_1 digits =>
      by_cases check : Numeral.isHexadecimal digits = true
      · obtain ⟨nonempty, all⟩ := (Numeral.isHexadecimal_iff digits).mp check
        exact Or.inl ⟨_, .hexadecimal digits nonempty all⟩
      · exact Or.inr (Or.inr ⟨_, if_neg check⟩)
    case h_2 digits =>
      rcases ((magnitude digits).map _).complete with
        ⟨_, _, ⟨readable, _⟩, _⟩ | overlong | failure
      · exact Or.inl ⟨_, .negative digits readable⟩
      · exact Or.inr (Or.inl (.negative digits overlong))
      · exact Or.inr (Or.inr failure)
    case h_3 =>
      rcases ((magnitude text).map _).complete with
        ⟨_, _, ⟨readable, _⟩, _⟩ | overlong | failure
      · exact Or.inl ⟨_, .decimal text readable⟩
      · exact Or.inr (Or.inl (.decimal text overlong))
      · exact Or.inr (Or.inr failure)

end Immediate

/-! ## Reading addresses -/

/-- A register name between blanks is what trimming leaves of the text. -/
theorem Register.padded_iff (register : Register) (text : Text) :
    Text.Padded (Register.Named · register) text ↔ Register.Named (Text.trim text) register :=
  Text.padded_iff _ (fun _ named => named.isWord.trim) text

/-- There is no mark of a source line in a padded register name: none in the
name, which is a word, and none in the blanks. A carriage return is blank, so it
is not among the marks here. -/
theorem Register.not_mem_of_padded (register : Register) (text : Text)
    (named : Text.Padded (Register.Named · register) text) (mark : Char)
    (marks : mark ∈ [',', '(', ')', ';', ':']) : mark ∉ text := by
  obtain ⟨left, core, right, blankLeft, blankRight, name, rfl⟩ := named
  have solid : Text.isBlank mark = false := by
    simp only [List.mem_cons, List.not_mem_nil, or_false] at marks
    rcases marks with rfl | rfl | rfl | rfl | rfl <;> decide
  have notLeft : mark ∉ left := Text.not_mem_of_allBlank mark solid left blankLeft
  have notRight : mark ∉ right := Text.not_mem_of_allBlank mark solid right blankRight
  have notCore : mark ∉ core := name.isWord.not_mem mark (List.mem_append_left ['\r'] marks)
  simp [notLeft, notCore, notRight]

namespace Address

/-- The parts of an address are the text before its first opening parenthesis
and the text from there to the closing one, which ends the address and is the
first. From a cut that is made the text is put together again; conversely a text
of that shape is cut where its parts end, because they hold no such parenthesis
themselves. -/
theorem split?_eq_some_iff (text outer inner : Text) :
    split? text = some (outer, inner) ↔
      text = outer ++ '(' :: inner ++ [')'] ∧ '(' ∉ outer ∧ ')' ∉ inner := by
  constructor
  · intro success
    simp only [split?] at success
    split at success
    case isTrue ending =>
      obtain ⟨rfl, rfl⟩ := Prod.mk.inj (Option.some.inj success)
      have opened : '(' ∈ text := by
        apply Decidable.byContradiction
        intro absent
        simp [Text.after_of_not_mem '(' text absent] at ending
      have closing : Text.after '(' text = Text.before ')' (Text.after '(' text) ++ [')'] := by
        have parts := List.takeWhile_append_dropWhile (p := (· != ')')) (l := Text.after '(' text)
        rw [ending] at parts
        exact parts.symm
      refine ⟨?_, Text.not_mem_before '(' text, Text.not_mem_before ')' _⟩
      rw [List.append_assoc, List.cons_append, ← closing, Text.before_append_after '(' text opened]
    case isFalse => contradiction
  · rintro ⟨rfl, outerOpen, innerClose⟩
    have rest : Text.after '(' (outer ++ '(' :: inner ++ [')']) = inner ++ [')'] := by
      rw [List.append_assoc, List.cons_append, Text.after_append_cons '(' _ _ outerOpen]
    have front : Text.before '(' (outer ++ '(' :: inner ++ [')']) = outer := by
      rw [List.append_assoc, List.cons_append, Text.before_append_cons '(' _ _ outerOpen]
    have ending : (inner ++ [')']).dropWhile (· != ')') = [')'] := by
      rw [List.dropWhile_append_of_pos (Text.bne_of_not_mem ')' inner innerClose)]
      rfl
    simp only [split?, rest, ending, if_true, front, Text.before_append_cons ')' _ _ innerClose]

/-- Without an opening parenthesis an address is an offset. -/
theorem read_of_not_mem (token : Text) (absent : '(' ∉ Text.trim token) :
    Address.read token =
      (Immediate.read (Text.trim token)).map fun offset => ⟨.zero, offset⟩ := by
  simp [Address.read, absent]

/-- An address with parentheses is read from its parts, the base register first.
An offset is read only if something other than blanks stands before the
parenthesis. -/
theorem read_of_split (token outer inner : Text)
    (parts : Text.trim token = outer ++ '(' :: inner ++ [')']) (alone : '(' ∉ outer)
    (closed : ')' ∉ inner) :
    Address.read token = (Register.read (Text.trim inner)).bind fun base =>
      if (Text.trim outer).isEmpty then .ok ⟨base, 0⟩
      else (Immediate.read (Text.trim outer)).map fun offset => ⟨base, offset⟩ := by
  have opened : '(' ∈ Text.trim token := by simp [parts]
  have split := (split?_eq_some_iff (Text.trim token) outer inner).mpr ⟨parts, alone, closed⟩
  simp only [Address.read, if_pos opened, split]
  cases Register.read (Text.trim inner) <;> rfl

/-- The inside of parentheses is read as the register that it names between
blanks. It is trimmed twice, which makes no difference. -/
theorem classified_base (inner : Text) :
    Classified (Register.read (Text.trim inner))
      (fun base => Text.Padded (Register.Named · base) inner)
      (Register.Overlong (Text.trim inner)) := by
  simp only [Register.padded_iff]
  simpa only [Text.trim_trim] using Register.classified_read (Text.trim inner)

/-- A trimmed text is read as the immediate of which it is a literal. -/
theorem classified_offset (outer : Text) :
    Classified (Immediate.read (Text.trim outer)) (Immediate.Literal (Text.trim outer))
      (Immediate.Overlong (Text.trim outer)) := by
  simpa only [Text.trim_trim] using Immediate.classified_read (Text.trim outer)

/-- The text of an address in front of its parenthesis starts with no blank, so
that it is an offset and blanks behind it, or nothing. A blank at its start
would be one at the start of a trimmed token. -/
theorem eq_trim_append (token outer rest : Text) (parts : Text.trim token = outer ++ rest) :
    ∃ gap, Text.AllBlank gap ∧ outer = Text.trim outer ++ gap := by
  obtain ⟨left, gap, blankLeft, blank, whole⟩ := Text.exists_pad outer
  have nothing : left = [] := by
    rw [whole, List.append_assoc, List.append_assoc] at parts
    exact Text.eq_nil_of_trim_eq token left _ parts blankLeft
  rw [nothing, List.nil_append] at whole
  exact ⟨gap, blank, whole⟩

/-- A token is read as the address as which it is written. The forms are told
apart as the reading does it: a literal holds no parenthesis, and with
parentheses the register and the literal are found again in the parts. -/
theorem read_of_written (token : Text) (address : Address)
    (written : Address.Written (Text.trim token) address) : Address.read token = .ok address := by
  generalize whole : Text.trim token = text at written
  cases written with
  | offset _ offset literal =>
    have absent : '(' ∉ Text.trim token := by
      rw [whole]
      exact literal.isWord.not_mem '(' (by decide)
    rw [read_of_not_mem token absent]
    exact ((classified_offset token).map _).ok _ ⟨offset, by rwa [whole], rfl⟩
  | base inner base named =>
    have closed : ')' ∉ inner := Register.not_mem_of_padded base inner named ')' (by decide)
    rw [read_of_split token [] inner (by simpa using whole) (by simp) closed,
      (classified_base inner).ok base named]
    rfl
  | full outer gap inner offset base literal blank named =>
    have closed : ')' ∉ inner := Register.not_mem_of_padded base inner named ')' (by decide)
    have notGap : '(' ∉ gap := Text.not_mem_of_allBlank _ (by decide) gap blank
    have alone : '(' ∉ outer ++ gap := by
      simp [literal.isWord.not_mem '(' (by decide), notGap]
    have core : Text.trim (outer ++ gap) = outer := by
      rw [Text.trim_append_right outer gap blank, literal.isWord.trim]
    have offsetRead := (classified_offset (outer ++ gap)).ok offset (by rwa [core])
    rw [read_of_split token (outer ++ gap) inner whole alone closed,
      (classified_base inner).ok base named]
    simp [Except.bind, core, literal.isWord.1, core ▸ offsetRead, Except.map]

/-- A token runs into the digit limit if its first part that cannot be read as
part of an address is too long a numeral. An overlong base is met whatever the
offset is; an overlong offset is met only behind a base that can be read. -/
theorem read_of_overlong (token : Text) (overlong : Address.Overlong (Text.trim token)) :
    ∃ limit, Address.read token = .error (.limit limit) := by
  generalize whole : Text.trim token = text at overlong
  cases overlong with
  | offset _ overlong =>
    have absent : '(' ∉ Text.trim token := by
      rw [whole]
      exact overlong.isWord.not_mem '(' (by decide)
    rw [read_of_not_mem token absent]
    exact ((classified_offset token).map _).limit (by rwa [whole])
  | base outer inner alone closed overlong =>
    obtain ⟨limit, failure⟩ := (classified_base inner).limit overlong
    exact ⟨limit, by rw [read_of_split token outer inner whole alone closed, failure]; rfl⟩
  | full outer inner base alone named overlong =>
    have closed : ')' ∉ inner := Register.not_mem_of_padded base inner named ')' (by decide)
    obtain ⟨limit, failure⟩ := (classified_offset outer).limit overlong
    refine ⟨limit, ?_⟩
    rw [read_of_split token outer inner whole alone closed,
      (classified_base inner).ok base named]
    simp [Except.bind, overlong.isWord.1, failure, Except.map]

/-- A token is an address, or is overlong as one, or has a fault. A token with
parentheses is cut, and then its parts are classified in the order in which they
are read: the base, and behind a base that is named the offset. A token without
any is classified as an immediate is. -/
theorem classified_read (token : Text) :
    Classified (Address.read token) (Address.Written (Text.trim token))
      (Address.Overlong (Text.trim token)) := by
  refine ⟨read_of_written token, read_of_overlong token, ?_⟩
  by_cases opened : '(' ∈ Text.trim token
  · cases split : split? (Text.trim token) with
    | none => exact Or.inr (Or.inr ⟨.malformedAddress token, by simp [Address.read, opened, split]⟩)
    | some pieces =>
      obtain ⟨outer, inner⟩ := pieces
      obtain ⟨parts, alone, closed⟩ := (split?_eq_some_iff _ outer inner).mp split
      rw [read_of_split token outer inner parts alone closed, parts]
      rcases (classified_base inner).complete with ⟨base, named⟩ | overlong | ⟨fault, failure⟩
      · rw [List.append_assoc] at parts
        obtain ⟨gap, blank, whole⟩ := eq_trim_append token outer _ parts
        by_cases empty : Text.trim outer = []
        · have nothing : outer = [] :=
            Text.eq_nil_of_trim_eq token outer _ parts ((Text.trim_eq_nil_iff outer).mp empty)
          rw [nothing]
          exact Or.inl ⟨_, .base inner base named⟩
        · rcases (classified_offset outer).complete with
            ⟨offset, literal⟩ | overlong | ⟨fault, failure⟩
          · rw [whole]
            exact Or.inl ⟨_, .full _ gap inner offset base literal blank named⟩
          · exact Or.inr (Or.inl (.full outer inner base alone named overlong))
          · refine Or.inr (Or.inr ⟨fault, ?_⟩)
            rw [(classified_base inner).ok base named]
            simp [Except.bind, empty, failure, Except.map]
      · exact Or.inr (Or.inl (.base outer inner alone closed overlong))
      · exact Or.inr (Or.inr ⟨fault, by rw [failure]; rfl⟩)
  · rw [read_of_not_mem token opened]
    rcases ((classified_offset token).map _).complete with
      ⟨_, offset, literal, _⟩ | overlong | failure
    · exact Or.inl ⟨_, .offset _ offset literal⟩
    · exact Or.inr (Or.inl (.offset _ overlong))
    · exact Or.inr (Or.inr failure)

/-- Nothing is trimmed of parentheses behind a part that starts with no blank.
The text ends in a parenthesis, and it starts with that part or with a
parenthesis. -/
theorem trim_of_solid_head (outer inner : Text)
    (first : ∀ c ∈ outer.head?, Text.isBlank c = false) :
    Text.trim (outer ++ '(' :: inner ++ [')']) = outer ++ '(' :: inner ++ [')'] := by
  apply Text.trim_eq_self
  · intro c found
    cases outer with
    | nil =>
      obtain rfl : '(' = c := Option.some.inj found
      decide
    | cons head rest => exact first c found
  · intro c found
    obtain rfl : ')' = c := Option.some.inj (List.getLast?_concat.symm.trans found)
    decide

/-- An address neither starts nor ends with a blank. It starts with its offset,
which is a word, or with a parenthesis. -/
theorem Written.trim {text : Text} {address : Address} (written : Address.Written text address) :
    Text.trim text = text := by
  cases written with
  | offset _ offset literal => exact literal.isWord.trim
  | base inner base named => exact trim_of_solid_head [] inner (by simp)
  | full outer gap inner offset base literal blank named =>
    obtain ⟨head, tail, whole⟩ := List.exists_cons_of_ne_nil literal.isWord.1
    apply trim_of_solid_head (outer ++ gap) inner
    intro c first
    obtain rfl : head = c := by simpa [whole] using first
    exact literal.isWord.solid head (by simp [whole])

/-- An address is not empty. -/
theorem Written.ne_nil {text : Text} {address : Address} (written : Address.Written text address) :
    text ≠ [] := by
  cases written with
  | offset _ offset literal => exact literal.isWord.1
  | base inner base named => simp
  | full outer gap inner offset base literal blank named => simp

/-- There is no comma in an address, so a list of operands is not cut inside of
one. -/
theorem Written.not_mem {text : Text} {address : Address}
    (written : Address.Written text address) : ',' ∉ text := by
  cases written with
  | offset _ offset literal => exact literal.isWord.not_mem ',' (by decide)
  | base inner base named =>
    simp [Register.not_mem_of_padded base inner named ',' (by decide)]
  | full outer gap inner offset base literal blank named =>
    have notOuter : ',' ∉ outer := literal.isWord.not_mem ',' (by decide)
    have notGap : ',' ∉ gap := Text.not_mem_of_allBlank _ (by decide) gap blank
    simp [notOuter, notGap, Register.not_mem_of_padded base inner named ',' (by decide)]

end Address

end LineAssembler
