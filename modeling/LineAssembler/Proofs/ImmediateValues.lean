import LineAssembler.Proofs.CaseInsensitivity
import LineAssembler.Proofs.GroupedBits
import LineAssembler.Proofs.OutcomePrecedence
import LineAssembler.Proofs.WordFormats
import Mathlib.Data.Nat.Digits.Defs

/-!
# Values of immediates

An immediate is read as the positional value of its digits: each digit counts by its place
among the digits of its base, times a power of the base for the digits behind it. Which texts
are immediates is decided by their characters and, for decimal digits, by their number; the
value plays no part in it.

That an integer is read back from its own numeral, in decimal or in either case of
hexadecimal, follows from the positional value of that numeral. So does that zeros in front
of the digits do not change what is read, as long as a decimal numeral keeps the digit limit.
-/

namespace LineAssembler

namespace Numeral

/-! ## Positional values -/

/-- The place of a digit among the sixteen digits, in either case. -/
def rank (c : Char) : Nat := (digitsOf 16).idxOf c.toLower

/-- The positional value of a numeral: its digits count from the last, which is
the least significant. -/
def positional (base : Nat) (digits : Text) : Nat :=
  Nat.ofDigits base (digits.reverse.map rank)

/-- A digit is worth its place among the digits. All digits are ASCII
characters, and these are gone through. -/
theorem digitValue_eq_rank (c : Char) (digit : isHexDigit c = true) : digitValue c = rank c := by
  have ascii : c.toNat < 0x80 := by
    have ranges := (isWordCharacter_iff c).mp (isWordCharacter_of_isHexDigit c digit)
    omega
  exact Text.forall_ascii (fun c => isHexDigit c = true → digitValue c = rank c) (by decide) c
    ascii digit

/-- A digit behind a numeral moves it up by one place. -/
theorem positional_append_singleton (base : Nat) (digits : Text) (c : Char) :
    positional base (digits ++ [c]) = rank c + base * positional base digits := by
  simp [positional, Nat.ofDigits_cons]

/-- Reading digits from the first on gives their positional value. The induction
takes digits off the end, where both sides grow. -/
theorem value_eq_positional (base : Nat) (digits : Text)
    (hexadecimal : ∀ c ∈ digits, isHexDigit c = true) :
    value base digits = positional base digits := by
  induction digits using List.reverseRecOn with
  | nil => rfl
  | append_singleton digits c inductionHypothesis =>
    have front := inductionHypothesis
      fun d member => hexadecimal d (List.mem_append_left [c] member)
    rw [value_append_singleton, positional_append_singleton, front,
      digitValue_eq_rank c (hexadecimal c (by simp)), Nat.mul_comm, Nat.add_comm]

/-- A decimal digit is a hexadecimal one. -/
theorem isHexDigit_of_isDigit (c : Char) (digit : c.isDigit = true) : isHexDigit c = true := by
  simp [isHexDigit, digit]

/-- Zeros in front of digits are digits, in any base in which a zero is one. -/
theorem digit_of_mem_zeros (isDigit : Char → Bool) (zero : isDigit '0' = true) (zeros : Nat)
    (digits : Text) (all : ∀ c ∈ digits, isDigit c = true) :
    ∀ c ∈ List.replicate zeros '0' ++ digits, isDigit c = true := by
  intro c member
  rcases List.mem_append.mp member with padding | digit
  · rw [List.eq_of_mem_replicate padding]
    exact zero
  · exact all c digit

/-- Zeros in front of a numeral do not count: they are the highest digits. Read
positionally, a zero at any place adds nothing. -/
theorem value_zeros (base zeros : Nat) (digits : Text)
    (hexadecimal : ∀ c ∈ digits, isHexDigit c = true) :
    value base (List.replicate zeros '0' ++ digits) = value base digits := by
  have zero : rank '0' = 0 := by decide
  have padded := digit_of_mem_zeros isHexDigit (by decide) zeros digits hexadecimal
  rw [value_eq_positional base _ padded, value_eq_positional base digits hexadecimal,
    positional, List.reverse_append,
    List.reverse_replicate, List.map_append, List.map_replicate, zero,
    Nat.ofDigits_append_replicate_zero, positional]

/-- The numeral of a number is the fixed numeral of as many digits. A fixed
numeral pads with zeros, and with just enough digits there is nothing to pad. -/
theorem toDigits_eq_fixed (base : Nat) (plural : 1 < base) (n : Nat) :
    Nat.toDigits base n = fixed base (Nat.toDigits base n).length n := by
  have positive : 0 < (Nat.toDigits base n).length := Nat.length_toDigits_pos
  have room : n < base ^ (Nat.toDigits base n).length :=
    (Nat.length_toDigits_le_iff plural positive).mp (Nat.le_refl _)
  rw [fixed_eq_leftpad base plural _ n positive room]
  simp [List.leftpad]

/-- A numeral in a base up to 16 consists of hexadecimal digits. -/
theorem isHexDigit_of_mem_toDigits (base : Nat) (plural : 1 < base) (few : base ≤ 16) (n : Nat) :
    ∀ c ∈ Nat.toDigits base n, isHexDigit c = true := by
  intro c member
  rw [toDigits_eq_fixed base plural n] at member
  have digit := mem_digitsOf_of_mem_fixed base (by omega) few _ n c member
  exact (isHexDigit_of_mem_digitsOf base c digit).1

/-- A number is the value of its numeral in a base up to 16. The numeral has as
many digits as the number needs, so nothing is cut off. -/
theorem value_toDigits (base : Nat) (plural : 1 < base) (few : base ≤ 16) (n : Nat) :
    value base (Nat.toDigits base n) = n := by
  have room : n < base ^ (Nat.toDigits base n).length :=
    (Nat.length_toDigits_le_iff plural Nat.length_toDigits_pos).mp (Nat.le_refl _)
  rw [toDigits_eq_fixed base plural n, value_fixed base (by omega) few, Nat.mod_eq_of_lt room]

end Numeral

namespace Immediate

/-! ## What a token is read as -/

/-- How an immediate is written, with the positional value of its digits: one or
more hexadecimal digits after a dollar sign, or 1 to 4300 decimal digits, with a
minus sign or without. -/
theorem literal_iff (text : Text) (value : Int) :
    Literal text value ↔
      (∃ digits, text = '$' :: digits ∧ digits ≠ [] ∧
        (∀ c ∈ digits, Numeral.isHexDigit c = true) ∧ value = Numeral.positional 16 digits) ∨
      (∃ digits, Numeral.Readable digits ∧
        (text = digits ∧ value = Numeral.positional 10 digits ∨
          text = '-' :: digits ∧ value = -(Numeral.positional 10 digits : Int))) := by
  have decimal (digits : Text) (readable : Numeral.Readable digits) :
      Numeral.value 10 digits = Numeral.positional 10 digits :=
    Numeral.value_eq_positional 10 digits fun c member =>
      Numeral.isHexDigit_of_isDigit c (readable.digits c member)
  constructor
  · intro literal
    cases literal with
    | hexadecimal digits nonempty hexadecimal =>
      exact Or.inl ⟨digits, rfl, nonempty, hexadecimal,
        congrArg Int.ofNat (Numeral.value_eq_positional 16 digits hexadecimal)⟩
    | decimal digits readable =>
      exact Or.inr ⟨text, readable, Or.inl ⟨rfl, by rw [decimal text readable]⟩⟩
    | negative digits readable =>
      exact Or.inr ⟨digits, readable, Or.inr ⟨rfl, by rw [decimal digits readable]⟩⟩
  · rintro (⟨digits, rfl, nonempty, hexadecimal, rfl⟩ | ⟨digits, readable, ⟨rfl, rfl⟩ | ⟨rfl, rfl⟩⟩)
    · rw [← Numeral.value_eq_positional 16 digits hexadecimal]
      exact .hexadecimal digits nonempty hexadecimal
    · rw [← decimal text readable]
      exact .decimal text readable
    · rw [← decimal digits readable]
      exact .negative digits readable

/-- A token past the digit limit is a decimal numeral, with a minus sign or
without. Hexadecimal digits are not counted. -/
theorem overlong_iff (text : Text) :
    Overlong text ↔ ∃ digits, Numeral.Overlong digits ∧ (text = digits ∨ text = '-' :: digits) := by
  constructor
  · intro overlong
    cases overlong with
    | decimal digits overlong => exact ⟨text, overlong, Or.inl rfl⟩
    | negative digits overlong => exact ⟨digits, overlong, Or.inr rfl⟩
  · rintro ⟨digits, overlong, rfl | rfl⟩
    · exact .decimal text overlong
    · exact .negative digits overlong

/-- Every fault of an immediate is reported as a malformed immediate. Two of the
three ways of failing are faults, and the third is the digit limit. -/
theorem kind_of_read (token : Text) (fault : Fault)
    (refused : Immediate.read token = .error (.fault fault)) :
    fault.kind = .malformedImmediate := by
  cases (read_eq_error_iff token _).mp refused with
  | hexadecimal => rfl
  | decimal => rfl

/-- A number is read from its hexadecimal numeral, however long, since the digit
limit is one for decimal numerals. -/
theorem read_hexadecimal (n : Nat) : Immediate.read ('$' :: Nat.toDigits 16 n) = .ok n := by
  have literal := Literal.hexadecimal (Nat.toDigits 16 n) Nat.toDigits_ne_nil
    (Numeral.isHexDigit_of_mem_toDigits 16 (by decide) (by decide) n)
  rw [Numeral.value_toDigits 16 (by decide) (by decide)] at literal
  rw [(classified_read _).eq_ok_iff, literal.isWord.trim]
  exact literal

/-- Tokens that are folded to the same are read as the same value. Folding keeps
a value and never makes one of a failure, so both tokens have the value of the
folded one. -/
theorem read_of_folded_eq (token other : Text) (same : Text.folded token = Text.folded other)
    (value : Int) (success : Immediate.read token = .ok value) :
    Immediate.read other = .ok value := by
  have folded := read_folded other
  rw [← same, read_folded, success] at folded
  cases reading : Immediate.read other with
  | ok found =>
    rw [reading] at folded
    exact folded.symm
  | error failure =>
    rw [reading] at folded
    contradiction

/-! ## Leading zeros -/

/-- Zeros in front of a magnitude that can be read do not change it, but they
may take it past the digit limit. The sign is put on afterwards. -/
theorem readMagnitude_zeros (token other digits : Text) (zeros : Nat) (sign : Nat → Int)
    (value : Int) (success : (readMagnitude token digits).map sign = .ok value) :
    (readMagnitude other (List.replicate zeros '0' ++ digits)).map sign = .ok value ∨
      ∃ limit, (readMagnitude other (List.replicate zeros '0' ++ digits)).map sign =
        .error (.limit limit) := by
  have magnitude := classified_readMagnitude other (List.replicate zeros '0' ++ digits)
  obtain ⟨n, ⟨readable, rfl⟩, rfl⟩ :=
    (((classified_readMagnitude token digits).map sign).eq_ok_iff value).mp success
  have decimal := Numeral.digit_of_mem_zeros Char.isDigit (by decide) zeros digits readable.digits
  have same := Numeral.value_zeros 10 zeros digits fun c member =>
    Numeral.isHexDigit_of_isDigit c (readable.digits c member)
  have nonempty : List.replicate zeros '0' ++ digits ≠ [] :=
    List.append_ne_nil_of_right_ne_nil _ readable.nonempty
  rcases Numeral.readable_or_overlong _ ((Numeral.isDecimal_iff _).mpr ⟨nonempty, decimal⟩) with
    longer | overlong
  · exact Or.inl ((magnitude.map sign).ok _ ⟨_, ⟨longer, rfl⟩, by rw [same]⟩)
  · exact Or.inr ((magnitude.map sign).limit overlong)

/-- Zeros behind a dollar sign do not change what is read. The digits are still
hexadecimal, they have the same value, and their number does not matter. -/
theorem read_zeros_hexadecimal (token other digits : Text) (zeros : Nat) (value : Int)
    (whole : Text.trim token = '$' :: digits)
    (padded : Text.trim other = '$' :: (List.replicate zeros '0' ++ digits))
    (success : Immediate.read token = .ok value) : Immediate.read other = .ok value := by
  simp only [Immediate.read, whole] at success
  split at success
  case isFalse => contradiction
  case isTrue check =>
    obtain ⟨nonempty, hexadecimal⟩ := (Numeral.isHexadecimal_iff digits).mp check
    have paddedCheck := (Numeral.isHexadecimal_iff (List.replicate zeros '0' ++ digits)).mpr
      ⟨List.append_ne_nil_of_right_ne_nil _ nonempty,
        Numeral.digit_of_mem_zeros _ (by decide) zeros digits hexadecimal⟩
    have same := Numeral.value_zeros 16 zeros digits hexadecimal
    simp only [Immediate.read, padded, paddedCheck, if_true, same]
    exact success

/-- There is no mark in front of digits, as a mark is no digit itself. -/
theorem head?_ne_of_digits (digits : Text) (hexadecimal : ∀ c ∈ digits, Numeral.isHexDigit c = true)
    (mark : Char) (different : Numeral.isHexDigit mark = false) : digits.head? ≠ some mark := by
  intro found
  rw [hexadecimal mark (List.mem_of_head? found)] at different
  contradiction

/-- Zeros in front of the digits of an immediate do not change the value that is
read. A decimal numeral may go past the digit limit with them; a hexadecimal one
may not. -/
theorem read_zeros (token other mark digits : Text) (zeros : Nat) (value : Int)
    (marked : mark ∈ [['$'], ['-'], []]) (hexadecimal : ∀ c ∈ digits, Numeral.isHexDigit c = true)
    (whole : Text.trim token = mark ++ digits)
    (padded : Text.trim other = mark ++ (List.replicate zeros '0' ++ digits))
    (success : Immediate.read token = .ok value) :
    Immediate.read other = .ok value ∨
      mark ≠ ['$'] ∧ ∃ limit, Immediate.read other = .error (.limit limit) := by
  simp only [List.mem_cons, List.not_mem_nil, or_false] at marked
  rcases marked with rfl | rfl | rfl
  · exact Or.inl (read_zeros_hexadecimal token other digits zeros value whole padded success)
  · simp only [Immediate.read, whole, List.cons_append, List.nil_append] at success
    simp only [Immediate.read, padded, List.cons_append, List.nil_append]
    rcases readMagnitude_zeros token other digits zeros _ value success with same | limit
    · exact Or.inl same
    · exact Or.inr ⟨by decide, limit⟩
  · have paddedDigits := Numeral.digit_of_mem_zeros _ (by decide) zeros digits hexadecimal
    rw [read_of_unmarked token _ whole (head?_ne_of_digits _ hexadecimal '$' (by decide))
      (head?_ne_of_digits _ hexadecimal '-' (by decide))] at success
    rw [read_of_unmarked other _ padded (head?_ne_of_digits _ paddedDigits '$' (by decide))
      (head?_ne_of_digits _ paddedDigits '-' (by decide))]
    rcases readMagnitude_zeros token other digits zeros _ value success with same | limit
    · exact Or.inl same
    · exact Or.inr ⟨by decide, limit⟩

/-! ## Positional reading -/

/-- What reading a token as an immediate comes to, whatever the token. -/
structure ReadsPositionally (token : Text) : Prop where
  /-- A value is read exactly from digits of which it is the positional value. -/
  accepted (value : Int) : Immediate.read token = .ok value ↔
    (∃ digits, Text.trim token = '$' :: digits ∧ digits ≠ [] ∧
      (∀ c ∈ digits, Numeral.isHexDigit c = true) ∧ value = Numeral.positional 16 digits) ∨
    (∃ digits, Numeral.Readable digits ∧
      (Text.trim token = digits ∧ value = Numeral.positional 10 digits ∨
        Text.trim token = '-' :: digits ∧ value = -(Numeral.positional 10 digits : Int)))
  /-- The digit limit is met exactly with too many decimal digits. -/
  overlong : (∃ limit, Immediate.read token = .error (.limit limit)) ↔
    ∃ digits, Numeral.Overlong digits ∧
      (Text.trim token = digits ∨ Text.trim token = '-' :: digits)
  /-- Every other token is a malformed immediate. -/
  malformed : (∃ fault, Immediate.read token = .error (.fault fault) ∧
      fault.kind = .malformedImmediate) ↔
    (¬∃ value, Immediate.read token = .ok value) ∧
      ¬∃ limit, Immediate.read token = .error (.limit limit)
  /-- A negative value has a minus sign in front of decimal digits. -/
  negative (value : Int) : Immediate.read token = .ok value → value < 0 →
    ∃ digits, Numeral.Readable digits ∧ Text.trim token = '-' :: digits
  /-- Zeros in front of the digits are either too many or not seen. -/
  zeros (other mark digits : Text) (zeros : Nat) (value : Int) : mark ∈ [['$'], ['-'], []] →
    (∀ c ∈ digits, Numeral.isHexDigit c = true) → Text.trim token = mark ++ digits →
    Text.trim other = mark ++ (List.replicate zeros '0' ++ digits) →
    Immediate.read token = .ok value → Immediate.read other = .ok value ∨
      mark ≠ ['$'] ∧ ∃ limit, Immediate.read other = .error (.limit limit)

/-- Every token is read positionally. Values and the digit limit come from the
classification of the reading; what is left is a fault, which is a malformed
immediate. A negative value can only come from a minus sign, since both other
forms denote natural numbers. -/
theorem readsPositionally (token : Text) : ReadsPositionally token := by
  have classified := classified_read token
  have accepted (value : Int) := (classified.eq_ok_iff value).trans (literal_iff _ value)
  refine ⟨accepted, classified.eq_limit_iff.trans (overlong_iff _), ?_, ?_,
    fun other mark digits zeros value => read_zeros token other mark digits zeros value⟩
  · constructor
    · rintro ⟨fault, refused, _⟩
      simp [refused]
    · rintro ⟨worthless, within⟩
      cases reading : Immediate.read token with
      | ok value => exact absurd ⟨value, reading⟩ worthless
      | error failure =>
        cases failure with
        | limit excess => exact absurd ⟨excess, reading⟩ within
        | fault fault => exact ⟨fault, rfl, kind_of_read token fault reading⟩
  · intro value success below
    rcases (accepted value).mp success with
      ⟨_, _, _, _, rfl⟩ | ⟨digits, readable, ⟨_, rfl⟩ | ⟨minus, _⟩⟩
    · omega
    · omega
    · exact ⟨digits, readable, minus⟩

/-- An immediate is exactly the positional reading of its grammar. An integer is
therefore read back from its decimal numeral, if that keeps the digit limit, and
a natural number from its hexadecimal numeral in either case, however long that
is.

Proof: a numeral is a literal of its own value, so it is read as that. In
capitals a hexadecimal numeral is folded to the same token as in small letters.
-/
theorem read_positional :
    (∀ token, ReadsPositionally token) ∧
    (∀ value : Int, (Numeral.ofNat value.natAbs).length ≤ 4300 →
      Immediate.read (Numeral.ofInt value) = .ok value) ∧
    (∀ n : Nat, Immediate.read ('$' :: Nat.toDigits 16 n) = .ok n ∧
      Immediate.read ('$' :: (Nat.toDigits 16 n).map Char.toUpper) = .ok n) := by
  refine ⟨readsPositionally, ?_, ?_⟩
  · intro value short
    have literal := literal_numeral value short
    rw [(classified_read _).eq_ok_iff, literal.isWord.trim]
    exact literal
  · intro n
    have lower := read_hexadecimal n
    have same : ((Nat.toDigits 16 n).map Char.toUpper).map Char.toLower =
        (Nat.toDigits 16 n).map Char.toLower := by
      rw [List.map_map]
      exact List.map_congr_left fun c _ => Text.toLower_toUpper c
    refine ⟨lower, read_of_folded_eq _ _ ?_ n lower⟩
    rw [Text.folded_cons, Text.folded_cons, Text.folded, Text.folded, same]

/-- A negative number is read back from its numeral, and so is a hexadecimal
numeral with zeros and capitals between blanks. -/
theorem read_positional_zeros :
    Immediate.read (Numeral.ofInt (-17)) = .ok (-17) ∧
      Immediate.read "\t$00FF ".toList = .ok 255 := by
  obtain ⟨positional, decimal, hexadecimal⟩ := read_positional
  refine ⟨decimal (-17) (by decide), ?_⟩
  have digits : ∀ c ∈ "FF".toList, Numeral.isHexDigit c = true :=
    List.all_eq_true.mp (by decide)
  rcases (positional "$FF".toList).zeros "\t$00FF ".toList ['$'] "FF".toList 2 255 (by decide)
    digits (by decide) (by decide) (hexadecimal 255).2 with same | ⟨different, _⟩
  · exact same
  · exact absurd rfl different

end Immediate

end LineAssembler
