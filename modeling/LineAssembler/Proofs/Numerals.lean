import LineAssembler.Numeral
import Mathlib.Data.List.Basic

/-!
# Decimal numerals

The numeral of a number consists of decimal digits, has that number as its
positional value, and is short when the number is small. A run of decimal digits
is read exactly when it keeps the digit limit, whatever its value.
-/

namespace LineAssembler.Numeral

/-- A decimal numeral that keeps the digit limit. Leading zeros count. -/
structure Readable (text : Text) : Prop where
  nonempty : text ≠ []
  digits : ∀ c ∈ text, c.isDigit = true
  short : text.length ≤ digitLimit

/-- A decimal numeral that is longer than the digit limit. -/
structure Overlong (text : Text) : Prop where
  digits : ∀ c ∈ text, c.isDigit = true
  long : digitLimit < text.length

/-- The check for decimal numerals asks for digits only, and at least one. -/
theorem isDecimal_iff (text : Text) :
    isDecimal text = true ↔ text ≠ [] ∧ ∀ c ∈ text, c.isDigit = true := by
  simp [isDecimal]

/-- The check for hexadecimal numerals asks for digits only, and at least one. -/
theorem isHexadecimal_iff (text : Text) :
    isHexadecimal text = true ↔ text ≠ [] ∧ ∀ c ∈ text, isHexDigit c = true := by
  simp [isHexadecimal]

/-- A readable numeral passes the check for decimal numerals. -/
theorem Readable.isDecimal {text : Text} (readable : Readable text) : isDecimal text = true :=
  (isDecimal_iff text).mpr ⟨readable.nonempty, readable.digits⟩

/-- A readable numeral is read as its positional value. -/
theorem Readable.readDecimal {text : Text} (readable : Readable text) :
    readDecimal text = .ok (value 10 text) :=
  if_neg (Nat.not_lt_of_le readable.short)

/-- An overlong numeral is not empty. -/
theorem Overlong.nonempty {text : Text} (overlong : Overlong text) : text ≠ [] := by
  rintro rfl
  exact absurd overlong.long (Nat.not_lt_zero _)

/-- An overlong numeral passes the check for decimal numerals. -/
theorem Overlong.isDecimal {text : Text} (overlong : Overlong text) : isDecimal text = true :=
  (isDecimal_iff text).mpr ⟨overlong.nonempty, overlong.digits⟩

/-- An overlong numeral is refused. -/
theorem Overlong.readDecimal {text : Text} (overlong : Overlong text) :
    readDecimal text = .error (.reading text.length) :=
  if_pos overlong.long

/-- A decimal numeral is readable or overlong. Nothing but its length decides
between the two. -/
theorem readable_or_overlong (text : Text) (decimal : isDecimal text = true) :
    Readable text ∨ Overlong text := by
  obtain ⟨nonempty, digits⟩ := (isDecimal_iff text).mp decimal
  rcases Nat.lt_or_ge digitLimit text.length with long | short
  · exact Or.inr ⟨digits, long⟩
  · exact Or.inl ⟨nonempty, digits, short⟩

/-- A decimal digit has the value of its place after the digit zero. -/
theorem digitValue_of_isDigit (c : Char) (digit : c.isDigit = true) :
    digitValue c = c.toNat - '0'.toNat := by
  simp [digitValue, digit]

/-- On decimal digits the positional value is that of the standard library,
whose lemmas about numerals can then be used. -/
theorem value_eq_ofDigitChars (digits : Text) (decimal : ∀ c ∈ digits, c.isDigit = true) :
    value 10 digits = Nat.ofDigitChars 10 digits 0 := by
  rw [value, Nat.ofDigitChars_eq_foldl]
  refine List.foldl_ext _ _ _ ?_
  intro sum c member
  rw [digitValue_of_isDigit c (decimal c member), Nat.mul_comm]

/-- The numeral of a number consists of decimal digits. -/
theorem isDigit_of_mem_ofNat (n : Nat) : ∀ c ∈ ofNat n, c.isDigit = true :=
  fun _ member => Nat.isDigit_of_mem_toDigits (by decide) (by decide) member

/-- A number is the positional value of its numeral. -/
theorem value_ofNat (n : Nat) : value 10 (ofNat n) = n := by
  rw [value_eq_ofDigitChars _ (isDigit_of_mem_ofNat n)]
  exact Nat.ofDigitChars_ten_toDigits

/-- The numeral of a number has no more digits than a power of ten has zeros
exactly when the number is below the power. -/
theorem length_ofNat_le_iff (n digits : Nat) (positive : 0 < digits) :
    (ofNat n).length ≤ digits ↔ n < Nat.pow 10 digits :=
  Nat.length_toDigits_le_iff (by decide) positive

/-- A number can be written exactly when its numeral keeps the limit. -/
theorem isWritable_iff (x : Int) :
    isWritable x = true ↔ (ofNat x.natAbs).length ≤ digitLimit := by
  rw [isWritable, decide_eq_true_eq]
  exact (length_ofNat_le_iff x.natAbs digitLimit (by decide)).symm

/-- A number below a power of ten within the limit is read back from its
numeral. The power tells how many digits the numeral has at most. -/
theorem readable_ofNat (n digits : Nat) (positive : 0 < digits) (few : digits ≤ digitLimit)
    (small : n < Nat.pow 10 digits) : Readable (ofNat n) where
  nonempty := Nat.toDigits_ne_nil
  digits := isDigit_of_mem_ofNat n
  short := Nat.le_trans ((length_ofNat_le_iff n digits positive).mpr small) few

end LineAssembler.Numeral
