import LineAssembler.Text.Basic

/-!
# Numerals

Digits, positional values and the numerals of numbers. Decimal conversion in
either direction is limited to 4300 digits; going past the limit is not a fault of
one source line but ends the whole run, so it has a type of its own.
-/

namespace LineAssembler

/-- Why a decimal conversion was refused: too long a numeral was read, or a
number with too long a numeral was to be written. -/
inductive DigitLimit where
  | reading (digits : Nat)
  | writing
deriving DecidableEq

namespace Numeral

/-- A hexadecimal digit in either case. -/
def isHexDigit (c : Char) : Bool :=
  c.isDigit || ('a' ≤ c && c ≤ 'f') || ('A' ≤ c && c ≤ 'F')

/-- The value of a decimal or hexadecimal digit. -/
def digitValue (c : Char) : Nat :=
  if c.isDigit then c.toNat - '0'.toNat
  else if 'a' ≤ c ∧ c ≤ 'f' then c.toNat - 'a'.toNat + 10
  else if 'A' ≤ c ∧ c ≤ 'F' then c.toNat - 'A'.toNat + 10
  else 0

/-- A non-empty run of decimal digits. -/
def isDecimal (text : Text) : Bool := !text.isEmpty && text.all Char.isDigit

/-- A non-empty run of hexadecimal digits. -/
def isHexadecimal (text : Text) : Bool := !text.isEmpty && text.all isHexDigit

/-- The positional value of a run of digits, the first being the most
significant. -/
def value (base : Nat) (digits : Text) : Nat :=
  digits.foldl (fun sum c => sum * base + digitValue c) 0

/-- The decimal numeral of a natural number. -/
def ofNat (n : Nat) : Text := Nat.toDigits 10 n

/-- The decimal numeral of an integer, with a minus sign if it is negative. -/
def ofInt : Int → Text
  | .ofNat n => ofNat n
  | .negSucc n => '-' :: ofNat (n + 1)

/-- The last `width` digits of the numeral of `n` in a base up to 16, padded
with zeros on the left. -/
def fixed (base : Nat) : (width : Nat) → (n : Nat) → Text
  | 0, _ => []
  | width + 1, n => fixed base width (n / base) ++ [(n % base).digitChar]

/-- The longest decimal numeral that is converted. -/
def digitLimit : Nat := 4300

/-- The value of a run of decimal digits within the limit; leading zeros count. -/
def readDecimal (digits : Text) : Except DigitLimit Nat :=
  if digitLimit < digits.length then .error (.reading digits.length)
  else .ok (value 10 digits)

/-- Whether the decimal numeral of a number, its sign apart, keeps the limit. -/
def isWritable (x : Int) : Bool := x.natAbs < Nat.pow 10 digitLimit

/-- A fixed numeral has as many digits as were asked for. -/
@[simp]
theorem length_fixed (base width n : Nat) : (fixed base width n).length = width := by
  induction width generalizing n with
  | zero => rfl
  | succ width inductionHypothesis => simp [fixed, inductionHypothesis]

/-- One more digit at the right end shifts the value by one place. -/
theorem value_append_singleton (base : Nat) (digits : Text) (c : Char) :
    value base (digits ++ [c]) = value base digits * base + digitValue c := by
  simp [value]

end Numeral

/-- The wording of a refused conversion. -/
def DigitLimit.message : DigitLimit → Text
  | .reading digits =>
    "Exceeds the limit (".toList ++ Numeral.ofNat Numeral.digitLimit ++
      " digits) for integer string conversion: value has ".toList ++ Numeral.ofNat digits ++
      " digits; use sys.set_int_max_str_digits() to increase the limit".toList
  | .writing =>
    "Exceeds the limit (".toList ++ Numeral.ofNat Numeral.digitLimit ++
      " digits) for integer string conversion; use sys.set_int_max_str_digits() to increase the limit".toList

end LineAssembler
