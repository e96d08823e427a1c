import LineAssembler.Numeral

/-!
# Two's complement and words

Integers in fields of a given width. A pattern of `width` bits is a natural number
below `2 ^ width`, the modulus of the width; an integer is stored as its residue,
so that negative integers are stored in two's complement. Whether an integer fits
is read off the bits above the field, so that wide fields cost nothing.

Widths that come from outside are integers. They have to be positive, and an
operation that needs their modulus has to be able to store it: its digits need
addresses, of which there are equally many everywhere, and memory, of which every
machine has its own amount.

A word of the machine has 32 bits. It is shown as 32 binary or 8 hexadecimal
digits; an integer of any size is shown by its low 32 bits.
-/

namespace LineAssembler

namespace Bits

/-- The number of patterns of `width` bits: `2 ^ width`. -/
def modulus (width : Nat) : Nat := Nat.pow 2 width

/-- Whether an integer is a pattern of `width` bits: it has no bits above them. -/
def fitsUnsigned (width : Nat) (x : Int) : Bool := Int.shiftRight x width == 0

/-- Whether an integer is a signed integer of `width` bits: the bits from the
sign bit up are all equal. -/
def fitsSigned (width : Nat) (x : Int) : Bool :=
  Int.shiftRight x (width - 1) == 0 || Int.shiftRight x (width - 1) == -1

/-- The pattern that stores an integer in a field: its residue modulo
`2 ^ width`, which is the integer itself if it is a pattern already. -/
def residue (width : Nat) (x : Int) : Nat :=
  if fitsUnsigned width x then x.toNat else (x % modulus width).toNat

/-- The signed integer that the low `width` bits of `x` stand for: `x` itself if
it fits, and otherwise its pattern, less `2 ^ width` if the sign bit is set. -/
def signExtend (width : Nat) (x : Int) : Int :=
  if fitsSigned width x then x
  else if residue width x < modulus (width - 1) then residue width x
  else residue width x - modulus width

/-- The least signed integer of `width` bits. -/
def leastSigned (width : Nat) : Int := -(modulus (width - 1) : Int)

/-- The greatest signed integer of `width` bits. -/
def greatestSigned (width : Nat) : Int := (modulus (width - 1) : Int) - 1

/-- Why a width is refused: one of the two parameters is not positive, or the
modulus has more digits than can be addressed, or than can be allocated. -/
inductive WidthFault where
  | bits
  | n
  | unaddressable
  | unallocatable
deriving DecidableEq

/-- The wording of a width fault; an exhausted memory has none. -/
def WidthFault.message : WidthFault → Text
  | .bits => "bits debe ser positivo".toList
  | .n => "n debe ser positivo".toList
  | .unaddressable => "too many digits in integer".toList
  | .unallocatable => []

/-- The widest modulus that can be addressed. It takes one digit of four bytes
for every thirty bits, and all its digits lie within `2 ^ 63` bytes. -/
def addressableWidth : Nat := 69175290276410818320

/-- Eight gibibytes in bits: the memory for a modulus on a machine of which
nothing else is said. -/
def eightGibibytes : Nat := 68719476736

/-- A positive width as a natural number. -/
def positiveWidth (fault : WidthFault) (width : Int) : Except WidthFault Nat :=
  if 0 < width then .ok width.toNat else .error fault

/-- A width whose modulus can be stored on a machine with memory for a modulus
of `memory` bits. -/
def storableWidth (memory width : Nat) : Except WidthFault Nat :=
  if addressableWidth < width then .error .unaddressable
  else if memory < width then .error .unallocatable
  else .ok width

/-- `residue` at a width that is checked; its modulus is needed. -/
def residueAt (x bits : Int) (memory : Nat := eightGibibytes) : Except WidthFault Nat :=
  ((positiveWidth .bits bits).bind (storableWidth memory)).map (residue · x)

/-- `signExtend` at a width that is checked; its modulus is needed. -/
def signExtendAt (x bits : Int) (memory : Nat := eightGibibytes) : Except WidthFault Int :=
  ((positiveWidth .bits bits).bind (storableWidth memory)).map (signExtend · x)

/-- `fitsUnsigned` at a width that is checked. A negative integer is refused
before the modulus is needed. -/
def fitsUnsignedAt (x n : Int) (memory : Nat := eightGibibytes) : Except WidthFault Bool :=
  (positiveWidth .n n).bind fun width =>
    if x < 0 then .ok false else (storableWidth memory width).map (fitsUnsigned · x)

/-- `fitsSigned` at a width that is checked. Only half of the modulus is needed. -/
def fitsSignedAt (x n : Int) (memory : Nat := eightGibibytes) : Except WidthFault Bool :=
  (positiveWidth .n n).bind fun width =>
    (storableWidth memory (width - 1)).map fun _ => fitsSigned width x

/-- A modulus is positive. -/
theorem modulus_pos (width : Nat) : 0 < modulus width := Nat.pow_pos (by decide)

/-- Having no bits above a width is lying below its modulus. A natural number is
shifted to the quotient by the modulus; a negative one always has bits above any
width. -/
theorem fitsUnsigned_iff (width : Nat) (x : Int) :
    fitsUnsigned width x = true ↔ 0 ≤ x ∧ x < modulus width := by
  unfold fitsUnsigned
  cases x with
  | ofNat n =>
    have small : n >>> width = 0 ↔ n < modulus width := by
      rw [Nat.shiftRight_eq_div_pow]
      exact Nat.div_eq_zero_iff_lt (modulus_pos width)
    have below : Int.ofNat n < modulus width ↔ n < modulus width := Int.ofNat_lt
    simp only [beq_iff_eq, Int.shiftRight, below, ← small]
    exact ⟨fun zero => ⟨Int.natCast_nonneg n, Int.ofNat.inj zero⟩,
      fun zero => congrArg Int.ofNat zero.2⟩
  | negSucc n => simp [Int.shiftRight]

/-- A residue is a pattern of its width, whether the integer was kept as it fits
or reduced. -/
theorem residue_lt (width : Nat) (x : Int) : residue width x < modulus width := by
  have positive := modulus_pos width
  have bound : x % modulus width < modulus width := Int.emod_lt_of_pos x (by omega)
  unfold residue
  split
  case isTrue fits =>
    have inside := (fitsUnsigned_iff width x).mp fits
    omega
  case isFalse => omega

end Bits

namespace Word

/-- The number of bits in a word. -/
def width : Nat := 32

/-- The low 32 bits of an integer. -/
def low (x : Int) : Nat := Bits.residue width x

/-- The 32 binary digits of a word. -/
def binary (x : Int) : Text := Numeral.fixed 2 32 (low x)

/-- The 8 hexadecimal digits of a word, in lower case. -/
def hexadecimal (x : Int) : Text := Numeral.fixed 16 8 (low x)

/-- The hexadecimal digits of a word after the mark `0x`. -/
def markedHexadecimal (x : Int) : Text := '0' :: 'x' :: hexadecimal x

end Word

end LineAssembler
