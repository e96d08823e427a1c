import LineAssembler.Bits

/-!
# Fields

A field is a group of bits of a fixed positive width inside a word. Fields listed
from the most to the least significant are packed into one word when their widths
add up to the width of a word. A violation of the rules on widths is put into words
when it is found, and the numbers in its wording are held to the digit limit.
-/

namespace LineAssembler

/-- A group of bits and the integer to be stored in it. The integer need not
fit: only its residue is stored. -/
structure Field where
  width : Nat
  value : Int
  width_pos : 0 < width
deriving DecidableEq

namespace Field

/-- Violations of the two rules on widths: a width that is not positive, and
fields that do not fill a word. -/
inductive WidthViolation where
  | nonpositive (width : Int)
  | total (fields : List Field)
deriving DecidableEq

/-- The sum of the widths of several fields. -/
def totalWidth : List Field → Nat
  | [] => 0
  | field :: rest => field.width + totalWidth rest

/-- The numbers that the wording of a violation shows. -/
def WidthViolation.numbers : WidthViolation → List Int
  | .nonpositive width => [width]
  | .total fields =>
    (totalWidth fields : Int) :: fields.flatMap fun field => [(field.width : Int), field.value]

/-- How fields are refused: for a violation that is put into words, or because a
number in its wording is past the digit limit. -/
inductive Refusal where
  | violation (violation : WidthViolation)
  | limit (limit : DigitLimit)
deriving DecidableEq

/-- How a violation is refused: for itself, if its numbers can be written. -/
def WidthViolation.refusal (violation : WidthViolation) : Refusal :=
  if violation.numbers.all Numeral.isWritable then .violation violation else .limit .writing

/-- A field of a width that has to be positive. -/
def build (width value : Int) : Except Refusal Field :=
  if positive : 0 < width then .ok ⟨width.toNat, value, by omega⟩
  else .error (WidthViolation.nonpositive width).refusal

/-- The bits that a field contributes to its word. -/
def bits (field : Field) : Nat := Bits.residue field.width field.value

/-- The concatenation of the bits of several fields, the first field being the
most significant. -/
def concatenate (fields : List Field) : Nat :=
  fields.foldl (fun word field => (word <<< field.width) ||| field.bits) 0

/-- The word that fields fill. -/
def pack (fields : List Field) : Except Refusal Nat :=
  if totalWidth fields = Word.width then .ok (concatenate fields)
  else .error (WidthViolation.total fields).refusal

/-- Fields that fill a word are packed: the check of their widths is passed. -/
theorem pack_of_filled (fields : List Field) (filled : totalWidth fields = Word.width) :
    pack fields = .ok (concatenate fields) := if_pos filled

/-- The word of fields that are known to fill one, so that packing them cannot
be refused. -/
def packFilled (fields : List Field) (filled : totalWidth fields = Word.width) : Nat :=
  match packed : pack fields with
  | .ok word => word
  | .error _ => nomatch packed.symm.trans (pack_of_filled fields filled)

/-- The word of fields that fill one is their concatenation. The other way in
which packing may end is excluded by the widths, so there is no default that
could hide a refusal. -/
theorem packFilled_eq (fields : List Field) (filled : totalWidth fields = Word.width) :
    packFilled fields filled = concatenate fields := by
  unfold packFilled
  split
  case h_1 word packed => exact Except.ok.inj (packed.symm.trans (pack_of_filled fields filled))
  case h_2 packed => exact nomatch packed.symm.trans (pack_of_filled fields filled)

/-- A field as it is listed in the wording of a violation. -/
def render (field : Field) : Text :=
  "Field(width=".toList ++ Numeral.ofNat field.width ++ ", value=".toList ++
    Numeral.ofInt field.value ++ [')']

/-- A field as it is listed in a trace. -/
def renderPair (field : Field) : Text :=
  '(' :: Numeral.ofNat field.width ++ ", ".toList ++ Numeral.ofInt field.value ++ [')']

/-- A list in square brackets. -/
def renderList (rendering : Field → Text) (fields : List Field) : Text :=
  '[' :: ", ".toList.intercalate (fields.map rendering) ++ [']']

/-- The wording of a violation. -/
def WidthViolation.message : WidthViolation → Text
  | .nonpositive width => "Ancho de campo inválido: ".toList ++ Numeral.ofInt width
  | .total fields =>
    "Los campos suman ".toList ++ Numeral.ofNat (totalWidth fields) ++
      " bits, se esperaban ".toList ++ Numeral.ofNat Word.width ++ ": ".toList ++
      renderList render fields

end Field

end LineAssembler
