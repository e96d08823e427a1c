import LineAssembler.Proofs.ExactPacking
import LineAssembler.Proofs.LineAccounting
import LineAssembler.Proofs.WordListing

/-!
# Grouped bits show the fields

A word is packed from its fields by arithmetic, and it is shown by cutting its binary
digits from the left into groups as wide as the fields. The two ways agree: the group of a
field is the binary numeral of its residue, padded with zeros to the width of the field,
whatever the widths and the values are.

They meet in numerals of a fixed number of digits. Such a numeral is cut where a number is
divided by a power of its base, so the first group shows the quotient, which is the first
field, and the digits behind it do not see the quotient.
-/

namespace LineAssembler

namespace Numeral

/-- The digits of a fixed numeral are not affected by what lies above them. By
induction on the number of digits: what lies above is a multiple of the base, so
it changes the quotient only, again above the remaining digits. -/
theorem fixed_above (base : Nat) (positive : 0 < base) (width above n : Nat) :
    fixed base width (above * base ^ width + n) = fixed base width n := by
  induction width generalizing n with
  | zero => rfl
  | succ width inductionHypothesis =>
    have regrouped : above * base ^ (width + 1) + n = base * (above * base ^ width) + n := by ring
    have quotient : (above * base ^ (width + 1) + n) / base = above * base ^ width + n / base := by
      rw [regrouped, Nat.mul_add_div positive]
    have remainder : (above * base ^ (width + 1) + n) % base = n % base := by
      rw [regrouped, Nat.mul_add_mod]
    rw [fixed, fixed, quotient, remainder, inductionHypothesis]

/-- A fixed numeral is cut where the number is divided by a power of the base.
By induction on the digits behind the cut, of which the last is taken off. -/
theorem fixed_add (base left right n : Nat) :
    fixed base (left + right) n = fixed base left (n / base ^ right) ++ fixed base right n := by
  induction right generalizing n with
  | zero => simp [fixed]
  | succ right inductionHypothesis =>
    rw [← Nat.add_assoc, fixed, inductionHypothesis, fixed, Nat.div_div_eq_div_mul, ← pow_succ',
      List.append_assoc]

/-- The fixed numeral of zero consists of zeros. -/
theorem fixed_zero (base width : Nat) : fixed base width 0 = List.replicate width '0' := by
  induction width with
  | zero => rfl
  | succ width inductionHypothesis =>
    rw [fixed, Nat.zero_div, Nat.zero_mod, inductionHypothesis, List.replicate_succ']
    rfl

/-- A digit behind a numeral is padded with it. -/
theorem leftpad_append_singleton (width : Nat) (digits : Text) (digit : Char) :
    (digits ++ [digit]).leftpad (width + 1) '0' = digits.leftpad width '0' ++ [digit] := by
  simp [List.leftpad]

/-- A fixed numeral with room for the number is the numeral of the number,
padded with zeros on the left. The induction takes the last digit off both. -/
theorem fixed_eq_leftpad (base : Nat) (plural : 1 < base) (width n : Nat) (positive : 0 < width)
    (room : n < base ^ width) :
    fixed base width n = (Nat.toDigits base n).leftpad width '0' := by
  induction width generalizing n with
  | zero => exact absurd positive (Nat.lt_irrefl 0)
  | succ width inductionHypothesis =>
    rcases Nat.lt_or_ge n base with single | several
    · have padded := leftpad_append_singleton width [] n.digitChar
      rw [Nat.toDigits_of_lt_base single, ← List.nil_append [n.digitChar], padded, fixed,
        Nat.div_eq_of_lt single, Nat.mod_eq_of_lt single, fixed_zero]
      simp [List.leftpad]
    · have quotientRoom : n / base < base ^ width := by
        apply Nat.div_lt_of_lt_mul
        rwa [← pow_succ']
      have more : 0 < width := by
        apply Nat.pos_of_ne_zero
        rintro rfl
        rw [zero_add, pow_one] at room
        omega
      rw [fixed, inductionHypothesis (n / base) more quotientRoom,
        Nat.toDigits_of_base_le plural several, leftpad_append_singleton]

end Numeral

namespace Field

/-- The binary numeral of the residue of a field, padded with zeros to its
width. -/
def numeral (field : Field) : Text :=
  (Nat.toDigits 2 (field.value % 2 ^ field.width).toNat).leftpad field.width '0'

/-- The numeral of a field shows its bits. -/
theorem fixed_bits (field : Field) : Numeral.fixed 2 field.width field.bits = field.numeral := by
  rw [numeral, ← natCast_bits, Int.toNat_natCast]
  exact Numeral.fixed_eq_leftpad 2 (by decide) field.width field.bits field.width_pos field.bits_lt

/-- The digits of concatenated fields, cut along the widths of the fields, are
the numerals of the fields. -/
theorem splitLengths_concatenate (fields : List Field) :
    (fields.map width).splitLengths (Numeral.fixed 2 (totalWidth fields) (concatenate fields)) =
      fields.map numeral := by
  induction fields with
  | nil => rfl
  | cons field rest inductionHypothesis =>
    have quotient : concatenate (field :: rest) / 2 ^ totalWidth rest = field.bits := by
      rw [← Nat.shiftRight_eq_div_pow, ← List.singleton_append, concatenate_shiftRight,
        concatenate_singleton]
    have behind : Numeral.fixed 2 (totalWidth rest) (concatenate (field :: rest)) =
        Numeral.fixed 2 (totalWidth rest) (concatenate rest) := by
      rw [concatenate_cons]
      exact Numeral.fixed_above 2 (by decide) _ _ _
    have length : field.numeral.length = field.width := by
      rw [← fixed_bits, Numeral.length_fixed]
    rw [totalWidth, Numeral.fixed_add, quotient, behind, fixed_bits, List.map_cons,
      List.splitLengths_cons, List.take_left' length, List.drop_left' length, inductionHypothesis,
      List.map_cons]

end Field

namespace Encoded

/-- A word that is packed from its fields has the binary digits of their
concatenation. The fields fill a word, so the concatenation is a word and no
bits are lost. -/
theorem binary_of_pack (encoded : Encoded) (word : Nat)
    (packed : Field.pack encoded.fields = .ok word) (same : encoded.word = word) :
    Word.binary encoded.word =
      Numeral.fixed 2 (Field.totalWidth encoded.fields) (Field.concatenate encoded.fields) := by
  obtain ⟨filled, whole⟩ := (Field.pack_eq_ok_iff encoded.fields word).mp packed
  have small : Field.concatenate encoded.fields < Bits.modulus Word.width := by
    have bound := Field.concatenate_lt encoded.fields
    rw [filled] at bound
    exact bound
  rw [Word.binary, Word.low, same, whole, Bits.residue_of_lt _ _ small, filled]

/-- A word that is packed from its fields is shown by their numerals. Its digits
are those of the concatenation, and cut along the widths they are the numerals
of the fields. -/
theorem groupedBits_of_pack (encoded : Encoded) (word : Nat)
    (packed : Field.pack encoded.fields = .ok word) (same : encoded.word = word)
    (separator : Text) :
    encoded.groupedBits separator =
      .ok (separator.intercalate (encoded.fields.map Field.numeral)) := by
  obtain ⟨filled, _⟩ := (Field.pack_eq_ok_iff encoded.fields word).mp packed
  rw [groupedBits_eq, if_pos filled, binary_of_pack encoded word packed same,
    Field.splitLengths_concatenate]

/-- What an instruction is encoded as is packed from its fields. They fill a
word, so packing them succeeds with the word that the instruction has. -/
theorem pack_of_encode (encoded : Encoded) (instruction : Instruction)
    (success : instruction.encode = .ok encoded) :
    ∃ word : Nat, Field.pack encoded.fields = .ok word ∧ encoded.word = word := by
  have filled := (instruction.represents_of_encode encoded success).filled
  rw [instruction.encode_eq] at success
  obtain ⟨fields, _, rfl⟩ := (exceptMap_eq_ok_iff _ _ _).mp success
  exact ⟨_, Field.pack_of_filled _ filled, rfl⟩

/-- The groups of a word whose fields cover it are as wide as the fields, and
joined they are its digits, whether or not the word was packed from the fields. -/
theorem exists_groups (encoded : Encoded) (filled : Field.totalWidth encoded.fields = 32)
    (separator : Text) :
    ∃ groups : List Text, encoded.groupedBits separator = .ok (separator.intercalate groups) ∧
      groups.map List.length = encoded.fields.map Field.width ∧
      groups.flatten = Word.binary encoded.word := by
  have covers : (encoded.fields.map Field.width).sum = (Word.binary encoded.word).length := by
    rw [← Field.totalWidth_eq_sum, filled, Word.binary, Numeral.length_fixed]
  refine ⟨_, ?_, List.map_splitLengths_length _ _ covers.le,
    List.flatten_splitLengths _ _ covers.ge⟩
  rw [groupedBits_eq, if_pos filled]

/-- The grouped bits of a word show its fields. A word that is packed from its
fields, as every encoded instruction is, is shown by the numerals of the fields.
Any other word is refused exactly when its fields do not cover it, and otherwise
its groups are its digits.

Proof: the digits of a concatenation, cut along the widths, are the numerals of
the fields, because a numeral is not affected by what lies above it. An encoded
instruction is packed from its fields. -/
theorem groupedBits_show_fields (encoded : Encoded) (separator : Text) :
    (∀ word : Nat, Field.pack encoded.fields = .ok word → encoded.word = word →
      encoded.groupedBits separator =
        .ok (separator.intercalate (encoded.fields.map Field.numeral))) ∧
    (∀ instruction : Instruction, instruction.encode = .ok encoded →
      ∃ word : Nat, Field.pack encoded.fields = .ok word ∧ encoded.word = word) ∧
    ((∃ fault, encoded.groupedBits separator = .error fault) ↔
      Field.totalWidth encoded.fields ≠ 32) ∧
    (Field.totalWidth encoded.fields = 32 → ∃ groups : List Text,
      encoded.groupedBits separator = .ok (separator.intercalate groups) ∧
        groups.map List.length = encoded.fields.map Field.width ∧
        groups.flatten = Word.binary encoded.word) := by
  refine ⟨?_, encoded.pack_of_encode, ?_, ?_⟩
  · intro word packed same
    exact encoded.groupedBits_of_pack word packed same separator
  · rw [groupedBits_eq]
    by_cases filled : Field.totalWidth encoded.fields = 32 <;> simp [filled]
  · intro filled
    exact encoded.exists_groups filled separator

/-- The bits of a branch with a negative immediate are grouped along its layout. -/
theorem groupedBits_show_fields_branch :
    ∃ encoded, (Instruction.ofLine none "brmi R3, -2".toList).encode = .ok encoded ∧
      encoded.fields.map Field.width = [5, 4, 2, 2, 19] ∧
      encoded.groupedBits ['|'] = .ok "10010|0011|11|00|1111111111111111110".toList := by
  obtain ⟨encoded, success, widths, shown⟩ : ∃ encoded,
      (Instruction.ofLine none "brmi R3, -2".toList).encode = .ok encoded ∧
      encoded.fields.map Field.width = [5, 4, 2, 2, 19] ∧
      ['|'].intercalate (encoded.fields.map Field.numeral) =
        "10010|0011|11|00|1111111111111111110".toList :=
    ⟨_, rfl, by decide +kernel, by decide +kernel⟩
  obtain ⟨packed, encodes, _⟩ := groupedBits_show_fields encoded ['|']
  obtain ⟨word, packs, same⟩ := encodes _ success
  exact ⟨encoded, success, widths, shown ▸ packed word packs same⟩

end Encoded

end LineAssembler
