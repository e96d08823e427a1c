import LineAssembler.Bits
import Mathlib.Algebra.Order.Ring.Int
import Mathlib.Tactic.Ring

/-!
# Residues and signed integers

A stored pattern is the residue of the stored integer, and sign extension is the
one inverse of storing: it yields the signed integer of the width that has the
same residue. The two checks for what fits are the two windows of integers that
stand for the patterns of a width.
-/

namespace LineAssembler.Bits

/-- A modulus is the power of two. -/
theorem modulus_eq (width : Nat) : modulus width = 2 ^ width := rfl

/-- The moduli of adjacent widths multiply. -/
theorem modulus_add (left right : Nat) :
    modulus (left + right) = modulus left * modulus right := by
  simp only [modulus_eq, pow_add]

/-- A modulus is twice that of one bit less. -/
theorem modulus_eq_double (width : Nat) (positive : 0 < width) :
    modulus width = 2 * modulus (width - 1) := by
  obtain ⟨smaller, rfl⟩ := Nat.exists_eq_succ_of_ne_zero (Nat.ne_of_gt positive)
  rw [Nat.succ_sub_one, Nat.succ_eq_add_one, Nat.add_comm, modulus_add]
  rfl

/-- The pattern of an integer is its remainder modulo the power of two, also
where the integer is a pattern already. -/
theorem residue_eq_emod (width : Nat) (x : Int) : (residue width x : Int) = x % modulus width := by
  unfold residue
  split
  case isTrue fits =>
    obtain ⟨nonnegative, small⟩ := (fitsUnsigned_iff width x).mp fits
    rw [Int.emod_eq_of_lt nonnegative small, Int.toNat_of_nonneg nonnegative]
  case isFalse =>
    have positive : (modulus width : Int) ≠ 0 := by
      have := modulus_pos width
      omega
    exact Int.toNat_of_nonneg (Int.emod_nonneg x positive)

/-- A natural number below the modulus is its own pattern. -/
theorem residue_of_lt (width n : Nat) (small : n < modulus width) : residue width n = n := by
  have same := residue_eq_emod width n
  rw [Int.emod_eq_of_lt (Int.natCast_nonneg n) (Int.ofNat_lt.mpr small)] at same
  exact Int.ofNat.inj same

/-- A shift to the right is a division that rounds down. -/
theorem shiftRight_eq_ediv (x : Int) (width : Nat) :
    Int.shiftRight x width = x / modulus width :=
  Int.shiftRight_eq_div_pow x width

/-- Equal bits from the sign bit up mean a signed integer of the width. Shifting
the bits below the sign bit out is dividing by the weight of the sign bit, and
the quotients zero and minus one are two adjoining windows. -/
theorem fitsSigned_iff (width : Nat) (x : Int) :
    fitsSigned width x = true ↔ -(modulus (width - 1) : Int) ≤ x ∧ x < modulus (width - 1) := by
  have positive : 0 < (modulus (width - 1) : Int) := Int.ofNat_lt.mpr (modulus_pos _)
  have zero : x / modulus (width - 1) = 0 ↔ 0 ≤ x ∧ x < modulus (width - 1) := by
    rw [Int.ediv_eq_iff_of_pos positive]
    omega
  have minusOne : x / modulus (width - 1) = -1 ↔ -(modulus (width - 1) : Int) ≤ x ∧ x < 0 := by
    rw [Int.ediv_eq_iff_of_pos positive]
    omega
  simp only [fitsSigned, shiftRight_eq_ediv, Bool.or_eq_true, beq_iff_eq, zero, minusOne]
  omega

/-- Integers with the same remainder have the same pattern, whether or not
either of them fits the width. -/
theorem residue_congr (width : Nat) (x y : Int) (same : x % modulus width = y % modulus width) :
    residue width x = residue width y := by
  apply Int.ofNat.inj
  change (residue width x : Int) = (residue width y : Int)
  rw [residue_eq_emod, residue_eq_emod, same]

/-- Storing a pattern again changes nothing. -/
theorem residue_residue (width : Nat) (x : Int) :
    residue width (residue width x) = residue width x :=
  residue_of_lt width _ (residue_lt width x)

/-- Sign extension does not change the stored pattern. It keeps an integer that
fits, takes its pattern, or takes the modulus away from the pattern. -/
theorem residue_signExtend (width : Nat) (x : Int) :
    residue width (signExtend width x) = residue width x := by
  unfold signExtend
  split
  case isTrue => rfl
  case isFalse =>
    split
    case isTrue => exact residue_residue width x
    case isFalse =>
      rw [residue_congr width _ (residue width x) (Int.sub_emod_right _ _)]
      exact residue_residue width x

/-- Sign extension yields a signed integer of the width. A pattern below the
weight of the sign bit fits, and so does any other pattern less the modulus,
which is twice that weight. -/
theorem fitsSigned_signExtend (width : Nat) (positive : 0 < width) (x : Int) :
    fitsSigned width (signExtend width x) = true := by
  have double : modulus width = 2 * modulus (width - 1) := modulus_eq_double width positive
  have bound : residue width x < modulus width := residue_lt width x
  unfold signExtend
  split
  case isTrue fits => exact fits
  case isFalse =>
    rw [fitsSigned_iff]
    split <;> omega

/-- Two signed integers of a width with the same pattern are the same. The
modulus divides their difference, and signed integers lie closer together than
that. -/
theorem eq_of_residue_eq (width : Nat) (positive : 0 < width) (x y : Int)
    (fitsLeft : fitsSigned width x = true) (fitsRight : fitsSigned width y = true)
    (same : residue width x = residue width y) : x = y := by
  have double : modulus width = 2 * modulus (width - 1) := modulus_eq_double width positive
  have remainders : x % modulus width = y % modulus width := by
    rw [← residue_eq_emod, ← residue_eq_emod, same]
  have windowLeft := (fitsSigned_iff width x).mp fitsLeft
  have windowRight := (fitsSigned_iff width y).mp fitsRight
  have distance : (x - y) % modulus width = 0 := Int.emod_eq_emod_iff_emod_sub_eq_zero.mp remainders
  have closer : (x - y).natAbs < (modulus width : Int).natAbs := by omega
  have zero : x - y = 0 :=
    Int.eq_zero_of_dvd_of_natAbs_lt_natAbs (Int.dvd_of_emod_eq_zero distance) closer
  omega

/-- Sign extension undoes storing for the signed integers of the width. -/
theorem signExtend_residue (width : Nat) (positive : 0 < width) (x : Int)
    (fits : fitsSigned width x = true) : signExtend width (residue width x) = x := by
  apply eq_of_residue_eq width positive _ _ (fitsSigned_signExtend width positive _) fits
  rw [residue_signExtend, residue_residue]

end LineAssembler.Bits
