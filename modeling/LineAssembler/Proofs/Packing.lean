import LineAssembler.Disassembly
import LineAssembler.Proofs.TwosComplement
import Mathlib.Data.Nat.Bitwise

/-!
# Packing and slicing

Packed fields do not overlap: concatenation adds each field's pattern at the place
that the widths behind it leave, and the result stays below the modulus of the
total width. Slicing along the same widths therefore reads every pattern back, and
a word below the modulus is the concatenation of its own slices.

The statements hold for any list of spans. That a layout fills a word is used only
where words are compared with the width of a machine word.
-/

namespace LineAssembler

namespace Field

/-- The total width of fields is the sum of their widths. -/
theorem totalWidth_eq_sum (fields : List Field) :
    totalWidth fields = (fields.map width).sum := by
  induction fields with
  | nil => rfl
  | cons field rest inductionHypothesis =>
    rw [totalWidth, List.map_cons, List.sum_cons, inductionHypothesis]

/-- A field contributes a pattern of its width. -/
theorem bits_lt (field : Field) : field.bits < Bits.modulus field.width :=
  Bits.residue_lt field.width field.value

/-- Appending a field at the least significant end adds its pattern, since the
shift leaves exactly its bits free. -/
theorem append_eq_add (word : Nat) (field : Field) :
    (word <<< field.width) ||| field.bits = word * Bits.modulus field.width + field.bits := by
  have disjoint : 2 ^ field.width * word + field.bits = 2 ^ field.width * word ||| field.bits :=
    Nat.two_pow_add_eq_or_of_lt field.bits_lt word
  rw [Nat.shiftLeft_eq, Nat.mul_comm, ← disjoint, Bits.modulus_eq, Nat.mul_comm]

/-- Concatenation behind a word adds to the word shifted by the total width. By
induction on the fields, for every word in front: shifting in the first field
leaves room for exactly its bits. -/
theorem foldl_append_eq_add (fields : List Field) (word : Nat) :
    fields.foldl (fun word field => (word <<< field.width) ||| field.bits) word =
      word * Bits.modulus (totalWidth fields) + concatenate fields := by
  unfold concatenate
  induction fields generalizing word with
  | nil => simp [totalWidth, Bits.modulus]
  | cons field rest inductionHypothesis =>
    rw [List.foldl_cons, List.foldl_cons, inductionHypothesis, inductionHypothesis (_ ||| _),
      append_eq_add, append_eq_add, totalWidth, Bits.modulus_add]
    ring

/-- No fields make an empty word. -/
theorem concatenate_nil : concatenate [] = 0 := rfl

/-- The first field is the most significant. Folding starts from zero, so the
first field is the word behind which the others are put. -/
theorem concatenate_cons (field : Field) (rest : List Field) :
    concatenate (field :: rest) =
      field.bits * Bits.modulus (totalWidth rest) + concatenate rest := by
  have first : (0 <<< field.width) ||| field.bits = field.bits := by simp
  have whole := foldl_append_eq_add rest field.bits
  unfold concatenate at whole ⊢
  rw [List.foldl_cons, first, whole]

/-- As an integer, the first field contributes the remainder of its value, also
if the value is negative. -/
theorem natCast_concatenate_cons (field : Field) (rest : List Field) :
    (concatenate (field :: rest) : Int) =
      field.value % Bits.modulus field.width * Bits.modulus (totalWidth rest) +
        concatenate rest := by
  rw [concatenate_cons, Nat.cast_add, Nat.cast_mul, ← Bits.residue_eq_emod]
  rfl

/-- Concatenated fields are a pattern of their total width. By induction on the
fields: the bits of the first are at most one below its modulus, and the rest is
below one unit of its place. -/
theorem concatenate_lt (fields : List Field) :
    concatenate fields < Bits.modulus (totalWidth fields) := by
  induction fields with
  | nil => decide
  | cons field rest inductionHypothesis =>
    rw [concatenate_cons, totalWidth, Bits.modulus_add]
    have inside : field.bits + 1 ≤ Bits.modulus field.width := field.bits_lt
    calc field.bits * Bits.modulus (totalWidth rest) + concatenate rest
        < field.bits * Bits.modulus (totalWidth rest) + Bits.modulus (totalWidth rest) :=
          Nat.add_lt_add_left inductionHypothesis _
      _ = (field.bits + 1) * Bits.modulus (totalWidth rest) := by ring
      _ ≤ Bits.modulus field.width * Bits.modulus (totalWidth rest) :=
          Nat.mul_le_mul_right _ inside

end Field

/-- The field that holds a slot's value in a span. -/
def Span.holding (value : Slot → Int) (span : Span) : Field :=
  ⟨span.width, value span.slot, span.width_pos⟩

/-- Fields in spans are as wide as the spans, whatever values they hold. -/
theorem Span.totalWidth_holding (value : Slot → Int) (spans : List Span) :
    Field.totalWidth (spans.map (Span.holding value)) = Span.totalWidth spans := by
  induction spans with
  | nil => rfl
  | cons span rest inductionHypothesis =>
    simp only [List.map_cons, Field.totalWidth, Span.totalWidth, inductionHypothesis]
    rfl

namespace Layout

/-- A slice is a quotient and a remainder: what lies behind it is divided off,
and what lies in front is dropped. -/
theorem slices_cons (word : Nat) (span : Span) (rest : List Span) :
    slices word (span :: rest) =
      (span.slot, word / Bits.modulus (Span.totalWidth rest) % Bits.modulus span.width) ::
        slices word rest := by
  rw [slices, Nat.shiftRight_eq_div_pow]
  rfl

/-- Slicing along the spans of the packed fields reads back the pattern of each
value, whatever stands above them. The part above grows by each slice passed. -/
theorem slices_above (value : Slot → Int) (spans : List Span) (above : Nat) :
    slices (above * Bits.modulus (Span.totalWidth spans) +
        Field.concatenate (spans.map (Span.holding value))) spans =
      spans.map fun span => (span.slot, Bits.residue span.width (value span.slot)) := by
  induction spans generalizing above with
  | nil => rfl
  | cons span rest inductionHypothesis =>
    have bound : Field.concatenate (rest.map (Span.holding value)) <
        Bits.modulus (Span.totalWidth rest) := by
      rw [← Span.totalWidth_holding value rest]
      exact Field.concatenate_lt _
    have regrouped : above * Bits.modulus (Span.totalWidth (span :: rest)) +
        Field.concatenate ((span :: rest).map (Span.holding value)) =
        (above * Bits.modulus span.width + (span.holding value).bits) *
          Bits.modulus (Span.totalWidth rest) +
          Field.concatenate (rest.map (Span.holding value)) := by
      rw [List.map_cons, Field.concatenate_cons, Span.totalWidth_holding, Span.totalWidth,
        Bits.modulus_add]
      ring
    have quotient : ((above * Bits.modulus span.width + (span.holding value).bits) *
        Bits.modulus (Span.totalWidth rest) +
        Field.concatenate (rest.map (Span.holding value))) / Bits.modulus (Span.totalWidth rest) =
        above * Bits.modulus span.width + (span.holding value).bits := by
      rw [Nat.mul_comm, Nat.mul_add_div (Bits.modulus_pos _), Nat.div_eq_of_lt bound, Nat.add_zero]
    have slice : (above * Bits.modulus span.width + (span.holding value).bits) %
        Bits.modulus span.width = Bits.residue span.width (value span.slot) := by
      rw [Nat.mul_comm, Nat.mul_add_mod]
      exact Nat.mod_eq_of_lt (span.holding value).bits_lt
    rw [regrouped, slices_cons, quotient, slice, inductionHypothesis, List.map_cons]

/-- Slicing packed fields reads back the pattern of each value. -/
theorem slices_concatenate (value : Slot → Int) (spans : List Span) :
    slices (Field.concatenate (spans.map (Span.holding value))) spans =
      spans.map fun span => (span.slot, Bits.residue span.width (value span.slot)) := by
  simpa using slices_above value spans 0

/-- Fields that hold the slices of a word pack to the word, up to what lies
above the spans. -/
theorem concatenate_of_slices (value : Slot → Int) (spans : List Span) (word : Nat)
    (same : slices word spans =
      spans.map fun span => (span.slot, Bits.residue span.width (value span.slot))) :
    Field.concatenate (spans.map (Span.holding value)) =
      word % Bits.modulus (Span.totalWidth spans) := by
  induction spans with
  | nil =>
    rw [Span.totalWidth, Bits.modulus_eq, pow_zero, Nat.mod_one]
    rfl
  | cons span rest inductionHypothesis =>
    rw [slices_cons, List.map_cons, List.cons.injEq, Prod.mk.injEq] at same
    obtain ⟨⟨_, slice⟩, later⟩ := same
    have pattern : (span.holding value).bits =
        word / Bits.modulus (Span.totalWidth rest) % Bits.modulus span.width := slice.symm
    rw [List.map_cons, Field.concatenate_cons, Span.totalWidth_holding, inductionHypothesis later,
      pattern, Span.totalWidth, Nat.add_comm span.width, Bits.modulus_add, Nat.mod_mul]
    ring

end Layout

end LineAssembler
