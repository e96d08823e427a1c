import LineAssembler.Proofs.Numerals
import LineAssembler.Proofs.Packing
import Mathlib.Data.Int.ModEq

/-!
# Exact packing

Fields of any widths and any values, not only those of the seven layouts, pack to a word
exactly when their widths add up to the width of a word. The word is then the sum of the
residues at the places that the widths behind them leave, every residue is read back at
its place, and nothing else of the values matters: fields of the same widths pack to the
same word exactly when their values are congruent place by place, and each word is packed
from one list of residues.

Fields that do not fill a word are refused, but not always for that: the refusal is worded
with the total, the widths and the values, and a number among them that is past the digit
limit takes the place of the violation.
-/

namespace LineAssembler.Field

/-! ## The fields in front of a place and behind it -/

/-- Fields of the same widths have the same total width. -/
theorem totalWidth_congr (left right : List Field) (same : left.map width = right.map width) :
    totalWidth left = totalWidth right := by
  rw [totalWidth_eq_sum, totalWidth_eq_sum, same]

/-- Concatenation puts the fields in front above those behind. This is the one
fact about the folding of fields that the places below need. -/
theorem concatenate_append (left right : List Field) :
    concatenate (left ++ right) =
      concatenate left * Bits.modulus (totalWidth right) + concatenate right := by
  have whole := foldl_append_eq_add right (concatenate left)
  rw [← whole]
  unfold concatenate
  exact List.foldl_append

/-- Shifting by the width of the fields behind leaves the fields in front, since
those behind concatenate to less than one unit of that place. -/
theorem concatenate_shiftRight (left right : List Field) :
    concatenate (left ++ right) >>> totalWidth right = concatenate left := by
  have behind : concatenate right < 2 ^ totalWidth right := concatenate_lt right
  rw [Nat.shiftRight_eq_div_pow, concatenate_append, Nat.mul_comm, Bits.modulus_eq,
    Nat.mul_add_div (Nat.two_pow_pos _), Nat.div_eq_of_lt behind, Nat.add_zero]

/-- A single field concatenates to its bits. -/
theorem concatenate_singleton (field : Field) : concatenate [field] = field.bits := by
  simp [concatenate]

/-- The total width of the fields behind a place: how far the field there is
shifted. -/
def widthBehind (fields : List Field) (index : Nat) : Nat := totalWidth (fields.drop (index + 1))

/-- The value of each field, reduced to its width and moved to its place. -/
def contributions (fields : List Field) : List Int :=
  fields.mapIdx fun index field =>
    field.value % 2 ^ field.width * 2 ^ widthBehind fields index

/-- A number is the exact concatenation of fields: it is a word, it is the sum
of what the fields contribute, and at every place the residue of the field there
is read back. -/
structure Concatenates (fields : List Field) (word : Nat) : Prop where
  small : word < 2 ^ 32
  sum : (word : Int) = (contributions fields).sum
  slice (index : Nat) (field : Field) : fields[index]? = some field →
    ((word >>> widthBehind fields index % 2 ^ field.width : Nat) : Int) =
      field.value % 2 ^ field.width

/-- The bits of a field are the residue of its value. -/
theorem natCast_bits (field : Field) : (field.bits : Int) = field.value % 2 ^ field.width := by
  rw [bits, Bits.residue_eq_emod, Bits.modulus_eq, Nat.cast_pow, Nat.cast_ofNat]

/-- The first field contributes in front of all others, which do not see it: how
far a field is shifted depends on the fields behind it only. -/
theorem contributions_cons (field : Field) (rest : List Field) :
    contributions (field :: rest) =
      field.value % 2 ^ field.width * 2 ^ totalWidth rest :: contributions rest := by
  rw [contributions, List.mapIdx_cons]
  rfl

/-- Concatenation is addition: no contribution overlaps another. By induction on
the fields, the first of which is put above the rest. -/
theorem concatenate_eq_sum (fields : List Field) :
    (concatenate fields : Int) = (contributions fields).sum := by
  induction fields with
  | nil => rfl
  | cons field rest inductionHypothesis =>
    rw [concatenate_cons, contributions_cons, List.sum_cons, ← inductionHypothesis,
      ← natCast_bits, Bits.modulus_eq]
    push_cast
    ring

/-- The fields behind a place are shifted out, those in front of it are cut off,
and the bits of the field at the place remain. The fields are parted behind the
place, and the part in front ends with the field. -/
theorem slice_concatenate (fields : List Field) (index : Nat) (field : Field)
    (found : fields[index]? = some field) :
    concatenate fields >>> widthBehind fields index % 2 ^ field.width = field.bits := by
  obtain ⟨inside, here⟩ := List.getElem?_eq_some_iff.mp found
  have front : fields.take (index + 1) = fields.take index ++ [field] := by
    rw [← here, List.take_succ_eq_append_getElem inside]
  have shifted : concatenate fields >>> widthBehind fields index =
      concatenate (fields.take index ++ [field]) := by
    have cut := concatenate_shiftRight (fields.take (index + 1)) (fields.drop (index + 1))
    rwa [List.take_append_drop, front] at cut
  rw [shifted, concatenate_append, concatenate_singleton, totalWidth, totalWidth, Nat.add_zero,
    Nat.mul_comm, Bits.modulus_eq, Nat.mul_add_mod]
  exact Nat.mod_eq_of_lt field.bits_lt

/-- Fields that fill a word concatenate to it exactly. Only the bound needs that
they fill it; the sum and the slices hold for fields of any total width. -/
theorem concatenates_concatenate (fields : List Field) (filled : totalWidth fields = 32) :
    Concatenates fields (concatenate fields) where
  small := by
    have bound := concatenate_lt fields
    rw [filled] at bound
    exact bound
  sum := concatenate_eq_sum fields
  slice := by
    intro index field found
    rw [slice_concatenate fields index field found, natCast_bits]

/-! ## The values that a word is packed from -/

/-- A number is determined by its quotient and its remainder. Dividing both
sides by the base gives the quotients, and what is left are the remainders. -/
theorem mul_add_eq_iff (left right restLeft restRight base : Nat) (smallLeft : restLeft < base)
    (smallRight : restRight < base) :
    left * base + restLeft = right * base + restRight ↔ left = right ∧ restLeft = restRight := by
  constructor
  · intro same
    have positive : 0 < base := Nat.zero_lt_of_lt smallLeft
    have quotients : left = right := by
      have divided := congrArg (· / base) same
      simpa only [Nat.mul_comm _ base, Nat.mul_add_div positive, Nat.div_eq_of_lt smallLeft,
        Nat.div_eq_of_lt smallRight, Nat.add_zero] using divided
    subst quotients
    exact ⟨rfl, Nat.add_left_cancel same⟩
  · rintro ⟨rfl, rfl⟩
    rfl

/-- Two fields hold congruent values of one width. -/
def Congruent (left right : Field) : Prop := left.value ≡ right.value [ZMOD 2 ^ left.width]

/-- Fields of one width have the same bits exactly when their values are
congruent, as the bits are the residue of the value. -/
theorem bits_eq_iff (left right : Field) (same : left.width = right.width) :
    left.bits = right.bits ↔ left.Congruent right := by
  rw [Congruent, Int.ModEq, ← natCast_bits, same, ← natCast_bits, Nat.cast_inj]

/-- Fields of the same widths concatenate to the same number exactly when their
values are congruent place by place. By induction on the fields: the bits of the
first field are the quotient by the unit of its place, and the others are the
remainder. -/
theorem concatenate_eq_iff (left right : List Field) (same : left.map width = right.map width) :
    concatenate left = concatenate right ↔ List.Forall₂ Congruent left right := by
  induction left generalizing right with
  | nil =>
    have empty : right = [] := List.map_eq_nil_iff.mp same.symm
    simp [empty]
  | cons field rest inductionHypothesis =>
    obtain ⟨other, others, rfl, first, later⟩ := List.map_eq_cons_iff.mp same.symm
    have sameTotal : totalWidth rest = totalWidth others := totalWidth_congr _ _ later.symm
    have bound := concatenate_lt others
    rw [← sameTotal] at bound
    rw [concatenate_cons, concatenate_cons, ← sameTotal,
      mul_add_eq_iff _ _ _ _ _ (concatenate_lt rest) bound, List.forall₂_cons,
      bits_eq_iff field other first.symm, inductionHypothesis others later.symm]

/-- Fields that hold residues. -/
def AreResidues (fields : List Field) : Prop :=
  ∀ field ∈ fields, 0 ≤ field.value ∧ field.value < 2 ^ field.width

/-- The residues of a number at the places of fields. -/
def residuesOf (word : Nat) : List Field → List Field
  | [] => []
  | field :: rest =>
    ⟨field.width, (word / Bits.modulus (totalWidth rest) % Bits.modulus field.width : Nat),
      field.width_pos⟩ :: residuesOf word rest

/-- The residues at the places of fields have the widths of the fields. -/
theorem map_width_residuesOf (word : Nat) (fields : List Field) :
    (residuesOf word fields).map width = fields.map width := by
  induction fields with
  | nil => rfl
  | cons field rest inductionHypothesis =>
    rw [residuesOf, List.map_cons, List.map_cons, inductionHypothesis]

/-- What a number is cut into are residues, each being a remainder by the
modulus of its width. -/
theorem areResidues_residuesOf (word : Nat) (fields : List Field) :
    AreResidues (residuesOf word fields) := by
  induction fields with
  | nil => simp [AreResidues, residuesOf]
  | cons field rest inductionHypothesis =>
    intro residue member
    rcases List.mem_cons.mp member with rfl | later
    · have bound : word / Bits.modulus (totalWidth rest) % Bits.modulus field.width <
          2 ^ field.width := Nat.mod_lt _ (Bits.modulus_pos field.width)
      refine ⟨Int.natCast_nonneg _, ?_⟩
      dsimp only
      exact_mod_cast bound
    · exact inductionHypothesis residue later

/-- The residues of a number restore it, up to what lies above their places. By
induction on the fields: the remainder by the modulus of all the widths consists
of the slice of the first field and the remainder by the modulus of the widths
behind. -/
theorem concatenate_residuesOf (word : Nat) (fields : List Field) :
    concatenate (residuesOf word fields) = word % Bits.modulus (totalWidth fields) := by
  induction fields with
  | nil =>
    rw [totalWidth, Bits.modulus_eq, pow_zero, Nat.mod_one]
    rfl
  | cons field rest inductionHypothesis =>
    have sameTotal : totalWidth (residuesOf word rest) = totalWidth rest :=
      totalWidth_congr _ _ (map_width_residuesOf word rest)
    have pattern : Bits.residue field.width
        (word / Bits.modulus (totalWidth rest) % Bits.modulus field.width : Nat) =
        word / Bits.modulus (totalWidth rest) % Bits.modulus field.width :=
      Bits.residue_of_lt _ _ (Nat.mod_lt _ (Bits.modulus_pos field.width))
    rw [residuesOf, concatenate_cons, bits, pattern, sameTotal, inductionHypothesis, totalWidth,
      Nat.add_comm field.width, Bits.modulus_add, Nat.mod_mul]
    ring

/-- Congruent residues of one width are the same, because each is its own
remainder by the modulus of the width. -/
theorem eq_of_congruent (left right : Field) (same : left.width = right.width)
    (residueLeft : 0 ≤ left.value ∧ left.value < 2 ^ left.width)
    (residueRight : 0 ≤ right.value ∧ right.value < 2 ^ right.width)
    (congruent : left.Congruent right) : left = right := by
  have values : left.value = right.value := by
    rw [← Int.emod_eq_of_lt residueLeft.1 residueLeft.2, congruent, same,
      Int.emod_eq_of_lt residueRight.1 residueRight.2]
  cases left
  cases right
  simp_all

/-- Residues of the same widths that concatenate to the same number are the
same. Their values are congruent place by place, and the induction goes along
the places. -/
theorem eq_of_concatenate_eq (left right : List Field) (same : left.map width = right.map width)
    (residuesLeft : AreResidues left) (residuesRight : AreResidues right)
    (equal : concatenate left = concatenate right) : left = right := by
  have congruent := (concatenate_eq_iff left right same).mp equal
  clear equal
  induction congruent with
  | nil => rfl
  | @cons field other rest others first _ inductionHypothesis =>
    rw [List.map_cons, List.map_cons, List.cons.injEq] at same
    have here : field = other := eq_of_congruent field other same.1
      (residuesLeft field List.mem_cons_self) (residuesRight other List.mem_cons_self) first
    have later : rest = others := inductionHypothesis same.2
      (fun residue member => residuesLeft residue (List.mem_cons_of_mem field member))
      (fun residue member => residuesRight residue (List.mem_cons_of_mem other member))
    rw [here, later]

/-! ## Packing -/

/-- Every number that is shown when fields are refused keeps the digit limit. -/
structure Describable (fields : List Field) : Prop where
  total : (Numeral.ofNat (totalWidth fields)).length ≤ Numeral.digitLimit
  widths : ∀ field ∈ fields, (Numeral.ofNat field.width).length ≤ Numeral.digitLimit
  values : ∀ field ∈ fields, (Numeral.ofNat field.value.natAbs).length ≤ Numeral.digitLimit

/-- The numbers that are checked before a refusal are those that it shows. The
check goes through them in one list, the total first and then the width and the
value of every field. -/
theorem describable_iff (fields : List Field) :
    (WidthViolation.total fields).numbers.all Numeral.isWritable = true ↔ Describable fields := by
  simp only [WidthViolation.numbers, List.all_cons, List.all_flatMap, List.all_nil,
    Bool.and_eq_true, Bool.and_true, List.all_eq_true, Numeral.isWritable_iff, Int.natAbs_natCast]
  constructor
  · rintro ⟨total, numbers⟩
    exact ⟨total, fun field member => (numbers field member).1,
      fun field member => (numbers field member).2⟩
  · intro describable
    exact ⟨describable.total,
      fun field member => ⟨describable.widths field member, describable.values field member⟩⟩

/-- Fields that do not fill a word are refused. -/
theorem pack_of_unfilled (fields : List Field) (unfilled : totalWidth fields ≠ 32) :
    pack fields = .error (WidthViolation.total fields).refusal :=
  if_neg unfilled

/-- Fields are packed exactly when they fill a word, and to their concatenation.
Nothing about the values is asked. -/
theorem pack_eq_ok_iff (fields : List Field) (word : Nat) :
    pack fields = .ok word ↔ totalWidth fields = 32 ∧ word = concatenate fields := by
  by_cases filled : totalWidth fields = 32
  · simp [pack_of_filled fields filled, filled, eq_comm]
  · simp [pack_of_unfilled fields filled, filled]

/-- Fields are refused exactly when they do not fill a word. What the refusal is
depends on whether it can be written, and is left to the next two lemmas. -/
theorem pack_eq_error_iff (fields : List Field) (refusal : Refusal) :
    pack fields = .error refusal ↔
      totalWidth fields ≠ 32 ∧ (WidthViolation.total fields).refusal = refusal := by
  by_cases filled : totalWidth fields = 32
  · simp [pack_of_filled fields filled, filled]
  · simp [pack_of_unfilled fields filled, filled]

/-- Fields are refused for their total exactly when they do not fill a word and
what is wrong with them can be written. -/
theorem pack_eq_violation_iff (fields : List Field) (violation : WidthViolation) :
    pack fields = .error (.violation violation) ↔
      violation = .total fields ∧ totalWidth fields ≠ 32 ∧ Describable fields := by
  rw [pack_eq_error_iff, WidthViolation.refusal, ← describable_iff]
  split
  case isTrue written => simp [written, and_comm, eq_comm]
  case isFalse unwritten => simp [unwritten]

/-- Fields run into the digit limit exactly when they do not fill a word and
what is wrong with them cannot be written. -/
theorem pack_eq_limit_iff (fields : List Field) (limit : DigitLimit) :
    pack fields = .error (.limit limit) ↔
      limit = .writing ∧ totalWidth fields ≠ 32 ∧ ¬Describable fields := by
  rw [pack_eq_error_iff, WidthViolation.refusal, ← describable_iff]
  split
  case isTrue written => simp [written]
  case isFalse unwritten => simp [unwritten, and_comm, eq_comm]

/-- Packing fields that fill a word is exact. It succeeds with their
concatenation, two lists of the same widths give the same word exactly when
their values are congruent, and every word is packed from one list of residues
of these widths. -/
structure PacksExactly (fields : List Field) : Prop where
  concatenates : ∃ word, pack fields = .ok word ∧ Concatenates fields word
  congruent (others : List Field) : others.map width = fields.map width →
    ((∃ word, pack fields = .ok word ∧ pack others = .ok word) ↔
      List.Forall₂ Congruent fields others)
  residues (word : Nat) : word < 2 ^ 32 →
    ∃! residues : List Field, residues.map width = fields.map width ∧ AreResidues residues ∧
      pack residues = .ok word

/-- Every word is packed from exactly one list of residues of given widths.
Cutting the word at the places of the widths gives such a list; any other
concatenates to the same word and is therefore the same list. -/
theorem existsUnique_residues (fields : List Field) (filled : totalWidth fields = 32)
    (word : Nat) (small : word < 2 ^ 32) :
    ∃! residues : List Field, residues.map width = fields.map width ∧ AreResidues residues ∧
      pack residues = .ok word := by
  have packed (residues : List Field) (same : residues.map width = fields.map width) :
      pack residues = .ok (concatenate residues) :=
    pack_of_filled residues ((totalWidth_congr _ _ same).trans filled)
  have widths := map_width_residuesOf word fields
  have whole : concatenate (residuesOf word fields) = word := by
    rw [concatenate_residuesOf, filled]
    exact Nat.mod_eq_of_lt small
  refine ⟨residuesOf word fields, ⟨widths, areResidues_residuesOf word fields, ?_⟩, ?_⟩
  · rw [packed _ widths, whole]
  · rintro others ⟨same, residues, packs⟩
    rw [packed others same, Except.ok.injEq] at packs
    exact eq_of_concatenate_eq others _ (same.trans widths.symm) residues
      (areResidues_residuesOf word fields) (packs.trans whole.symm)

/-- Fields that fill a word are packed exactly. Fields of the same widths fill a
word too, so packing either is concatenating, for which the statements are
proved above. -/
theorem packsExactly_of_filled (fields : List Field) (filled : totalWidth fields = 32) :
    PacksExactly fields where
  concatenates := ⟨_, pack_of_filled fields filled, concatenates_concatenate fields filled⟩
  congruent := by
    intro others same
    have otherFilled : totalWidth others = 32 := (totalWidth_congr _ _ same).trans filled
    rw [← concatenate_eq_iff fields others same.symm, pack_of_filled fields filled,
      pack_of_filled others otherFilled]
    simp [eq_comm]
  residues := existsUnique_residues fields filled

/-- Packing is exact concatenation. Fields that do not fill a word are refused
for it, if the numbers in the refusal can be written, and otherwise for the
digit limit.

Proof: packing checks the total width and then concatenates. Everything about
the word is proved of the concatenation, by induction on the fields from the
most significant on; a refusal is worded, or cannot be. -/
theorem pack_exact (fields : List Field) :
    (∀ violation, pack fields = .error (.violation violation) ↔
      violation = .total fields ∧ totalWidth fields ≠ 32 ∧ Describable fields) ∧
    (∀ limit, pack fields = .error (.limit limit) ↔
      limit = .writing ∧ totalWidth fields ≠ 32 ∧ ¬Describable fields) ∧
    (totalWidth fields = 32 → PacksExactly fields) :=
  ⟨pack_eq_violation_iff fields, pack_eq_limit_iff fields, packsExactly_of_filled fields⟩

/-- The fields of a branch with a negative immediate are packed to the word that
they concatenate to, and from no other residues. -/
theorem pack_exact_branch :
    ∃ fields : List Field, fields.map (fun field => (field.width, field.value)) =
        [(5, 18), (4, 3), (2, 3), (2, 0), (19, -2)] ∧
      totalWidth fields = 32 ∧ PacksExactly fields ∧ pack fields = .ok 2447900670 := by
  refine ⟨[⟨5, 18, by decide⟩, ⟨4, 3, by decide⟩, ⟨2, 3, by decide⟩, ⟨2, 0, by decide⟩,
    ⟨19, -2, by decide⟩], rfl, rfl, ?_, rfl⟩
  exact (pack_exact _).2.2 rfl

/-- Two fields, of which the first is as wide as the greatest number of 4300
digits, and the second is one bit wide. -/
def overlong : List Field :=
  [⟨Nat.pow 10 Numeral.digitLimit - 1, 0, by decide +kernel⟩, ⟨1, 0, Nat.one_pos⟩]

/-- Fields that do not fill a word need not be refused for it: the total of
these two has 4301 digits and cannot be written. -/
theorem pack_overlong :
    totalWidth overlong ≠ 32 ∧ pack overlong = .error (.limit .writing) ∧
      ¬∃ violation, pack overlong = .error (.violation violation) := by
  have total : totalWidth overlong = Nat.pow 10 Numeral.digitLimit := by decide +kernel
  have unfilled : totalWidth overlong ≠ 32 := by decide +kernel
  have unwritable : Numeral.isWritable (totalWidth overlong) = false := by
    rw [total, Numeral.isWritable, decide_eq_false_iff_not, Int.natAbs_natCast]
    exact Nat.lt_irrefl _
  have refused : pack overlong = .error (.limit .writing) := by
    rw [pack_of_unfilled overlong unfilled, WidthViolation.refusal, WidthViolation.numbers,
      List.all_cons, unwritable, Bool.false_and]
    rfl
  refine ⟨unfilled, refused, ?_⟩
  rintro ⟨violation, reported⟩
  rw [refused] at reported
  cases reported

end LineAssembler.Field
