import LineAssembler.Proofs.LetterCase

/-!
# What lower-casing leaves

Lower-casing settles a text: no character of its result is a letter with a lower-case form
of its own, so lower-casing twice is lower-casing once. It brings no blank and no mark of
source lines into a text, and it leaves something of every text that is not empty.

These are facts about the table of letters. Its runs are compared with each other by their
ends and, where two runs interleave, by parity: such runs take every second code point.
-/

namespace LineAssembler.Text

namespace CaseRun

/-- The counterpart of the last letter of a run. -/
def lastImage (run : CaseRun) : Nat := run.image run.last

/-- All letters of a run have one parity: it takes every second code point, or
only one. -/
def keepsParity (run : CaseRun) : Bool := run.stride == 2 || run.first == run.last

/-- No counterpart of a letter of `run` is a letter of `other`: they lie apart,
or they interleave with different parities. -/
def misses (run other : CaseRun) : Bool :=
  Nat.blt other.last run.target || Nat.blt run.lastImage other.first ||
    run.keepsParity && other.keepsParity && run.target % 2 != other.first % 2

/-- The letters of a run by their code points. -/
theorem covers_iff (run : CaseRun) (code : Nat) :
    run.covers code = true ↔
      run.first ≤ code ∧ code ≤ run.last ∧ (code - run.first) % run.stride = 0 := by
  simp [covers, and_assoc]

/-- A letter of a run of one parity stands an even distance behind the first.
Such a run takes every second letter, or it has a single one. -/
theorem even_of_covers (run : CaseRun) (keeps : run.keepsParity = true) (code : Nat)
    (covers : run.covers code = true) : (code - run.first) % 2 = 0 := by
  obtain ⟨lower, upper, steps⟩ := (covers_iff run code).mp covers
  simp only [keepsParity, Bool.or_eq_true, beq_iff_eq] at keeps
  rcases keeps with alternating | single
  · rw [alternating] at steps
    exact steps
  · omega

/-- A counterpart lies between those of the ends of a run. -/
theorem image_bounds (run : CaseRun) (code : Nat) (covers : run.covers code = true) :
    run.target ≤ run.image code ∧ run.image code ≤ run.lastImage := by
  obtain ⟨lower, upper, _⟩ := (covers_iff run code).mp covers
  unfold lastImage image
  omega

/-- The comparison of two runs is right: no counterpart of the one is a letter
of the other. The counterparts lie below or above the letters, or both alternate
and the counterparts fall between the letters. -/
theorem not_covers_image (run other : CaseRun) (misses : run.misses other = true) (code : Nat)
    (covers : run.covers code = true) : other.covers (run.image code) = false := by
  apply Bool.eq_false_iff.mpr
  intro meets
  obtain ⟨lowest, highest⟩ := image_bounds run code covers
  obtain ⟨lower, upper, _⟩ := (covers_iff other (run.image code)).mp meets
  simp only [CaseRun.misses, Bool.or_eq_true, Bool.and_eq_true, Nat.blt_eq, bne_iff_ne] at misses
  rcases misses with (above | below) | ⟨⟨keeps, otherKeeps⟩, parity⟩
  · omega
  · omega
  · have even := even_of_covers run keeps code covers
    have otherEven := even_of_covers other otherKeeps (run.image code) meets
    unfold image at otherEven lower
    omega

end CaseRun

/-- The letters with a lower-case form: the one whose form is longer, and those
of the table. -/
def letterRuns : List CaseRun := ⟨0x0130, 0x0130, 1, 0x69⟩ :: lowercaseRuns

/-- No counterpart in the table is a letter with a lower-case form. -/
theorem lowercaseRuns_miss :
    (lowercaseRuns.all fun run => letterRuns.all run.misses) = true := by
  decide +kernel

/-- The counterparts in the table are code points of characters. -/
theorem lowercaseRuns_valid : ∀ run ∈ lowercaseRuns,
    run.lastImage < 0xD800 ∨ 0xDFFF < run.target ∧ run.lastImage < 0x110000 := by
  decide +kernel

/-- A character that lower-casing leaves alone. -/
def Settled (c : Char) : Prop := ∀ run ∈ letterRuns, run.covers c.toNat = false

/-- Whether a character is left alone is decided by the table. -/
instance : DecidablePred Settled := fun c =>
  inferInstanceAs (Decidable (∀ run ∈ letterRuns, run.covers c.toNat = false))

/-- A counterpart in the table has the code point that its run tells, since no
run reaches the code points that name no character. -/
theorem toNat_ofNat_image (run : CaseRun) (member : run ∈ lowercaseRuns) (code : Nat)
    (covers : run.covers code = true) : (Char.ofNat (run.image code)).toNat = run.image code := by
  obtain ⟨lowest, highest⟩ := run.image_bounds code covers
  have valid : (run.image code).isValidChar := by
    rcases lowercaseRuns_valid run member with low | ⟨above, below⟩
    · exact Or.inl (by omega)
    · exact Or.inr ⟨by omega, by omega⟩
  have named : Char.ofNat (run.image code) = Char.ofNatAux (run.image code) valid := dif_pos valid
  rw [named]
  rfl

/-- What a character becomes by itself: itself, if it is settled, or its
counterpart in a run that covers it, or one of the two parts of the longer form. -/
theorem mem_lowerChar_cases (c d : Char) (member : d ∈ lowerChar c) :
    (d = c ∧ Settled c) ∨
      (∃ run ∈ lowercaseRuns, run.covers c.toNat = true ∧ d.toNat = run.image c.toNat) ∨
      d = 'i' ∨ d = Char.ofNat 0x0307 := by
  unfold lowerChar at member
  split at member
  case isTrue =>
    simp only [List.mem_cons, List.not_mem_nil, or_false] at member
    exact Or.inr (Or.inr member)
  case isFalse undotted =>
    rw [List.mem_singleton] at member
    unfold CaseRun.counterpart at member
    cases found : lowercaseRuns.find? (·.covers c.toNat) with
    | none =>
      rw [found] at member
      refine Or.inl ⟨member, ?_⟩
      intro run belongs
      rcases List.mem_cons.mp belongs with rfl | tabled
      · apply Bool.eq_false_iff.mpr
        intro covers
        obtain ⟨lower, upper, _⟩ := (CaseRun.covers_iff _ _).mp covers
        exact undotted (Char.toNat_inj.mp (Nat.le_antisymm upper lower))
      · exact Bool.eq_false_iff.mpr (List.find?_eq_none.mp found run tabled)
    | some run =>
      rw [found] at member
      have tabled : run ∈ lowercaseRuns := List.mem_of_find?_eq_some found
      have covers := List.find?_some found
      refine Or.inr (Or.inl ⟨run, tabled, covers, ?_⟩)
      rw [member]
      exact toNat_ofNat_image run tabled c.toNat covers

/-- The lower-case form of a character by itself is settled. A counterpart of
one run is no letter of any run by the comparison of all runs with each other,
and the two characters of the dotted capital are looked up. -/
theorem settled_of_mem_lowerChar (c d : Char) (member : d ∈ lowerChar c) : Settled d := by
  rcases mem_lowerChar_cases c d member with ⟨rfl, settled⟩ | ⟨run, tabled, covers, code⟩ | rfl | rfl
  · exact settled
  · intro other belongs
    have apart := List.all_eq_true.mp (List.all_eq_true.mp lowercaseRuns_miss run tabled)
    rw [code]
    exact run.not_covers_image other (apart other belongs) c.toNat covers
  · decide +kernel
  · decide +kernel

/-- Lower-casing settles every character of a text. A character of the result
comes from the lower case of a single character or is a final sigma. -/
theorem settled_of_mem_lower (text : Text) : ∀ c ∈ lower text, Settled c := by
  intro d member
  obtain ⟨c, _, byItself | rfl⟩ := exists_of_mem_lowerFrom [] text d member
  · exact settled_of_mem_lowerChar c d byItself
  · decide +kernel

/-- A settled character is its own lower-case form, since no run covers it and
it is not the dotted capital. -/
theorem lowerChar_of_settled (c : Char) (settled : Settled c) : lowerChar c = [c] := by
  have undotted : c ≠ 'İ' := by
    rintro rfl
    exact absurd settled (by decide +kernel)
  have uncovered : lowercaseRuns.find? (·.covers c.toNat) = none := by
    apply List.find?_eq_none.mpr
    intro run tabled
    exact Bool.eq_false_iff.mp (settled run (List.mem_cons_of_mem _ tabled))
  rw [lowerChar, if_neg undotted, CaseRun.counterpart, uncovered]

/-- A settled text is its own lower-case form, in any context: no capital sigma
is left to look around. -/
theorem lowerFrom_of_settled (preceding text : Text) (settled : ∀ c ∈ text, Settled c) :
    lowerFrom preceding text = text := by
  induction text generalizing preceding with
  | nil => rfl
  | cons c rest inductionHypothesis =>
    have here : Settled c := settled c List.mem_cons_self
    have small : c ≠ 'Σ' := by
      rintro rfl
      exact absurd here (by decide +kernel)
    rw [lowerFrom_cons, if_neg small, lowerChar_of_settled c here,
      inductionHypothesis (c :: preceding) fun d member =>
        settled d (List.mem_cons_of_mem c member)]
    rfl

/-- Lower-casing twice is lower-casing once. -/
@[simp]
theorem lower_lower (text : Text) : lower (lower text) = lower text :=
  lowerFrom_of_settled [] (lower text) (settled_of_mem_lower text)

/-- Every character leaves something, so only the empty text is lowered to it. A
sigma leaves one of its two small forms and any other character its lower case. -/
theorem lower_eq_nil_iff (text : Text) : lower text = [] ↔ text = [] := by
  cases text with
  | nil => exact iff_of_true rfl rfl
  | cons c rest =>
    have form : lowerChar c ≠ [] := by
      unfold lowerChar
      split <;> simp
    rw [lower, lowerFrom_cons]
    split <;> simp [form]

/-- The ranges of the characters that part a source line: comma, colon and
semicolon, and the blanks. -/
def delimiterRanges : List CodeRange := ⟨0x2C, 0x2C⟩ :: ⟨0x3A, 0x3B⟩ :: blankRanges

/-- The characters that part a source line. -/
def isDelimiter (c : Char) : Bool := covered delimiterRanges c

/-- No counterpart in the table parts a source line. -/
theorem lowercaseRuns_solid : ∀ run ∈ lowercaseRuns, ∀ range ∈ delimiterRanges,
    run.lastImage < range.first ∨ range.last < run.target := by
  decide +kernel

/-- A blank parts a source line. -/
theorem isDelimiter_of_isBlank (c : Char) (blank : isBlank c = true) : isDelimiter c = true := by
  obtain ⟨range, member, bounds⟩ := (covered_iff blankRanges c).mp blank
  exact (covered_iff delimiterRanges c).mpr
    ⟨range, List.mem_cons_of_mem _ (List.mem_cons_of_mem _ member), bounds⟩

/-- A character that parts a source line is no new form of another character. No
run of the table has a counterpart among the delimiters, and the dotted capital
brings none either. -/
theorem eq_of_mem_lowerChar (c d : Char) (delimiter : isDelimiter d = true)
    (member : d ∈ lowerChar c) : d = c := by
  rcases mem_lowerChar_cases c d member with ⟨same, _⟩ | ⟨run, tabled, covers, code⟩ | rfl | rfl
  · exact same
  · obtain ⟨range, belongs, lower, upper⟩ := (covered_iff delimiterRanges d).mp delimiter
    obtain ⟨lowest, highest⟩ := run.image_bounds c.toNat covers
    rw [code] at lower upper
    rcases lowercaseRuns_solid run tabled range belongs with below | above <;> omega
  · exact absurd delimiter (by decide)
  · exact absurd delimiter (by decide)

/-- Lower-casing brings no character into a text that parts source lines. A
delimiter in the result is its own lower case, and so it stood in the text. -/
theorem mem_of_mem_lower (text : Text) (d : Char) (delimiter : isDelimiter d = true)
    (member : d ∈ lower text) : d ∈ text := by
  obtain ⟨c, found, byItself | rfl⟩ := exists_of_mem_lowerFrom [] text d member
  · exact eq_of_mem_lowerChar c d delimiter byItself ▸ found
  · exact absurd delimiter (by decide)

end LineAssembler.Text
