import LineAssembler.Text.Lowercase

/-!
# Lower-casing of plain names

A name made of the letters a to z without k is the lower-case form of exactly its
variants in ASCII case. The Kelvin sign is the only letter outside ASCII that is
lowered to an ASCII letter by itself, which is why k is left out; every other
letter outside ASCII leaves a character outside ASCII behind. Lower-casing leaves
no ASCII capital, so a plain name is reached by lower-casing once exactly when it
is reached by lower-casing twice.
-/

namespace LineAssembler.Text

/-- A small letter that is the lower-case form of itself and its capital only. -/
def isPlain (c : Char) : Bool := c.isLower && c != 'k'

/-- A character whose code point is past ASCII, or that replaces a code point
that is none. -/
def IsForeign (c : Char) : Prop := c.toNat = 0 ∨ 0x80 ≤ c.toNat

/-- The small letters of ASCII by code point. -/
theorem isLower_iff (c : Char) : c.isLower = true ↔ 97 ≤ c.toNat ∧ c.toNat ≤ 122 := by
  change (decide (97 ≤ c.val) && decide (c.val ≤ 122)) = true ↔ _
  simp [UInt32.le_iff_toNat_le, ← Char.toNat_val]

/-- The capitals of ASCII by code point. -/
theorem isUpper_iff (c : Char) : c.isUpper = true ↔ 65 ≤ c.toNat ∧ c.toNat ≤ 90 := by
  change decide (65 ≤ c.val ∧ c.val ≤ 90) = true ↔ _
  simp [UInt32.le_iff_toNat_le, ← Char.toNat_val]

/-- A character that is no capital of ASCII is its own small letter. -/
theorem toLower_of_not_isUpper (c : Char) (small : c.isUpper = false) : c.toLower = c := by
  have outside : ¬(c.val ≥ 'A'.val ∧ c.val ≤ 'Z'.val) := of_decide_eq_false small
  exact dif_neg outside

/-- What holds of the letters of all code points from A to Z holds of any
capital. The premise can be decided for a property that computes. -/
theorem forall_capital (p : Char → Prop)
    (letters : ∀ code < 91, 65 ≤ code → p (Char.ofNat code)) (c : Char)
    (capital : c.isUpper = true) : p c := by
  obtain ⟨low, high⟩ := (isUpper_iff c).mp capital
  simpa using letters c.toNat (by omega) low

/-- No small letter is a capital of ASCII. The capitals are gone through, and
any other character is its own small letter. -/
theorem isUpper_toLower (c : Char) : c.toLower.isUpper = false := by
  by_cases capital : c.isUpper = true
  · exact forall_capital (fun d => d.toLower.isUpper = false) (by decide) c capital
  · have small : c.isUpper = false := Bool.not_eq_true _ ▸ capital
    rw [toLower_of_not_isUpper c small, small]

/-- A run of letters lies within ASCII, or its counterparts lie outside, or it
is the Kelvin sign. -/
theorem lowercaseRuns_targets : ∀ run ∈ lowercaseRuns,
    run.last < 0x80 ∨ 0x80 ≤ run.target ∨ (run.target = 'k'.toNat ∧ run.first = run.last) := by
  decide +kernel

/-- Within ASCII only the capitals change, and each to its small letter. -/
theorem lowerChar_of_ascii (c : Char) (ascii : c.toNat < 0x80) : lowerChar c = [c.toLower] :=
  forall_ascii (fun c => lowerChar c = [c.toLower]) (by decide +kernel) c ascii

/-- A code point past ASCII names a foreign character, also when it names none:
what names no character stands for the null character, which counts as foreign. -/
theorem isForeign_ofNat (code : Nat) (foreign : 0x80 ≤ code) : IsForeign (Char.ofNat code) := by
  by_cases valid : code.isValidChar
  · have named : Char.ofNat code = Char.ofNatAux code valid := dif_pos valid
    rw [named]
    exact Or.inr foreign
  · have unnamed : Char.ofNat code = Char.ofNat 0 := dif_neg valid
    rw [unnamed]
    exact Or.inl rfl

/-- Outside ASCII a character has a counterpart outside ASCII, or it is the
Kelvin sign. -/
theorem counterpart_of_foreign (c : Char) (foreign : 0x80 ≤ c.toNat) :
    IsForeign (CaseRun.counterpart lowercaseRuns c) ∨
      CaseRun.counterpart lowercaseRuns c = 'k' := by
  unfold CaseRun.counterpart
  cases found : lowercaseRuns.find? (·.covers c.toNat) with
  | none => exact Or.inl (Or.inr foreign)
  | some run =>
    have member : run ∈ lowercaseRuns := List.mem_of_find?_eq_some found
    have covers := List.find?_some found
    simp only [CaseRun.covers, Bool.and_eq_true, decide_eq_true_eq] at covers
    rcases lowercaseRuns_targets run member with within | outside | ⟨kelvin, single⟩
    · omega
    · exact Or.inl (isForeign_ofNat _ (by unfold CaseRun.image; omega))
    · right
      have image : run.image c.toNat = 'k'.toNat := by
        unfold CaseRun.image
        omega
      simp only [image]
      rfl

/-- A foreign character is no plain letter. -/
theorem not_isPlain_of_foreign (c : Char) (foreign : IsForeign c) : isPlain c = false := by
  have outside : c.isLower = false := by
    apply Bool.eq_false_iff.mpr
    rw [ne_eq, isLower_iff]
    unfold IsForeign at foreign
    omega
  simp [isPlain, outside]

/-- A foreign character is no capital of ASCII. -/
theorem not_isUpper_of_foreign (c : Char) (foreign : IsForeign c) : c.isUpper = false := by
  apply Bool.eq_false_iff.mpr
  rw [ne_eq, isUpper_iff]
  unfold IsForeign at foreign
  omega

/-- Outside ASCII the lower-case form of a character holds one that is not
plain. A counterpart past ASCII is not plain itself; the dotted capital brings a
combining dot, and the Kelvin sign, which has a letter of ASCII as its
counterpart, one that no mnemonic holds. -/
theorem exists_not_plain (c : Char) (foreign : 0x80 ≤ c.toNat) :
    ∃ d ∈ lowerChar c, isPlain d = false := by
  unfold lowerChar
  split
  case isTrue => exact ⟨Char.ofNat 0x0307, by simp, by decide⟩
  case isFalse =>
    refine ⟨_, List.mem_singleton_self _, ?_⟩
    rcases counterpart_of_foreign c foreign with outside | kelvin
    · exact not_isPlain_of_foreign _ outside
    · rw [kelvin]
      decide

/-- The lower-case form of a character holds no capital of ASCII. In ASCII it is
the small letter; outside, the counterpart is not in ASCII, with the dotted
capital and the Kelvin sign as the two exceptions, and these have small letters. -/
theorem not_isUpper_of_mem_lowerChar (c d : Char) (member : d ∈ lowerChar c) :
    d.isUpper = false := by
  by_cases ascii : c.toNat < 0x80
  · rw [lowerChar_of_ascii c ascii, List.mem_singleton] at member
    rw [member, isUpper_toLower]
  · unfold lowerChar at member
    split at member
    case isTrue =>
      simp only [List.mem_cons, List.not_mem_nil, or_false] at member
      rcases member with rfl | rfl <;> decide
    case isFalse =>
      rw [List.mem_singleton] at member
      rcases counterpart_of_foreign c (Nat.le_of_not_lt ascii) with outside | kelvin
      · exact member ▸ not_isUpper_of_foreign _ outside
      · rw [member, kelvin]
        decide

/-- Only an ASCII character has a plain small letter. A character past ASCII is
no capital of ASCII, so it is its own small letter and is not plain. -/
theorem ascii_of_isPlain_toLower (c : Char) (plain : isPlain c.toLower = true) :
    c.toNat < 0x80 := by
  apply Nat.lt_of_not_le
  intro foreign
  have capital : c.isUpper = false := not_isUpper_of_foreign c (Or.inr foreign)
  rw [toLower_of_not_isUpper c capital, not_isPlain_of_foreign c (Or.inr foreign)] at plain
  contradiction

/-- What a character becomes in its context: a capital sigma looks around, every
other character does not. -/
theorem lowerFrom_cons (preceding : Text) (c : Char) (following : Text) :
    lowerFrom preceding (c :: following) =
      (if c = 'Σ' then [lowerSigma preceding following] else lowerChar c) ++
        lowerFrom (c :: preceding) following := rfl

/-- A capital sigma becomes one of the two small ones, neither of which is in
ASCII. -/
theorem isForeign_lowerSigma (preceding following : Text) :
    IsForeign (lowerSigma preceding following) := by
  unfold lowerSigma IsForeign
  split <;> exact Or.inr (by decide)

/-- Every character of a lower-case text belongs to the form of some character
by itself, or is a final sigma. -/
theorem exists_of_mem_lowerFrom (preceding text : Text) (d : Char)
    (member : d ∈ lowerFrom preceding text) : ∃ c ∈ text, d ∈ lowerChar c ∨ d = 'ς' := by
  induction text generalizing preceding with
  | nil => simp [lowerFrom] at member
  | cons c rest inductionHypothesis =>
    rw [lowerFrom_cons, List.mem_append] at member
    rcases member with here | later
    · refine ⟨c, List.mem_cons_self, ?_⟩
      split at here
      case isTrue sigma =>
        -- The other small sigma is the form of the capital by itself.
        rw [sigma, List.mem_singleton.mp here, lowerSigma]
        split
        · exact Or.inr rfl
        · exact Or.inl (by decide +kernel)
      case isFalse => exact Or.inl here
    · obtain ⟨source, found, form⟩ := inductionHypothesis (c :: preceding) later
      exact ⟨source, List.mem_cons_of_mem c found, form⟩

/-- A plain name is the lower-case form of its variants in ASCII case only, in
any context. A character outside ASCII would leave one behind that is not plain. -/
theorem map_toLower_of_lowerFrom (preceding text name : Text)
    (plain : ∀ c ∈ name, isPlain c = true) (lowered : lowerFrom preceding text = name) :
    text.map Char.toLower = name := by
  induction text generalizing preceding name with
  | nil => simpa [lowerFrom] using lowered
  | cons c rest inductionHypothesis =>
    rw [lowerFrom_cons] at lowered
    have plainHead : ∀ d ∈ (if c = 'Σ' then [lowerSigma preceding rest] else lowerChar c),
        isPlain d = true := fun d member => plain d (lowered ▸ List.mem_append_left _ member)
    have plainRest : ∀ d ∈ lowerFrom (c :: preceding) rest, isPlain d = true :=
      fun d member => plain d (lowered ▸ List.mem_append_right _ member)
    have sameRest := inductionHypothesis (c :: preceding) _ plainRest rfl
    by_cases sigma : c = 'Σ'
    · have found := plainHead (lowerSigma preceding rest) (by simp [sigma])
      rw [not_isPlain_of_foreign _ (isForeign_lowerSigma preceding rest)] at found
      contradiction
    · simp only [sigma, if_false] at plainHead lowered
      by_cases ascii : c.toNat < 0x80
      · rw [← lowered, lowerChar_of_ascii c ascii, List.map_cons, sameRest]
        rfl
      · obtain ⟨d, member, notPlain⟩ := exists_not_plain c (Nat.le_of_not_lt ascii)
        rw [plainHead d member] at notPlain
        contradiction

/-- Every variant of a plain name in ASCII case has it as its lower-case form,
in any context. -/
theorem lowerFrom_of_map_toLower (preceding text name : Text)
    (plain : ∀ c ∈ name, isPlain c = true) (variant : text.map Char.toLower = name) :
    lowerFrom preceding text = name := by
  induction text generalizing preceding name with
  | nil => simpa [lowerFrom] using variant
  | cons c rest inductionHypothesis =>
    rw [List.map_cons] at variant
    have plainHead : isPlain c.toLower = true := plain _ (variant ▸ List.mem_cons_self)
    have plainRest : ∀ d ∈ rest.map Char.toLower, isPlain d = true :=
      fun d member => plain d (variant ▸ List.mem_cons_of_mem _ member)
    have ascii : c.toNat < 0x80 := ascii_of_isPlain_toLower c plainHead
    have notSigma : c ≠ 'Σ' := by
      rintro rfl
      exact absurd ascii (by decide)
    rw [lowerFrom_cons, if_neg notSigma, lowerChar_of_ascii c ascii,
      inductionHypothesis (c :: preceding) _ plainRest rfl, ← variant]
    rfl

/-- Lower-casing leaves no capital of ASCII. A character of the result comes
from the lower case of a single character or is a final sigma. -/
theorem not_isUpper_of_mem_lowerFrom (preceding text : Text) :
    ∀ c ∈ lowerFrom preceding text, c.isUpper = false := by
  intro d member
  obtain ⟨c, _, byItself | rfl⟩ := exists_of_mem_lowerFrom preceding text d member
  · exact not_isUpper_of_mem_lowerChar c d byItself
  · decide

/-- A plain name is reached by lower-casing exactly from its variants in ASCII
case. -/
theorem lower_eq_iff (text name : Text) (plain : ∀ c ∈ name, isPlain c = true) :
    lower text = name ↔ text.map Char.toLower = name :=
  ⟨map_toLower_of_lowerFrom [] text name plain, lowerFrom_of_map_toLower [] text name plain⟩

/-- Lower-casing a text twice reaches the same plain names as lower-casing it
once, since there is no capital of ASCII left for the second time. -/
theorem lower_lower_eq_iff (text name : Text) (plain : ∀ c ∈ name, isPlain c = true) :
    lower (lower text) = name ↔ text.map Char.toLower = name := by
  have unchanged : (lower text).map Char.toLower = lower text := by
    refine (List.map_congr_left ?_).trans (List.map_id _)
    intro c member
    have small : c.isUpper = false := not_isUpper_of_mem_lowerFrom [] text c member
    exact toLower_of_not_isUpper c small
  rw [lower_eq_iff (lower text) name plain, unchanged, lower_eq_iff text name plain]

end LineAssembler.Text
