import LineAssembler.Proofs.InstructionEncoding
import LineAssembler.Proofs.LineInvariance

/-!
# Letters in either case

The case of ASCII letters in a line does not matter, wherever they stand. They reach an
encoding in three ways: through the lower-casing of the mnemonic, through the R of a register
name and through hexadecimal digits. Everything else about a character that is looked at
is the same for a capital and its small letter.

Every stage therefore commutes with folding, which makes the ASCII letters of a text small:
cutting and trimming, lower-casing also where it looks around, and reading an operand. A folded
operand is read as the same value, or it is refused in the same way under its folded token. Two
lines that differ in the case of letters are compared through the line that both are folded to.
-/

namespace LineAssembler

namespace Text

/-! ## Folding a text -/

/-- A text with its ASCII letters in lower case. All other characters are kept. -/
def folded (text : Text) : Text := text.map Char.toLower

/-- A text in which the case of any ASCII letters may be changed. -/
def Recased (text other : Text) : Prop :=
  List.Forall₂ (fun c d => d = c ∨ d = c.toLower ∨ d = c.toUpper) text other

/-- Whether only the case of ASCII letters differs is decided character by
character. -/
instance (text other : Text) : Decidable (Recased text other) :=
  inferInstanceAs (Decidable (List.Forall₂ _ text other))

/-- An empty text has nothing to fold. -/
@[simp]
theorem folded_nil : folded [] = [] := rfl

/-- Folding goes character by character. This is the step on which the
inductions over texts below rest. -/
@[simp]
theorem folded_cons (c : Char) (text : Text) : folded (c :: text) = c.toLower :: folded text := rfl

/-- A text keeps its length when it is folded, so the digit limit counts the
same digits. -/
@[simp]
theorem length_folded (text : Text) : (folded text).length = text.length := List.length_map _

/-- A character and its capital have the same small letter. The characters of
ASCII are tried one by one, and every other character is its own capital. -/
theorem toLower_toUpper (c : Char) : c.toUpper.toLower = c.toLower := by
  by_cases ascii : c.toNat < 0x80
  · exact forall_ascii (fun c => c.toUpper.toLower = c.toLower) (by decide) c ascii
  · have foreign : ¬(97 ≤ c.toNat ∧ c.toNat ≤ 122) := by omega
    have same : c.toUpper = c := dif_neg foreign
    rw [same]

/-- A text is folded to the same as with the case of letters changed. A
character in its place is the same, its small letter or its capital, and all
three have one small letter. -/
theorem Recased.folded_eq {text other : Text} (recased : Recased text other) :
    folded text = folded other := by
  induction recased with
  | nil => rfl
  | cons first _ inductionHypothesis =>
    rw [folded_cons, folded_cons, inductionHypothesis]
    rcases first with rfl | rfl | rfl
    · rfl
    · rw [toLower_of_not_isUpper _ (isUpper_toLower _)]
    · rw [toLower_toUpper]

/-- What is the same for every capital of ASCII and its small letter is not
affected by folding. The premise is about 26 codes and is decided; every
character that is no capital is folded to itself. -/
theorem toLower_congr {β : Type} (f : Char → β)
    (letters : ∀ code < 91, 65 ≤ code → f (Char.ofNat code).toLower = f (Char.ofNat code))
    (c : Char) : f c.toLower = f c := by
  by_cases capital : c.isUpper = true
  · exact forall_capital (fun d => f d.toLower = f d) letters c capital
  · rw [toLower_of_not_isUpper c (Bool.not_eq_true _ ▸ capital)]

/-- A character that is no letter is folded to only from itself. A capital is a
letter and so is its small letter, so neither can be the mark. -/
theorem toLower_eq_iff (mark : Char) (caseless : mark.isAlpha = false) (c : Char) :
    c.toLower = mark ↔ c = mark := by
  by_cases capital : c.isUpper = true
  · have letter : c.isAlpha = true := forall_capital (·.isAlpha = true) (by decide) c capital
    have small : c.toLower.isAlpha = true :=
      forall_capital (fun d => d.toLower.isAlpha = true) (by decide) c capital
    constructor
    · rintro rfl
      rw [small] at caseless
      contradiction
    · rintro rfl
      rw [letter] at caseless
      contradiction
  · rw [toLower_of_not_isUpper c (Bool.not_eq_true _ ▸ capital)]

/-- No letter is blank, in either case. -/
theorem isBlank_toLower (c : Char) : isBlank c.toLower = isBlank c :=
  toLower_congr isBlank (by decide) c

/-- Whether a character is a given mark does not change by folding, if the mark
is no letter. -/
theorem bne_toLower (mark : Char) (caseless : mark.isAlpha = false) (c : Char) :
    (c.toLower != mark) = (c != mark) := by
  simp only [bne, beq_eq_decide, toLower_eq_iff mark caseless c]

/-- A mark that is no letter stands in a folded text exactly if it stands in the
text. -/
theorem mem_folded_iff (mark : Char) (caseless : mark.isAlpha = false) (text : Text) :
    mark ∈ folded text ↔ mark ∈ text := by
  simp only [folded, List.mem_map, toLower_eq_iff mark caseless, exists_eq_right]

/-! ## Cutting a folded text -/

/-- A cut at the first character without a property commutes with folding, if
the property is blind to case. So do the cuts below, which are all made of this
one and the next. -/
theorem takeWhile_folded (p : Char → Bool) (blind : ∀ c, p c.toLower = p c) (text : Text) :
    (folded text).takeWhile p = folded (text.takeWhile p) := by
  have same : p ∘ Char.toLower = p := funext blind
  rw [folded, List.takeWhile_map, same, folded]

/-- What is left behind such a cut is the folded rest. -/
theorem dropWhile_folded (p : Char → Bool) (blind : ∀ c, p c.toLower = p c) (text : Text) :
    (folded text).dropWhile p = folded (text.dropWhile p) := by
  have same : p ∘ Char.toLower = p := funext blind
  rw [folded, List.dropWhile_map, same, folded]

/-- Keeping the characters with a property that is blind to case commutes with
folding. -/
theorem filter_folded (p : Char → Bool) (blind : ∀ c, p c.toLower = p c) (text : Text) :
    (folded text).filter p = folded (text.filter p) := by
  have same : p ∘ Char.toLower = p := funext blind
  rw [folded, List.filter_map, same, folded]

/-- The end of a text is cut as its beginning is, in the reversed text.
Reversing commutes with folding, as both work on single characters. -/
theorem dropTrailing_folded (p : Char → Bool) (blind : ∀ c, p c.toLower = p c) (text : Text) :
    dropTrailing p (folded text) = folded (dropTrailing p text) := by
  have reversed : (folded text).reverse = folded text.reverse := List.map_reverse.symm
  rw [dropTrailing, reversed, dropWhile_folded p blind]
  exact List.map_reverse.symm

/-- A folded text is trimmed to the folded trimmed text, since blanks are not
folded. -/
theorem trim_folded (text : Text) : trim (folded text) = folded (trim text) := by
  rw [trim, dropWhile_folded isBlank isBlank_toLower, dropTrailing_folded isBlank isBlank_toLower,
    trim]

/-- What stands before a mark is folded on its own. No letter may be the mark,
since its other case would be folded onto it. -/
theorem before_folded (mark : Char) (caseless : mark.isAlpha = false) (text : Text) :
    before mark (folded text) = folded (before mark text) :=
  takeWhile_folded _ (bne_toLower mark caseless) text

/-- What stands after a mark is folded on its own. -/
theorem after_folded (mark : Char) (caseless : mark.isAlpha = false) (text : Text) :
    after mark (folded text) = folded (after mark text) := by
  rw [after, dropWhile_folded _ (bne_toLower mark caseless)]
  exact List.map_drop.symm

/-- A folded text is split at a mark into the folded pieces. By induction on the
text: a character that is the mark opens a new piece before and after folding,
and any other one is put in front of the first piece, of which there always is
one. -/
theorem splitOn_folded (mark : Char) (caseless : mark.isAlpha = false) (text : Text) :
    (folded text).splitOn mark = (text.splitOn mark).map folded := by
  induction text with
  | nil => simp [List.splitOn_nil]
  | cons c rest inductionHypothesis =>
    rw [folded_cons, List.splitOn_cons_eq_if_modifyHead, List.splitOn_cons_eq_if_modifyHead,
      inductionHypothesis, beq_eq_decide, beq_eq_decide]
    simp only [toLower_eq_iff mark caseless c]
    obtain ⟨first, others, pieces⟩ := List.exists_cons_of_ne_nil (List.splitOn_ne_nil mark rest)
    rw [pieces]
    split <;> simp

/-- A mark is the first character of a folded text exactly if it is that of the
text. -/
theorem head?_folded_iff (mark : Char) (caseless : mark.isAlpha = false) (text : Text) :
    (folded text).head? = some mark ↔ text.head? = some mark := by
  cases text with
  | nil => rfl
  | cons c rest => simp [toLower_eq_iff mark caseless]

/-- A mark alone is folded to only from itself. -/
theorem folded_eq_singleton_iff (mark : Char) (caseless : mark.isAlpha = false) (text : Text) :
    folded text = [mark] ↔ text = [mark] := by
  simp only [folded, List.map_eq_singleton_iff, toLower_eq_iff mark caseless, exists_eq_right]

/-- A text is empty exactly if the folded text is. -/
theorem isEmpty_folded (text : Text) : (folded text).isEmpty = text.isEmpty := by
  cases text <;> rfl

/-! ## Lower-casing a folded text -/

/-- The lower case of a capital of ASCII is that of its small letter. The table
of lower cases is looked up for all 26 of them. -/
theorem lowerChar_toLower (c : Char) : lowerChar c.toLower = lowerChar c :=
  toLower_congr lowerChar (by decide +kernel) c

/-- Looking for a cased neighbour gives the same in a folded text. A letter is
cased and is not skipped, whether it is a capital or not, so the search ends at
the same place. -/
theorem meetsCased_folded (neighbours : Text) :
    meetsCased (folded neighbours) = meetsCased neighbours := by
  have ignorable := toLower_congr (covered caseIgnorableRanges) (by decide +kernel)
  have cased := toLower_congr (covered casedRanges) (by decide +kernel)
  rw [meetsCased, meetsCased, dropWhile_folded _ ignorable]
  cases neighbours.dropWhile (covered caseIgnorableRanges) with
  | nil => rfl
  | cons c rest => exact cased c

/-- Lower-casing forgets what folding changes, in the text and around it. By
induction on the text, for every text that precedes: the lower case of a sigma
depends on its neighbours on either side, and each character read joins those
that precede. -/
theorem lowerFrom_folded (preceding text : Text) :
    lowerFrom (folded preceding) (folded text) = lowerFrom preceding text := by
  induction text generalizing preceding with
  | nil => rfl
  | cons c rest inductionHypothesis =>
    have behind := inductionHypothesis (c :: preceding)
    rw [folded_cons] at behind
    rw [folded_cons, lowerFrom_cons, lowerFrom_cons, behind, lowerChar_toLower, lowerSigma,
      lowerSigma, meetsCased_folded, meetsCased_folded]
    simp only [toLower_eq_iff 'Σ' (by decide) c]

/-- A text and the folded text have the same lower case. -/
theorem lower_folded (text : Text) : lower (folded text) = lower text :=
  lowerFrom_folded [] text

end Text

/-! ## Splitting a folded line -/

namespace SourceLine

/-- A label is found in a folded line exactly where it is found in the line,
because its colon is no letter. -/
theorem afterLabel_folded (line : Text) :
    afterLabel (Text.folded line) = Text.folded (afterLabel line) := by
  unfold afterLabel
  rw [Text.after_folded ':' (by decide)]
  by_cases labelled : ':' ∈ line
  · rw [if_pos labelled, if_pos ((Text.mem_folded_iff ':' (by decide) line).mpr labelled)]
  · rw [if_neg labelled, if_neg (mt (Text.mem_folded_iff ':' (by decide) line).mp labelled)]

/-- What is left of a folded line without comment, carriage returns and label is
the folded core. None of the marks that are looked for is a letter. -/
theorem core_folded (raw : Text) : core (Text.folded raw) = Text.folded (core raw) := by
  rw [core, Text.before_folded ';' (by decide),
    Text.filter_folded _ (Text.bne_toLower '\r' (by decide)), afterLabel_folded, core]

/-- Folding a line does not change its mnemonic, and it folds what follows. The
mnemonic is put in lower case anyway, and it ends at the same blank. -/
theorem splitMnemonic_folded (text : Text) :
    splitMnemonic (Text.folded text) =
      ((splitMnemonic text).1, Text.folded (splitMnemonic text).2) := by
  have solid (c : Char) : (!Text.isBlank c.toLower) = !Text.isBlank c := by
    rw [Text.isBlank_toLower]
  simp only [splitMnemonic]
  rw [Text.trim_folded, Text.takeWhile_folded _ solid, Text.dropWhile_folded _ solid,
    Text.lower_folded, Text.trim_folded]

/-- The operands of a folded text are the folded operands: the text is split at
the same commas, and each piece is trimmed by itself. -/
theorem splitOperands_folded (text : Text) :
    splitOperands (Text.folded text) = (splitOperands text).map Text.folded := by
  unfold splitOperands
  rw [Text.trim_folded, Text.isEmpty_folded, Text.splitOn_folded ',' (by decide)]
  split
  · rfl
  · simp only [List.map_map]
    exact List.map_congr_left fun piece _ => Text.trim_folded piece

end SourceLine

/-- An instruction with folded operands. -/
def Instruction.folded (instruction : Instruction) : Instruction :=
  { instruction with operands := instruction.operands.map Text.folded }

/-- Folding the operands leaves the mnemonic as it is. -/
theorem Instruction.mnemonic_folded (instruction : Instruction) :
    instruction.folded.mnemonic = instruction.mnemonic := rfl

/-- A folded line is split into the instruction of the line with folded
operands. Both halves go through the core of the line and the cut behind its
mnemonic. -/
theorem Instruction.agrees_folded (line other : Option Int) (raw : Text) :
    (ofLine line (Text.folded raw)).Agrees (ofLine other raw).folded := by
  constructor
  · rw [mnemonic_ofLine, SourceLine.core_folded, SourceLine.splitMnemonic_folded, folded,
      mnemonic_ofLine]
  · rw [operands_ofLine, SourceLine.core_folded, SourceLine.splitMnemonic_folded,
      SourceLine.splitOperands_folded, folded, operands_ofLine]

/-! ## Reading a folded operand -/

namespace Numeral

/-- No letter is a decimal digit, so a folded text is decimal exactly if the
text is. -/
theorem isDecimal_folded (text : Text) : isDecimal (Text.folded text) = isDecimal text := by
  have digit := Text.toLower_congr Char.isDigit (by decide)
  have same : Char.isDigit ∘ Char.toLower = Char.isDigit := funext digit
  rw [isDecimal, isDecimal, Text.isEmpty_folded, Text.folded, List.all_map, same]

/-- The letters among the hexadecimal digits count in either case, so a folded
text is hexadecimal exactly if the text is. -/
theorem isHexadecimal_folded (text : Text) :
    isHexadecimal (Text.folded text) = isHexadecimal text := by
  have digit := Text.toLower_congr isHexDigit (by decide)
  have same : isHexDigit ∘ Char.toLower = isHexDigit := funext digit
  rw [isHexadecimal, isHexadecimal, Text.isEmpty_folded, Text.folded, List.all_map, same]

/-- A digit has the same value in either case, and so has a numeral in every
base. -/
theorem value_folded (base : Nat) (digits : Text) :
    value base (Text.folded digits) = value base digits := by
  have digit := Text.toLower_congr digitValue (by decide)
  simp only [value, Text.folded, List.foldl_map, digit]

/-- Reading a decimal numeral looks at its length and its value only, which
folding keeps. -/
theorem readDecimal_folded (digits : Text) :
    readDecimal (Text.folded digits) = readDecimal digits := by
  rw [readDecimal, readDecimal, Text.length_folded, value_folded]

end Numeral

/-- A fault under the folded token that it is about. -/
def Fault.folded : Fault → Fault
  | .malformedRegister token => .malformedRegister (Text.folded token)
  | .registerOutOfRange token => .registerOutOfRange (Text.folded token)
  | .malformedAddress token => .malformedAddress (Text.folded token)
  | .malformedHexadecimal token => .malformedHexadecimal (Text.folded token)
  | .malformedDecimal token => .malformedDecimal (Text.folded token)
  | fault => fault

namespace Failure

/-- A failure under the folded token that it is about. -/
def folded : Failure → Failure
  | .fault cause => .fault cause.folded
  | .limit excess => .limit excess

/-- The kind of a failure does not depend on the token that the failure is
about. -/
@[simp]
theorem kind?_folded (failure : Failure) : failure.folded.kind? = failure.kind? := by
  cases failure with
  | limit => rfl
  | fault cause => cases cause <;> rfl

end Failure

/-- A folded token names the same register, or fails as the token does. Its
first letter is accepted in either case, and the digits behind it are not
letters; where the token is refused, the fault holds the folded token. -/
theorem Register.read_folded (token : Text) :
    Register.read (Text.folded token) = (Register.read token).mapError Failure.folded := by
  rw [Register.read, Register.read, Text.trim_folded]
  cases Text.trim token with
  | nil => rfl
  | cons letter digits =>
    have marked := Text.toLower_congr (fun c => decide (c = 'R' ∨ c = 'r')) (by decide) letter
    rw [decide_eq_decide] at marked
    simp only [Text.folded_cons, marked, Numeral.isDecimal_folded, Numeral.readDecimal_folded]
    split
    · cases Numeral.readDecimal digits with
      | error limit => rfl
      | ok index =>
        simp only
        split <;> rfl
    · rfl

namespace Immediate

/-- Folded digits give the same magnitude, or the fault under the folded token.
Whether they are decimal digits and how many there are does not change. -/
theorem readMagnitude_folded (token digits : Text) :
    readMagnitude (Text.folded token) (Text.folded digits) =
      (readMagnitude token digits).mapError Failure.folded := by
  rw [readMagnitude, readMagnitude, Numeral.isDecimal_folded, Numeral.readDecimal_folded]
  split
  · cases Numeral.readDecimal digits <;> rfl
  · rfl

/-- A folded token is read as the same immediate, or fails as the token does.
The first character of the trimmed token decides how it is read, and neither a
dollar sign nor a minus sign can come from a letter. So the folded token is read
in the way of the token: as hexadecimal digits, as the negative of a magnitude,
or as a magnitude. -/
theorem read_folded (token : Text) :
    Immediate.read (Text.folded token) = (Immediate.read token).mapError Failure.folded := by
  have whole := Text.trim_folded token
  have unmarked (dollar : (Text.trim token).head? ≠ some '$')
      (minus : (Text.trim token).head? ≠ some '-') :
      Immediate.read (Text.folded token) = (Immediate.read token).mapError Failure.folded := by
    have dollarFolded := mt (Text.head?_folded_iff '$' (by decide) (Text.trim token)).mp dollar
    have minusFolded := mt (Text.head?_folded_iff '-' (by decide) (Text.trim token)).mp minus
    rw [read_of_unmarked _ _ whole dollarFolded minusFolded,
      read_of_unmarked _ _ rfl dollar minus, readMagnitude_folded, exceptMapError_map]
  by_cases dollar : (Text.trim token).head? = some '$'
  · obtain ⟨digits, parts⟩ := List.head?_eq_some_iff.mp dollar
    have foldedParts : Text.trim (Text.folded token) = '$' :: Text.folded digits := by
      rw [whole, parts]
      rfl
    simp only [Immediate.read, foldedParts, parts, Numeral.isHexadecimal_folded,
      Numeral.value_folded]
    split <;> rfl
  · by_cases minus : (Text.trim token).head? = some '-'
    · obtain ⟨digits, parts⟩ := List.head?_eq_some_iff.mp minus
      have foldedParts : Text.trim (Text.folded token) = '-' :: Text.folded digits := by
        rw [whole, parts]
        rfl
      simp only [Immediate.read, foldedParts, parts, readMagnitude_folded, exceptMapError_map]
    · exact unmarked dollar minus

end Immediate

namespace Address

/-- A folded address is cut at the same parentheses as the address, or it has
none in either form. -/
theorem split?_folded (text : Text) :
    split? (Text.folded text) =
      (split? text).map fun (outer, inner) => (Text.folded outer, Text.folded inner) := by
  have closing := Text.dropWhile_folded (· != ')') (Text.bne_toLower ')' (by decide))
    (Text.after '(' text)
  simp only [split?, Text.after_folded '(' (by decide), Text.before_folded '(' (by decide),
    Text.before_folded ')' (by decide), closing, Text.folded_eq_singleton_iff ')' (by decide)]
  split <;> rfl

/-- A folded token is read as the same address, or fails as the token does. The
proof follows the order of the reading: the cut at the parentheses, then the
base register, then an offset if one is written. -/
theorem read_folded (token : Text) :
    Address.read (Text.folded token) = (Address.read token).mapError Failure.folded := by
  simp only [Address.read, Text.trim_folded, Text.mem_folded_iff '(' (by decide), split?_folded,
    Immediate.read_folded]
  split
  · cases split? (Text.trim token) with
    | none => rfl
    | some parts =>
      obtain ⟨outer, inner⟩ := parts
      simp only [Option.map_some, Text.trim_folded, Register.read_folded, Text.isEmpty_folded,
        Immediate.read_folded]
      cases Register.read (Text.trim inner) with
      | error failure => rfl
      | ok base =>
        simp only [Except.mapError]
        split
        · rfl
        · cases Immediate.read (Text.trim outer) <;> rfl
  · rw [exceptMapError_map]

end Address

/-! ## Encoding a folded line -/

namespace Operands

/-- A folded token is bound in every role to the same operands, or fails as the
token does. -/
theorem bind_folded (operands : Operands) (role : Role) (token : Text) :
    operands.bind role (Text.folded token) =
      (operands.bind role token).mapError Failure.folded := by
  cases role <;> simp only [bind, Register.read_folded, Immediate.read_folded,
    Address.read_folded, exceptMapError_map]

/-- Folded tokens are bound one by one as the tokens are, up to the first that
fails. By induction on the tokens, for all operands bound so far and every form;
a failure ends both at the same token. -/
theorem bindAll_folded (operands : Operands) (form : List Role) (tokens : List Text) :
    operands.bindAll form (tokens.map Text.folded) =
      (operands.bindAll form tokens).mapError Failure.folded := by
  induction tokens generalizing operands form with
  | nil => rw [List.map_nil, bindAll_nil]; rfl
  | cons token tokens inductionHypothesis =>
    cases form with
    | nil => rfl
    | cons role form =>
      rw [List.map_cons, bindAll_cons, bindAll_cons, bind_folded]
      cases operands.bind role token with
      | error failure => rfl
      | ok next => exact inductionHypothesis next form

/-- An immediate out of range is refused without its token. -/
theorem folded_outOfRange (width : Nat) (value : Int) :
    (outOfRange width value).folded = outOfRange width value := by
  unfold outOfRange
  split <;> rfl

/-- Making the fields of bound operands fails under no token, so there is
nothing to fold. The only failure is that of an immediate out of range, at the
first span that takes it. -/
theorem fieldsOf_folded (operands : Operands) (spec : Spec Role) (spans : List Span) :
    (operands.fieldsOf spec spans).mapError Failure.folded = operands.fieldsOf spec spans := by
  induction spans with
  | nil => rfl
  | cons span spans inductionHypothesis =>
    rw [fieldsOf, field_eq]
    by_cases misfit : span.slot = .imm ∧ Bits.fitsSigned span.width operands.imm = false
    · simp only [if_pos misfit, Except.mapError, folded_outOfRange]
    · simp only [if_neg misfit, exceptMapError_map, inductionHypothesis]

end Operands

namespace Instruction

/-- Instructions that agree have the same fields, since fields come from the
mnemonic and the operands. -/
theorem Agrees.fields_eq {left right : Instruction} (agrees : left.Agrees right) :
    left.fields = right.fields := by
  obtain ⟨mnemonic, operands⟩ := agrees
  simp only [fields, spec, resolve, mnemonic, operands]

/-- The mnemonic is not folded, so neither is the fault that names it. An
instruction is looked up alike with folded operands. -/
theorem spec_folded (instruction : Instruction) :
    instruction.spec.mapError Failure.folded = instruction.folded.spec := by
  simp only [spec, folded]
  cases InstructionSet.find? instruction.mnemonic <;> rfl

/-- With folded operands an instruction is resolved to the same operands, or
fails in the same way. Their number is the same, so the count is refused in both
or in neither. -/
theorem resolve_folded (instruction : Instruction) (spec : Spec Role) :
    (instruction.resolve spec).mapError Failure.folded = instruction.folded.resolve spec := by
  simp only [resolve, folded, List.length_map, Operands.bindAll_folded]
  split <;> rfl

/-- With folded operands an instruction has the same fields, or fails in the
same way. The three stages are composed: each commutes with folding its failure. -/
theorem fields_folded (instruction : Instruction) :
    instruction.fields.mapError Failure.folded = instruction.folded.fields := by
  simp only [fields_eq_bind, exceptMapError_bind, spec_folded, resolve_folded,
    Operands.fieldsOf_folded]

/-- Two encodings are alike: both are the same word, made of the same fields
under the same mnemonic, or both fail and are reported under the same kind. -/
inductive EncodedAlike : Except Failure Encoded → Except Failure Encoded → Prop where
  | words (left right : Encoded) (word : left.word = right.word)
      (fields : left.fields = right.fields) (mnemonic : left.mnemonic = right.mnemonic) :
      EncodedAlike (.ok left) (.ok right)
  | failures (left right : Failure) (kind : left.kind? = right.kind?) :
      EncodedAlike (.error left) (.error right)

/-- Instructions with the same mnemonic are encoded alike if their fields are
the same, or fail to be so under tokens that are folded to the same. A word and
a failure cannot stand opposite each other, because folding a failure never
makes it fields. -/
theorem encodedAlike_of_fields (left right : Instruction)
    (mnemonic : left.mnemonic = right.mnemonic)
    (same : left.fields.mapError Failure.folded = right.fields.mapError Failure.folded) :
    EncodedAlike left.encode right.encode := by
  rw [encode_eq, encode_eq]
  cases leftFields : left.fields with
  | ok fields =>
    cases rightFields : right.fields with
    | ok others =>
      rw [leftFields, rightFields] at same
      obtain rfl : fields = others := Except.ok.inj same
      exact .words _ _ rfl rfl mnemonic
    | error failure =>
      rw [leftFields, rightFields] at same
      contradiction
  | error failure =>
    cases rightFields : right.fields with
    | ok others =>
      rw [leftFields, rightFields] at same
      contradiction
    | error other =>
      rw [leftFields, rightFields] at same
      have foldedSame : failure.folded = other.folded := Except.error.inj same
      refine .failures _ _ ?_
      rw [← failure.kind?_folded, foldedSame, other.kind?_folded]

/-- The case of ASCII letters in a line does not matter: in either case the line
is encoded as the same word with the same fields, or it fails under the same
kind. Both lines are folded to one, and each agrees with that one up to the
folding of its operands. -/
theorem encode_recased (line other : Option Int) (text variant : Text)
    (recased : Text.Recased text variant) :
    EncodedAlike (ofLine line text).encode (ofLine other variant).encode := by
  have agrees := agrees_folded line line text
  have agreesVariant := agrees_folded line other variant
  rw [← recased.folded_eq] at agreesVariant
  apply encodedAlike_of_fields
  · rw [← mnemonic_folded (ofLine line text), ← mnemonic_folded (ofLine other variant)]
    exact agrees.mnemonic.symm.trans agreesVariant.mnemonic
  · rw [fields_folded, fields_folded, ← agrees.fields_eq, ← agreesVariant.fields_eq]

/-- A store with all its letters in the other case, also in its label and its
comment, is the same word. -/
theorem encode_recased_store :
    ∃ left right, (ofLine none "on: st $Ff(r2), R1 ; Note".toList).encode = .ok left ∧
      (ofLine (some 3) "ON: ST $fF(R2), r1 ; nOTE".toList).encode = .ok right ∧
      left.word = right.word ∧ left.fields = right.fields ∧ left.mnemonic = right.mnemonic := by
  obtain ⟨left, success⟩ : ∃ left,
      (ofLine none "on: st $Ff(r2), R1 ; Note".toList).encode = .ok left := ⟨_, rfl⟩
  have alike := encode_recased none (some 3) "on: st $Ff(r2), R1 ; Note".toList
    "ON: ST $fF(R2), r1 ; nOTE".toList (by decide)
  rw [success] at alike
  generalize (ofLine (some 3) "ON: ST $fF(R2), r1 ; nOTE".toList).encode = variant at alike ⊢
  cases alike with
  | words _ right word fields mnemonic =>
    exact ⟨left, right, success, rfl, word, fields, mnemonic⟩

end Instruction

end LineAssembler
