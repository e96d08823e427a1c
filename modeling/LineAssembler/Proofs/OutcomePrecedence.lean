import LineAssembler.Proofs.FaultIsolation

/-!
# Which failure comes first

A line may be wrong in several ways at once, and only one of them is reported. The
order is fixed: the mnemonic, the number of operands, the operands from left to
right, and the range of the immediate only after all operands. Inside an address the
parentheses come first, then the base register, then the offset.

Failures are described here by the shape of a trimmed token, apart from how it is
read. A token in a role either has a meaning or fails in exactly one way, and so an
instruction ends in exactly one way. Every failure is given in full, so that the
wording and the hint that are reported follow from it, and with the kind under which
it is reported. Only a conversion past the digit limit has no kind.
-/

namespace LineAssembler

/-! ## Failures of a token -/

/-- The shape of a register name: an R in either case before decimal digits,
however many and of whatever value. -/
inductive Register.Shaped : Text → Prop where
  | intro (letter : Char) (digits : Text) (marked : letter = 'R' ∨ letter = 'r')
      (nonempty : digits ≠ []) (decimal : ∀ c ∈ digits, c.isDigit = true) :
      Register.Shaped (letter :: digits)

/-- How a token fails as a register: the failure and its kind. Both faults are
reported as a malformed register. -/
inductive Register.Fails (token : Text) : Failure → Option FaultKind → Prop where
  | malformed (shapeless : ¬Register.Shaped (Text.trim token)) :
      Register.Fails token (.fault (.malformedRegister token)) (some .malformedRegister)
  | overlong (letter : Char) (digits : Text) (parts : Text.trim token = letter :: digits)
      (marked : letter = 'R' ∨ letter = 'r') (overlong : Numeral.Overlong digits) :
      Register.Fails token (.limit (.reading digits.length)) none
  | outOfRange (letter : Char) (digits : Text) (parts : Text.trim token = letter :: digits)
      (marked : letter = 'R' ∨ letter = 'r') (readable : Numeral.Readable digits)
      (large : 16 ≤ Numeral.value 10 digits) :
      Register.Fails token (.fault (.registerOutOfRange token)) (some .malformedRegister)

/-- The shape of an immediate: hexadecimal digits after a dollar sign, or
decimal digits with or without a minus sign, however many. -/
inductive Immediate.Shaped : Text → Prop where
  | hexadecimal (digits : Text) (nonempty : digits ≠ [])
      (hexadecimal : ∀ c ∈ digits, Numeral.isHexDigit c = true) :
      Immediate.Shaped ('$' :: digits)
  | decimal (digits : Text) (nonempty : digits ≠ [])
      (decimal : ∀ c ∈ digits, c.isDigit = true) : Immediate.Shaped digits
  | negative (digits : Text) (nonempty : digits ≠ [])
      (decimal : ∀ c ∈ digits, c.isDigit = true) : Immediate.Shaped ('-' :: digits)

/-- How a token fails as an immediate: the failure and its kind. Both faults are
reported as a malformed immediate; a dollar sign decides between their wordings. -/
inductive Immediate.Fails (token : Text) : Failure → Option FaultKind → Prop where
  | hexadecimal (shapeless : ¬Immediate.Shaped (Text.trim token))
      (marked : (Text.trim token).head? = some '$') :
      Immediate.Fails token (.fault (.malformedHexadecimal token)) (some .malformedImmediate)
  | decimal (shapeless : ¬Immediate.Shaped (Text.trim token))
      (unmarked : (Text.trim token).head? ≠ some '$') :
      Immediate.Fails token (.fault (.malformedDecimal token)) (some .malformedImmediate)
  | overlong (digits : Text)
      (parts : Text.trim token = digits ∨ Text.trim token = '-' :: digits)
      (overlong : Numeral.Overlong digits) :
      Immediate.Fails token (.limit (.reading digits.length)) none

/-- A text is an outer part and an inner part in parentheses. The outer part
opens no parenthesis and the inner part closes none, so there is at most one
such reading. -/
structure Address.Parts (text outer inner : Text) : Prop where
  whole : text = outer ++ '(' :: inner ++ [')']
  alone : '(' ∉ outer
  closed : ')' ∉ inner

/-- How a token fails as an address: as the immediate that it is without
parentheses, by its parentheses, by its base, or by an offset that is more than
blanks. The fault of the parentheses is reported as a malformed register. -/
inductive Address.Fails (token : Text) : Failure → Option FaultKind → Prop where
  | immediate (failure : Failure) (kind : Option FaultKind) (unopened : '(' ∉ Text.trim token)
      (fails : Immediate.Fails (Text.trim token) failure kind) : Address.Fails token failure kind
  | malformed (opened : '(' ∈ Text.trim token)
      (shapeless : ¬∃ outer inner, Address.Parts (Text.trim token) outer inner) :
      Address.Fails token (.fault (.malformedAddress token)) (some .malformedRegister)
  | base (outer inner : Text) (failure : Failure) (kind : Option FaultKind)
      (parts : Address.Parts (Text.trim token) outer inner)
      (fails : Register.Fails (Text.trim inner) failure kind) : Address.Fails token failure kind
  | offset (outer inner : Text) (base : Register) (failure : Failure) (kind : Option FaultKind)
      (parts : Address.Parts (Text.trim token) outer inner)
      (named : Register.Named (Text.trim inner) base) (solid : ¬Text.AllBlank outer)
      (fails : Immediate.Fails (Text.trim outer) failure kind) : Address.Fails token failure kind

namespace Register

/-- Every failure of a register has the kind that is given with it. The kind is
written out in each case of the relation and is compared here with the one under
which the failure is reported. -/
theorem Fails.kind?_eq {token : Text} {failure : Failure} {kind : Option FaultKind}
    (fails : Register.Fails token failure kind) : failure.kind? = kind := by
  cases fails <;> rfl

/-- A token that fails as a register is refused in that way. Each case fixes one
check of the reading: a token of another shape passes neither the letter nor the
digits, and a shaped one goes on to its length and then to its index. -/
theorem read_of_fails (token : Text) (failure : Failure) (kind : Option FaultKind)
    (fails : Register.Fails token failure kind) : Register.read token = .error failure := by
  cases fails with
  | malformed shapeless =>
    simp only [Register.read]
    split
    case h_1 => rfl
    case h_2 letter digits parts =>
      refine if_neg ?_
      rintro ⟨marked, decimal⟩
      obtain ⟨nonempty, digitsOnly⟩ := (Numeral.isDecimal_iff digits).mp decimal
      exact shapeless (parts ▸ .intro letter digits marked nonempty digitsOnly)
  | overlong letter digits parts marked overlong =>
    simp only [Register.read, parts, marked, overlong.isDecimal, overlong.readDecimal, and_self,
      if_true]
  | outOfRange letter digits parts marked readable large =>
    simp only [Register.read, parts, marked, readable.isDecimal, readable.readDecimal, and_self,
      if_true, dif_neg (Nat.not_lt_of_le large)]

/-- A token names a register or fails as one. A token of the right shape has
decimal digits, which are too long, or too large for an index, or name a
register. -/
theorem named_or_fails (token : Text) :
    (∃ register, Register.Named (Text.trim token) register) ∨
      ∃ failure, Register.Fails token failure failure.kind? := by
  by_cases shaped : Register.Shaped (Text.trim token)
  · generalize parts : Text.trim token = text at shaped
    obtain ⟨letter, digits, marked, nonempty, decimal⟩ := shaped
    have digitsOnly := (Numeral.isDecimal_iff digits).mpr ⟨nonempty, decimal⟩
    rcases Numeral.readable_or_overlong digits digitsOnly with readable | overlong
    · rcases Nat.lt_or_ge (Numeral.value 10 digits) 16 with small | large
      · exact Or.inl ⟨⟨_, small⟩, .intro letter digits _ marked readable rfl⟩
      · exact Or.inr ⟨_, .outOfRange letter digits parts marked readable large⟩
    · exact Or.inr ⟨_, .overlong letter digits parts marked overlong⟩
  · exact Or.inr ⟨_, .malformed shaped⟩

/-- Reading a register fails exactly in the ways of its token. A token with a
name is read and one that fails is refused, so of the two nothing is left open. -/
theorem read_eq_error_iff (token : Text) (failure : Failure) :
    Register.read token = .error failure ↔ Register.Fails token failure failure.kind? :=
  exceptEq_error_iff (Register.classified_read token).ok (fun _ => read_of_fails token _ _)
    (named_or_fails token) failure

end Register

namespace Immediate

/-- A magnitude that is no decimal numeral is a fault of its token, also where a
minus sign has been taken off before. -/
theorem readMagnitude_of_not_decimal (token digits : Text)
    (malformed : ¬(digits ≠ [] ∧ ∀ c ∈ digits, c.isDigit = true)) :
    readMagnitude token digits = .error (.fault (.malformedDecimal token)) :=
  if_neg (mt (Numeral.isDecimal_iff digits).mp malformed)

/-- An overlong magnitude runs into the digit limit with its length. -/
theorem readMagnitude_of_overlong (token digits : Text) (overlong : Numeral.Overlong digits) :
    readMagnitude token digits = .error (.limit (.reading digits.length)) := by
  rw [readMagnitude, if_pos overlong.isDecimal, overlong.readDecimal]
  rfl

/-- Every failure of an immediate has the kind that is given with it. -/
theorem Fails.kind?_eq {token : Text} {failure : Failure} {kind : Option FaultKind}
    (fails : Immediate.Fails token failure kind) : failure.kind? = kind := by
  cases fails <;> rfl

/-- A token that fails as an immediate is refused in that way. A shapeless token
is refused by the check of the form that its first character selects; a decimal
numeral that is too long passes that check and runs into the limit. -/
theorem read_of_fails (token : Text) (failure : Failure) (kind : Option FaultKind)
    (fails : Immediate.Fails token failure kind) : Immediate.read token = .error failure := by
  cases fails with
  | hexadecimal shapeless marked =>
    obtain ⟨digits, parts⟩ := List.head?_eq_some_iff.mp marked
    rw [Immediate.read, parts]
    refine if_neg ?_
    intro hexadecimal
    obtain ⟨nonempty, digitsOnly⟩ := (Numeral.isHexadecimal_iff digits).mp hexadecimal
    exact shapeless (parts ▸ .hexadecimal digits nonempty digitsOnly)
  | decimal shapeless unmarked =>
    rw [Immediate.read]
    split
    case h_1 digits parts => exact absurd (by rw [parts]; rfl) unmarked
    case h_2 digits parts =>
      rw [readMagnitude_of_not_decimal]
      · rfl
      · rintro ⟨nonempty, digitsOnly⟩
        exact shapeless (parts ▸ .negative digits nonempty digitsOnly)
    case h_3 =>
      rw [readMagnitude_of_not_decimal]
      · rfl
      · rintro ⟨nonempty, digitsOnly⟩
        exact shapeless (.decimal _ nonempty digitsOnly)
  | overlong digits parts overlong =>
    rcases parts with unsigned | signed
    · rw [read_of_digits token digits unsigned overlong.digits,
        readMagnitude_of_overlong token digits overlong]
      rfl
    · rw [Immediate.read, signed]
      simp only [readMagnitude_of_overlong token digits overlong]
      rfl

/-- A token is a literal or fails as an immediate. A shaped token can fail only
in its length, and only in the two decimal forms; a shapeless one fails by the
wording that its dollar sign selects. -/
theorem literal_or_fails (token : Text) :
    (∃ value, Immediate.Literal (Text.trim token) value) ∨
      ∃ failure, Immediate.Fails token failure failure.kind? := by
  by_cases shaped : Immediate.Shaped (Text.trim token)
  · generalize parts : Text.trim token = text at shaped
    cases shaped with
    | hexadecimal digits nonempty hexadecimal =>
      exact Or.inl ⟨_, .hexadecimal digits nonempty hexadecimal⟩
    | decimal _ nonempty decimal =>
      have digitsOnly := (Numeral.isDecimal_iff text).mpr ⟨nonempty, decimal⟩
      rcases Numeral.readable_or_overlong text digitsOnly with readable | overlong
      · exact Or.inl ⟨_, .decimal text readable⟩
      · exact Or.inr ⟨_, .overlong text (Or.inl parts) overlong⟩
    | negative digits nonempty decimal =>
      have digitsOnly := (Numeral.isDecimal_iff digits).mpr ⟨nonempty, decimal⟩
      rcases Numeral.readable_or_overlong digits digitsOnly with readable | overlong
      · exact Or.inl ⟨_, .negative digits readable⟩
      · exact Or.inr ⟨_, .overlong digits (Or.inr parts) overlong⟩
  · by_cases marked : (Text.trim token).head? = some '$'
    · exact Or.inr ⟨_, .hexadecimal shaped marked⟩
    · exact Or.inr ⟨_, .decimal shaped marked⟩

/-- Reading an immediate fails exactly in the ways of its token. -/
theorem read_eq_error_iff (token : Text) (failure : Failure) :
    Immediate.read token = .error failure ↔ Immediate.Fails token failure failure.kind? :=
  exceptEq_error_iff (Immediate.classified_read token).ok (fun _ => read_of_fails token _ _)
    (literal_or_fails token) failure

end Immediate

namespace Address

/-- The parts of an address are those that it is split into, so the relation and
the cut of the reading are one. -/
theorem split?_eq_some_iff_parts (text outer inner : Text) :
    split? text = some (outer, inner) ↔ Address.Parts text outer inner := by
  rw [split?_eq_some_iff]
  constructor
  · rintro ⟨whole, alone, closed⟩
    exact ⟨whole, alone, closed⟩
  · rintro ⟨whole, alone, closed⟩
    exact ⟨whole, alone, closed⟩

/-- An address is cut into parts in one way, because the cut yields one pair. -/
theorem Parts.unique {text outer inner otherOuter otherInner : Text}
    (parts : Parts text outer inner) (others : Parts text otherOuter otherInner) :
    outer = otherOuter ∧ inner = otherInner := by
  have split := (split?_eq_some_iff_parts text outer inner).mpr parts
  rw [(split?_eq_some_iff_parts text otherOuter otherInner).mpr others] at split
  exact Prod.mk.inj (Option.some.inj split.symm)

/-- An address with parts fails by its base, or by its offset if the base is a
register and the offset is more than blanks. The base is read first, so its
failure hides that of the offset; an offset of blanks is not read at all. -/
theorem read_eq_error_iff_of_parts (token outer inner : Text)
    (parts : Address.Parts (Text.trim token) outer inner) (failure : Failure) :
    Address.read token = .error failure ↔
      Register.Fails (Text.trim inner) failure failure.kind? ∨
        ∃ base, Register.Named (Text.trim inner) base ∧ ¬Text.AllBlank outer ∧
          Immediate.Fails (Text.trim outer) failure failure.kind? := by
  have base := Register.classified_read (Text.trim inner)
  rw [Text.trim_trim] at base
  rw [read_of_split token outer inner parts.whole parts.alone parts.closed,
    exceptBind_eq_error_iff, Register.read_eq_error_iff]
  refine or_congr Iff.rfl (exists_congr fun register => ?_)
  rw [base.eq_ok_iff, ← Text.trim_eq_nil_iff]
  refine and_congr Iff.rfl ?_
  by_cases blank : Text.trim outer = []
  · simp [blank]
  · simp [blank, exceptMap_eq_error_iff, Immediate.read_eq_error_iff]

/-- Every failure of an address has the kind that is given with it. Three of the
cases pass on the failure of a part together with its kind. -/
theorem Fails.kind?_eq {token : Text} {failure : Failure} {kind : Option FaultKind}
    (fails : Address.Fails token failure kind) : failure.kind? = kind := by
  cases fails with
  | malformed => rfl
  | immediate _ _ _ fails | base _ _ _ _ _ fails | offset _ _ _ _ _ _ _ _ fails =>
    exact fails.kind?_eq

/-- Reading an address fails exactly in the ways of its token. The cases are
tried in the order of the reading: without parentheses, with broken ones, and
with parts. -/
theorem read_eq_error_iff (token : Text) (failure : Failure) :
    Address.read token = .error failure ↔ Address.Fails token failure failure.kind? := by
  by_cases opened : '(' ∈ Text.trim token
  · cases split : split? (Text.trim token) with
    | none =>
      have shapeless : ¬∃ outer inner, Address.Parts (Text.trim token) outer inner := by
        rintro ⟨outer, inner, parts⟩
        rw [(split?_eq_some_iff_parts _ outer inner).mpr parts] at split
        contradiction
      have refused : Address.read token = .error (.fault (.malformedAddress token)) := by
        simp [Address.read, opened, split]
      rw [refused, Except.error.injEq]
      constructor
      · rintro rfl
        exact .malformed opened shapeless
      · intro fails
        cases fails with
        | immediate _ _ unopened _ => exact absurd opened unopened
        | malformed _ _ => rfl
        | base outer inner _ _ parts _ => exact absurd ⟨outer, inner, parts⟩ shapeless
        | offset outer inner _ _ _ parts _ _ _ => exact absurd ⟨outer, inner, parts⟩ shapeless
    | some pieces =>
      obtain ⟨outer, inner⟩ := pieces
      have parts := (split?_eq_some_iff_parts _ outer inner).mp split
      rw [read_eq_error_iff_of_parts token outer inner parts]
      constructor
      · rintro (fails | ⟨base, named, solid, fails⟩)
        · exact .base outer inner failure _ parts fails
        · exact .offset outer inner base failure _ parts named solid fails
      · intro fails
        cases fails with
        | immediate _ _ unopened _ => exact absurd opened unopened
        | malformed _ shapeless => exact absurd ⟨outer, inner, parts⟩ shapeless
        | base _ _ _ _ others fails =>
          obtain ⟨rfl, rfl⟩ := parts.unique others
          exact Or.inl fails
        | offset _ _ base _ _ others named solid fails =>
          obtain ⟨rfl, rfl⟩ := parts.unique others
          exact Or.inr ⟨base, named, solid, fails⟩
  · rw [read_of_not_mem token opened, exceptMap_eq_error_iff, Immediate.read_eq_error_iff]
    constructor
    · exact .immediate failure _ opened
    · intro fails
      cases fails with
      | immediate _ _ _ fails => exact fails
      | malformed unopened _ => exact absurd unopened opened
      | base _ _ _ _ parts _ => exact absurd (by simp [parts.whole]) opened
      | offset _ _ _ _ _ parts _ _ _ => exact absurd (by simp [parts.whole]) opened

end Address

/-! ## Failures of a list of tokens -/

/-- How a token fails in a role: the failure and its kind. -/
def Role.Fails : Role → Text → Failure → Option FaultKind → Prop
  | .ra | .rb | .rc => Register.Fails
  | .imm => Immediate.Fails
  | .addr => Address.Fails

/-- Every failure in a role has the kind that is given with it, as the failures
of registers, immediates and addresses do. -/
theorem Role.Fails.kind?_eq {role : Role} {token : Text} {failure : Failure}
    {kind : Option FaultKind} (fails : role.Fails token failure kind) : failure.kind? = kind := by
  cases role with
  | ra | rb | rc => exact Register.Fails.kind?_eq fails
  | imm => exact Immediate.Fails.kind?_eq fails
  | addr => exact Address.Fails.kind?_eq fails

/-- The failure of the leftmost token that has no meaning in its role, and its
kind. -/
inductive Role.FirstFails : List Role → List Text → Failure → Option FaultKind → Prop where
  | here (role : Role) (form : List Role) (token : Text) (tokens : List Text) (failure : Failure)
      (kind : Option FaultKind) (fails : role.Fails token failure kind) :
      Role.FirstFails (role :: form) (token :: tokens) failure kind
  | later (role : Role) (form : List Role) (token : Text) (tokens : List Text) (failure : Failure)
      (kind : Option FaultKind) (operands : Operands)
      (means : operands.Means role (Text.trim token))
      (rest : Role.FirstFails form tokens failure kind) :
      Role.FirstFails (role :: form) (token :: tokens) failure kind

/-- The failure of the leftmost token has the kind that is given with it. The
induction passes over the tokens before it. -/
theorem Role.FirstFails.kind?_eq {form : List Role} {tokens : List Text} {failure : Failure}
    {kind : Option FaultKind} (fails : Role.FirstFails form tokens failure kind) :
    failure.kind? = kind := by
  induction fails with
  | here _ _ _ _ _ _ fails => exact fails.kind?_eq
  | later _ _ _ _ _ _ _ _ _ inductionHypothesis => exact inductionHypothesis

namespace Operands

/-- One token fails exactly in the ways of its role, whatever has been read
before. Binding adds nothing to reading but the place of the value. -/
theorem bind_eq_error_iff (start : Operands) (role : Role) (token : Text) (failure : Failure) :
    start.bind role token = .error failure ↔ role.Fails token failure failure.kind? := by
  cases role <;> simp only [bind, exceptMap_eq_error_iff, Register.read_eq_error_iff,
    Immediate.read_eq_error_iff, Address.read_eq_error_iff, Role.Fails]

/-- A list of tokens fails exactly as its leftmost token without a meaning does.
The induction is on the tokens; the values read so far play no part in it. -/
theorem bindAll_eq_error_iff (form : List Role) (tokens : List Text) (start : Operands)
    (failure : Failure) :
    start.bindAll form tokens = .error failure ↔
      Role.FirstFails form tokens failure failure.kind? := by
  induction tokens generalizing form start with
  | nil =>
    rw [bindAll_nil]
    constructor
    · intro impossible
      contradiction
    · intro impossible
      cases impossible
  | cons token tokens inductionHypothesis =>
    cases form with
    | nil =>
      constructor
      · intro impossible
        contradiction
      · intro impossible
        cases impossible
    | cons role form =>
      rw [bindAll_cons, exceptBind_eq_error_iff, bind_eq_error_iff]
      constructor
      · rintro (fails | ⟨next, first, later⟩)
        · exact .here role form token tokens failure _ fails
        · have means := ((bind_eq_ok_iff start next role token).mp first).1
          have rest := (inductionHypothesis form next).mp later
          exact .later role form token tokens failure _ next means rest
      · intro fails
        cases fails with
        | here _ _ _ _ _ _ fails => exact Or.inl fails
        | later _ _ _ _ _ _ value means rest =>
          have first := bind_of_means start value role token means
          exact Or.inr ⟨_, first, (inductionHypothesis form _).mpr rest⟩

/-- Where all immediate spans have one width, filling spans fails with that
width if an immediate span does not fit its value. By induction on the spans:
the first misfit decides, and a span before it is filled without changing that. -/
theorem fieldsOf_of_misfit (operands : Operands) (spec : Spec Role) (spans : List Span)
    (width : Nat) (uniform : ∀ span ∈ spans, span.slot = .imm → span.width = width)
    (misfit : ∃ span ∈ spans, span.slot = .imm ∧ Bits.fitsSigned span.width operands.imm = false) :
    operands.fieldsOf spec spans = .error (outOfRange width operands.imm) := by
  induction spans with
  | nil => simp at misfit
  | cons span spans inductionHypothesis =>
    rw [fieldsOf, field_eq]
    by_cases first : span.slot = .imm ∧ Bits.fitsSigned span.width operands.imm = false
    · rw [if_pos first, uniform span List.mem_cons_self first.1]
    · have later : ∃ span ∈ spans,
          span.slot = .imm ∧ Bits.fitsSigned span.width operands.imm = false := by
        simpa only [List.exists_mem_cons_iff, first, false_or] using misfit
      have rest := inductionHypothesis
        (fun other member => uniform other (List.mem_cons_of_mem span member)) later
      rw [if_neg first]
      simp only [rest, Except.map]

end Operands

/-- An immediate out of range keeps an instruction of the set from being filled.
Suppose that no span misfits; then the immediate fits in all its spans, which by
the table of instructions means that it is in range. -/
theorem InstructionSet.fieldsOf_of_not_inRange (entry : InstructionSet.Entry)
    (member : entry ∈ InstructionSet.table) (operands : Operands)
    (outside : operands.ZeroOutside entry.spec.form) (large : ¬Immediate.InRange operands.imm) :
    operands.fieldsOf entry.spec entry.spec.layout.spans =
      .error (Operands.outOfRange Span.imm.width operands.imm) := by
  apply Operands.fieldsOf_of_misfit operands entry.spec _ _ entry.spec.layout.width_imm
  by_contra everywhere
  refine large ((InstructionSet.immediate_fits_iff entry member operands outside).mp ?_)
  intro span placed immediate
  by_contra misfit
  exact everywhere ⟨span, placed, immediate, Bool.not_eq_true _ ▸ misfit⟩

/-! ## Ends of an instruction -/

/-- A failure with the kind under which it is reported. -/
def Failure.classified (failure : Failure) : Failure × Option FaultKind := (failure, failure.kind?)

namespace Instruction

/-- The entry of the set that an instruction names, in any case. -/
structure Names (instruction : Instruction) (entry : InstructionSet.Entry) : Prop where
  member : entry ∈ InstructionSet.table
  same : entry.mnemonic = Text.lower instruction.mnemonic

/-- The operands that all tokens of an instruction mean in their roles. Whether
the immediate is in range is left open. -/
structure Resolves (instruction : Instruction) (entry : InstructionSet.Entry)
    (operands : Operands) : Prop extends instruction.Names entry where
  meanings : List.Forall₂ (fun role token => operands.Means role (Text.trim token))
    entry.spec.form instruction.operands
  outside : operands.ZeroOutside entry.spec.form

/-- How encoding an instruction ends: with an encoded line, or with a failure
and its kind. No two of the cases apply to one instruction: each asks for what
the cases before it lack. -/
inductive Ends (instruction : Instruction) :
    Except (Failure × Option FaultKind) Encoded → Prop where
  | unknown (nameless : ∀ entry, ¬instruction.Names entry) :
      Ends instruction
        (.error (.fault (.unknownMnemonic instruction.mnemonic), some .unknownMnemonic))
  | miscounted (entry : InstructionSet.Entry) (names : instruction.Names entry)
      (different : instruction.operands.length ≠ entry.spec.form.length) :
      Ends instruction (.error
        (.fault (.operandCount instruction.mnemonic entry.spec.form instruction.operands.length),
          some .operandCountMismatch))
  | operand (entry : InstructionSet.Entry) (names : instruction.Names entry)
      (counted : instruction.operands.length = entry.spec.form.length) (failure : Failure)
      (kind : Option FaultKind)
      (fails : Role.FirstFails entry.spec.form instruction.operands failure kind) :
      Ends instruction (.error (failure, kind))
  | unwritable (entry : InstructionSet.Entry) (operands : Operands)
      (resolves : instruction.Resolves entry operands)
      (large : ¬Immediate.InRange operands.imm)
      (long : Numeral.digitLimit < (Numeral.ofNat operands.imm.natAbs).length) :
      Ends instruction (.error (.limit .writing, none))
  | outOfRange (entry : InstructionSet.Entry) (operands : Operands)
      (resolves : instruction.Resolves entry operands)
      (large : ¬Immediate.InRange operands.imm)
      (short : (Numeral.ofNat operands.imm.natAbs).length ≤ Numeral.digitLimit) :
      Ends instruction (.error
        (.fault (.immediateOutOfRange Span.imm.width operands.imm), some .immediateOutOfRange))
  | encoded (entry : InstructionSet.Entry) (operands : Operands)
      (resolves : instruction.Resolves entry operands)
      (range : Immediate.InRange operands.imm) :
      Ends instruction (.ok (instruction.encodedWith entry.spec operands))

/-- An instruction has the specification of the entry that it names. -/
theorem Names.spec_eq {instruction : Instruction} {entry : InstructionSet.Entry}
    (names : instruction.Names entry) : instruction.spec = .ok entry.spec :=
  (spec_eq_ok_iff instruction entry.spec).mpr ⟨entry, names.member, names.same, rfl⟩

/-- An instruction that names no entry has no specification, since an entry that
is found would be one that it names. -/
theorem spec_of_nameless (instruction : Instruction)
    (nameless : ∀ entry, ¬instruction.Names entry) :
    instruction.spec = .error (.fault (.unknownMnemonic instruction.mnemonic)) := by
  unfold spec
  split
  case h_1 spec found =>
    obtain ⟨entry, member, same, _⟩ := (InstructionSet.find?_eq_some_iff _ spec).mp found
    exact absurd ⟨member, same⟩ (nameless entry)
  case h_2 => rfl

/-- An instruction resolves to operands exactly when resolving its tokens
succeeds. The relation speaks of the meanings of the tokens and of the slots
that no role fills, and so does the result of the resolving. -/
theorem resolves_iff (instruction : Instruction) (entry : InstructionSet.Entry)
    (names : instruction.Names entry) (operands : Operands) :
    instruction.Resolves entry operands ↔ instruction.resolve entry.spec = .ok operands := by
  rw [resolve_eq_ok_iff instruction entry names.member]
  constructor
  · intro resolves
    exact ⟨resolves.meanings, resolves.outside⟩
  · rintro ⟨meanings, outside⟩
    exact ⟨names, meanings, outside⟩

/-- Encoding an instruction that names an entry resolves its operands and fills
the layout of the entry. From here on only those two steps can fail. -/
theorem Names.encode_eq {instruction : Instruction} {entry : InstructionSet.Entry}
    (names : instruction.Names entry) :
    instruction.encode =
      ((instruction.resolve entry.spec).bind fun operands =>
        operands.fieldsOf entry.spec entry.spec.layout.spans).map fun fields =>
          ⟨Field.concatenate fields, instruction.line, instruction.text, instruction.mnemonic,
            fields⟩ := by
  rw [Instruction.encode_eq, fields_eq_bind, names.spec_eq]
  rfl

/-- An instruction that resolves to operands is encoded by filling the layout,
so that only the range of the immediate is left to decide. -/
theorem Resolves.encode_eq {instruction : Instruction} {entry : InstructionSet.Entry}
    {operands : Operands} (resolves : instruction.Resolves entry operands) :
    instruction.encode =
      (operands.fieldsOf entry.spec entry.spec.layout.spans).map fun fields =>
        ⟨Field.concatenate fields, instruction.line, instruction.text, instruction.mnemonic,
          fields⟩ := by
  have resolved := (resolves_iff instruction entry resolves.toNames operands).mp resolves
  rw [resolves.toNames.encode_eq, resolved]
  rfl

/-- Encoding an instruction ends as described. Each case follows the encoding up
to the step that decides it: the lookup, the count, the binding of the operands,
and the filling of the layout. The kinds of the operands' failures come from the
relation and those of the others are computed. -/
theorem encode_of_ends (instruction : Instruction)
    (result : Except (Failure × Option FaultKind) Encoded) (ends : instruction.Ends result) :
    instruction.encode.mapError Failure.classified = result := by
  cases ends with
  | unknown nameless =>
    rw [encode_eq, fields_eq_bind, spec_of_nameless instruction nameless]
    rfl
  | miscounted entry names different =>
    rw [names.encode_eq, resolve, if_neg different]
    rfl
  | operand entry names counted failure kind fails =>
    obtain rfl := fails.kind?_eq
    have refused := (Operands.bindAll_eq_error_iff _ _ Operands.zero failure).mpr fails
    rw [names.encode_eq, resolve, if_pos counted, refused]
    rfl
  | unwritable entry operands resolves large long =>
    have silent : Numeral.isWritable operands.imm = false := by
      rw [← Bool.not_eq_true, Numeral.isWritable_iff, Nat.not_le]
      exact long
    rw [resolves.encode_eq, InstructionSet.fieldsOf_of_not_inRange entry resolves.member operands
      resolves.outside large, Operands.outOfRange, silent]
    rfl
  | outOfRange entry operands resolves large short =>
    have writable := (Numeral.isWritable_iff operands.imm).mpr short
    rw [resolves.encode_eq, InstructionSet.fieldsOf_of_not_inRange entry resolves.member operands
      resolves.outside large, Operands.outOfRange, writable]
    rfl
  | encoded entry operands resolves range =>
    have encoded := (encode_eq_ok_iff instruction _).mpr ⟨entry, resolves.member, operands,
      resolves.same, ⟨resolves.meanings, resolves.outside, range⟩, rfl⟩
    rw [encoded]
    rfl

/-- Every instruction ends in one of the ways. The cases are tried in order, so
each has the negations of the earlier ones at hand; the failure of an operand is
taken from the resolving itself. -/
theorem exists_ends (instruction : Instruction) : ∃ result, instruction.Ends result := by
  by_cases nameless : ∀ entry, ¬instruction.Names entry
  · exact ⟨_, .unknown nameless⟩
  obtain ⟨entry, names⟩ := not_forall_not.mp nameless
  by_cases counted : instruction.operands.length = entry.spec.form.length
  · cases resolved : instruction.resolve entry.spec with
    | error failure =>
      rw [resolve, if_pos counted, Operands.bindAll_eq_error_iff] at resolved
      exact ⟨_, .operand entry names counted failure _ resolved⟩
    | ok operands =>
      have resolves := (resolves_iff instruction entry names operands).mpr resolved
      by_cases range : Immediate.InRange operands.imm
      · exact ⟨_, .encoded entry operands resolves range⟩
      · rcases Nat.lt_or_ge Numeral.digitLimit (Numeral.ofNat operands.imm.natAbs).length with
          long | short
        · exact ⟨_, .unwritable entry operands resolves range long⟩
        · exact ⟨_, .outOfRange entry operands resolves range short⟩
  · exact ⟨_, .miscounted entry names counted⟩

/-- Encoding an instruction ends in exactly one way, which the mnemonic, the
number of operands, the leftmost operand without a meaning and the range of the
immediate determine in this order. A failure is given with the kind under which
it is reported. The proof shows that some way applies and that every way that
applies is the result. -/
theorem encode_eq_iff_ends (instruction : Instruction)
    (result : Except (Failure × Option FaultKind) Encoded) :
    instruction.encode.mapError Failure.classified = result ↔ instruction.Ends result := by
  constructor
  · intro ended
    obtain ⟨other, ends⟩ := instruction.exists_ends
    have same : other = result := (instruction.encode_of_ends other ends).symm.trans ended
    exact same ▸ ends
  · exact instruction.encode_of_ends result

end Instruction

end LineAssembler
