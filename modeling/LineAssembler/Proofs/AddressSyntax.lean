import LineAssembler.Proofs.NormalLines
import LineAssembler.Proofs.OutcomePrecedence

/-!
# Addresses and their parts

An address with parentheses is cut at its first opening parenthesis and at its end. The part
in front of the first opening parenthesis opens none, and the part behind it closes none but
the one at the end, so there is at most one cut: nested, doubled and misplaced parentheses end
up in one of the parts, and there they belong to no register name and to no literal. Blanks
around either part do not count.

An address without parentheses has register zero as its base, as if that register were written
behind it; an address without an offset has the offset zero.
-/

namespace LineAssembler

namespace Address

/-! ## Accepted addresses -/

/-- An address that is cut into parts is read from the register that the inner
part names and from the literal that the outer part is, if it is more than
blanks. -/
theorem read_eq_ok_iff_of_parts (token outer inner : Text)
    (parts : Parts (Text.trim token) outer inner) (address : Address) :
    Address.read token = .ok address ↔
      Register.Named (Text.trim inner) address.base ∧
        (Text.AllBlank outer ∧ address.offset = 0 ∨
          Immediate.Literal (Text.trim outer) address.offset) := by
  obtain ⟨base, offset⟩ := address
  have register := (classified_base inner).eq_ok_iff
  have literal := (classified_offset outer).eq_ok_iff
  simp only [Register.padded_iff] at register
  rw [read_of_split token outer inner parts.whole parts.alone parts.closed, exceptBind_eq_ok_iff,
    ← Text.trim_eq_nil_iff]
  by_cases empty : Text.trim outer = []
  · -- Nothing is no literal, so the offset is zero.
    have nothing : ¬Immediate.Literal [] offset := fun literal => literal.isWord.1 rfl
    simp [empty, nothing, register, eq_comm]
  · simp [empty, register, literal, exceptMap_eq_ok_iff]

/-- A token with an opening parenthesis is read exactly when it is cut into a
register name and a literal or blanks. -/
theorem read_eq_ok_iff_exists_parts (token : Text) (opened : '(' ∈ Text.trim token)
    (address : Address) :
    Address.read token = .ok address ↔ ∃ outer inner, Parts (Text.trim token) outer inner ∧
      Register.Named (Text.trim inner) address.base ∧
        (Text.AllBlank outer ∧ address.offset = 0 ∨
          Immediate.Literal (Text.trim outer) address.offset) := by
  constructor
  · intro success
    by_cases shaped : ∃ outer inner, Parts (Text.trim token) outer inner
    · obtain ⟨outer, inner, parts⟩ := shaped
      exact ⟨outer, inner, parts, (read_eq_ok_iff_of_parts token outer inner parts address).mp
        success⟩
    · have refused := (read_eq_error_iff token _).mpr (.malformed opened shaped)
      rw [success] at refused
      contradiction
  · rintro ⟨outer, inner, parts, meant⟩
    exact (read_eq_ok_iff_of_parts token outer inner parts address).mpr meant

/-- The parts of an address that is read are read by themselves as its base and
its offset, unless the part of the offset is blank. -/
theorem read_parts (token outer inner : Text) (parts : Parts (Text.trim token) outer inner)
    (address : Address) (success : Address.read token = .ok address) :
    Register.read inner = .ok address.base ∧
      (Text.AllBlank outer ∧ address.offset = 0 ∨
        ¬Text.AllBlank outer ∧ Immediate.read outer = .ok address.offset) := by
  obtain ⟨named, offset⟩ := (read_eq_ok_iff_of_parts token outer inner parts address).mp success
  refine ⟨(Register.classified_read inner).ok _ named, ?_⟩
  rcases offset with blank | literal
  · exact Or.inl blank
  · refine Or.inr ⟨?_, (Immediate.classified_read outer).ok _ literal⟩
    intro blank
    exact literal.isWord.1 ((Text.trim_eq_nil_iff outer).mpr blank)

/-! ## A register in parentheses -/

/-- A register in parentheses is the base of the offset in front of it. Since it
is read as a register it closes no parenthesis, so the token is cut where it is
written. -/
theorem read_of_register (token outer inner : Text) (register : Register)
    (whole : Text.trim token = outer ++ '(' :: inner ++ [')']) (alone : '(' ∉ outer)
    (named : Register.read inner = .ok register) :
    Address.read token =
      if (Text.trim outer).isEmpty then .ok ⟨register, 0⟩
      else (Immediate.read (Text.trim outer)).map fun offset => ⟨register, offset⟩ := by
  have padded := (Register.padded_iff register inner).mpr
    (((Register.classified_read inner).eq_ok_iff register).mp named)
  have closed : ')' ∉ inner := Register.not_mem_of_padded register inner padded ')' (by decide)
  rw [read_of_split token outer inner whole alone closed,
    (classified_base inner).ok register padded]
  rfl

/-- Register zero in parentheses behind an offset changes nothing, whether the
offset is read or refused. -/
theorem read_append_zero (token : Text) (unopened : '(' ∉ token) (solid : ¬Text.AllBlank token) :
    Address.read (token ++ "(R0)".toList) = Address.read token := by
  obtain ⟨left, right, blankLeft, blankRight, parts⟩ := Text.exists_pad token
  have nonempty : Text.trim token ≠ [] := mt (Text.trim_eq_nil_iff token).mp solid
  have core : Text.trim (Text.trim token ++ right) = Text.trim token := by
    rw [Text.trim_append_right _ right blankRight, Text.trim_trim]
  have first : ∀ c ∈ (Text.trim token ++ right).head?, Text.isBlank c = false := by
    rw [List.head?_append_of_ne_nil _ nonempty]
    exact Text.not_isBlank_head_trim token
  have whole : Text.trim (token ++ "(R0)".toList) =
      (Text.trim token ++ right) ++ '(' :: "R0".toList ++ [')'] := by
    have moved : token ++ "(R0)".toList =
        left ++ ((Text.trim token ++ right) ++ '(' :: "R0".toList ++ [')']) := by
      nth_rewrite 1 [parts]
      simp
    rw [moved, Text.trim_append_left left _ blankLeft, trim_of_solid_head _ _ first]
  have alone : '(' ∉ Text.trim token ++ right := by
    intro member
    apply unopened
    rw [parts, List.append_assoc]
    exact List.mem_append_right left member
  have untrimmed : '(' ∉ Text.trim token := mt (Text.mem_of_mem_trim token '(') unopened
  rw [read_of_register _ _ "R0".toList .zero whole alone (by decide), core,
    if_neg (by simpa using nonempty), read_of_not_mem token untrimmed]

/-- A register in parentheses has the offset zero, written or not. In the first
form nothing stands before the parenthesis, and in the second a zero is read. -/
theorem read_of_bare_register (token : Text) (register : Register)
    (named : Register.read token = .ok register) :
    Address.read ('(' :: token ++ [')']) = .ok ⟨register, 0⟩ ∧
      Address.read ('0' :: '(' :: token ++ [')']) = .ok ⟨register, 0⟩ := by
  constructor
  · exact read_of_register _ [] token register (trim_of_solid_head [] token (by simp)) (by simp)
      named
  · exact read_of_register _ ['0'] token register
      (trim_of_solid_head ['0'] token (by simpa using by decide)) (by decide) named

/-! ## The syntax of addresses -/

/-- How a token is read as an address: as an offset alone, or else by its only
cut into a base register and an offset that may be missing. -/
structure ReadsExactly (token : Text) : Prop where
  /-- Without parentheses the token is an offset, and is refused as one. -/
  plain : '(' ∉ Text.trim token → Address.read token =
    (Immediate.read (Text.trim token)).map fun offset => ⟨.zero, offset⟩
  /-- With a parenthesis it is read exactly when it is cut into an address. -/
  accepted (address : Address) : '(' ∈ Text.trim token → (Address.read token = .ok address ↔
    ∃ outer inner, Parts (Text.trim token) outer inner ∧
      Register.Named (Text.trim inner) address.base ∧
        (Text.AllBlank outer ∧ address.offset = 0 ∨
          Immediate.Literal (Text.trim outer) address.offset))
  /-- It is not cut in two ways. -/
  unique (outer inner otherOuter otherInner : Text) : Parts (Text.trim token) outer inner →
    Parts (Text.trim token) otherOuter otherInner → outer = otherOuter ∧ inner = otherInner
  /-- The parts of an address that is read are read by themselves. -/
  parts (outer inner : Text) (address : Address) : Parts (Text.trim token) outer inner →
    Address.read token = .ok address → Register.read inner = .ok address.base ∧
      (Text.AllBlank outer ∧ address.offset = 0 ∨
        ¬Text.AllBlank outer ∧ Immediate.read outer = .ok address.offset)
  /-- The base is a register, and register zero without parentheses. -/
  base (address : Address) : Address.read token = .ok address →
    address.base.field.width = 4 ∧ 0 ≤ address.base.field.value ∧
      address.base.field.value ≤ 15 ∧
      ('(' ∉ Text.trim token → address.base.field.value = 0)

/-- The base of an address is a register, and register zero without parentheses.
The first half holds of every address; the second goes through the way in which
a mere offset is read. -/
theorem field_base_of_read (token : Text) (address : Address)
    (success : Address.read token = .ok address) :
    address.base.field.width = 4 ∧ 0 ≤ address.base.field.value ∧
      address.base.field.value ≤ 15 ∧
      ('(' ∉ Text.trim token → address.base.field.value = 0) := by
  have below : address.base.val < 16 := address.base.isLt
  refine ⟨rfl, ?_, ?_, ?_⟩
  · simp [Register.field]
  · simp only [Register.field]
    omega
  · intro unopened
    rw [read_of_not_mem token unopened, exceptMap_eq_ok_iff] at success
    obtain ⟨offset, _, rfl⟩ := success
    rfl

/-- Every token is read as an address in exactly this way. Without parentheses
it is read as an immediate is; with them the parts decide, which are unique. -/
theorem readsExactly (token : Text) : ReadsExactly token where
  plain := read_of_not_mem token
  accepted address opened := read_eq_ok_iff_exists_parts token opened address
  unique _ _ _ _ := Parts.unique
  parts outer inner address parts := read_parts token outer inner parts address
  base := field_base_of_read token

/-- Addresses have exactly the syntax of a base and an offset, of which either
may be missing: a missing base is register zero, and a missing offset is zero.

Proof: a token with a parenthesis is cut in the only way there is, and its parts
are read one after the other. Register zero in parentheses leaves the offset in
front as it is. -/
theorem read_exact :
    (∀ token, ReadsExactly token) ∧
    (∀ token, '(' ∉ token → ¬Text.AllBlank token →
      Address.read (token ++ "(R0)".toList) = Address.read token) ∧
    (∀ token register, Register.read token = .ok register →
      Address.read ('(' :: token ++ [')']) = .ok ⟨register, 0⟩ ∧
        Address.read ('0' :: '(' :: token ++ [')']) = .ok ⟨register, 0⟩) :=
  ⟨readsExactly, read_append_zero, read_of_bare_register⟩

/-- An offset between blanks is read with register zero behind it as without, a
faulty one is refused the same, and a register name may stand between blanks in
its parentheses; a second opening parenthesis is refused. -/
theorem read_exact_blanks :
    Address.read " -4\t(R0)".toList = .ok ⟨.zero, -4⟩ ∧
      Address.read "4x(R0)".toList = Address.read "4x".toList ∧
      Address.read "( r07 )".toList = .ok ⟨7, 0⟩ ∧
      ∀ address, Address.read "4((R1)".toList ≠ .ok address := by
  obtain ⟨exactly, zero, bare⟩ := read_exact
  refine ⟨?_, zero "4x".toList (by decide) (by decide), (bare " r07 ".toList 7 (by decide)).1, ?_⟩
  · rw [show " -4\t(R0)".toList = " -4\t".toList ++ "(R0)".toList from rfl,
      zero _ (by decide) (by decide)]
    decide
  · intro address success
    obtain ⟨outer, inner, parts, named, _⟩ :=
      ((exactly "4((R1)".toList).accepted address (by decide)).mp success
    have cut : Parts (Text.trim "4((R1)".toList) ['4'] "(R1".toList :=
      ⟨by decide, by decide, by decide⟩
    obtain ⟨_, rfl⟩ := (exactly "4((R1)".toList).unique _ _ _ _ parts cut
    exact absurd (named.isWord.2 '(' (by decide)) (by decide)

end Address

end LineAssembler
