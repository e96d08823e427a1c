import LineAssembler.Encoding
import LineAssembler.Proofs.OperandGrammar
import Mathlib.Data.List.Forall2

/-!
# Binding operands to roles

Reading a list of tokens in the roles of a form either fails or yields the one
assignment in which every token means what its role holds and every slot that the
form leaves out keeps its old value. This needs that no two roles of the form fill
the same slot; every form of the instruction set is of this kind.

Running into the digit limit is described in the same terms: a token with too long
a numeral stands behind tokens that all can be read.
-/

namespace LineAssembler

/-- The slots that an operand in a role fills. -/
def Role.slots : Role → List Slot
  | .ra => [.ra]
  | .rb => [.rb]
  | .rc => [.rc]
  | .imm => [.imm]
  | .addr => [.rb, .imm]

/-- The slots that the operands of a form fill. -/
def Role.filled (form : List Role) : List Slot := form.flatMap Role.slots

/-- No two operands of a form fill the same slot. -/
def Role.Separate (form : List Role) : Prop :=
  form.Pairwise fun role other => ∀ slot ∈ role.slots, slot ∉ other.slots

/-- Separation of a form can be checked. -/
instance (form : List Role) : Decidable (Role.Separate form) :=
  inferInstanceAs (Decidable (form.Pairwise _))

/-- A token with too long a numeral for its role. -/
def Role.Overlong : Role → Text → Prop
  | .ra | .rb | .rc => Register.Overlong
  | .imm => Immediate.Overlong
  | .addr => Address.Overlong

namespace Operands

/-- The value of a slot that operands fill; other slots count as zero. -/
def get (operands : Operands) : Slot → Int
  | .ra => operands.ra.val
  | .rb => operands.rb.val
  | .rc => operands.rc.val
  | .imm => operands.imm
  | _ => 0

/-- A trimmed token in a role denotes the values of the role's slots. -/
def Means (operands : Operands) : Role → Text → Prop
  | .ra, text => Register.Named text operands.ra
  | .rb, text => Register.Named text operands.rb
  | .rc, text => Register.Named text operands.rc
  | .imm, text => Immediate.Literal text operands.imm
  | .addr, text => Address.Written text ⟨operands.rb, operands.imm⟩

/-- Slots that a form does not fill are zero. -/
def ZeroOutside (operands : Operands) (form : List Role) : Prop :=
  ∀ slot ∉ Role.filled form, operands.get slot = 0

/-- Take the slots of one role from other operands. -/
def override (operands source : Operands) : Role → Operands
  | .ra => { operands with ra := source.ra }
  | .rb => { operands with rb := source.rb }
  | .rc => { operands with rc := source.rc }
  | .imm => { operands with imm := source.imm }
  | .addr => { operands with rb := source.rb, imm := source.imm }

end Operands

/-- Too long a numeral among tokens, before which every token means something. -/
inductive Role.Overrun : List Role → List Text → Prop where
  | here (role : Role) (form : List Role) (token : Text) (tokens : List Text)
      (overlong : role.Overlong (Text.trim token)) :
      Role.Overrun (role :: form) (token :: tokens)
  | later (role : Role) (form : List Role) (token : Text) (tokens : List Text)
      (operands : Operands) (means : operands.Means role (Text.trim token))
      (rest : Role.Overrun form tokens) :
      Role.Overrun (role :: form) (token :: tokens)

namespace Operands

/-- A register is determined by the value of its slot. -/
theorem register_ext (left right : Register) (same : (left.val : Int) = right.val) :
    left = right := Fin.ext (Int.ofNat.inj same)

/-- Operands are determined by the values of their slots. A register is known
from its index, and the other slots hold no operand. -/
theorem ext_get (left right : Operands) (same : ∀ slot, left.get slot = right.get slot) :
    left = right := by
  have sameA : left.ra = right.ra := register_ext _ _ (same .ra)
  have sameB : left.rb = right.rb := register_ext _ _ (same .rb)
  have sameC : left.rc = right.rc := register_ext _ _ (same .rc)
  have sameImm : left.imm = right.imm := same .imm
  cases left
  cases right
  simp_all only

/-- Overriding changes the slots of the role and no others. -/
theorem get_override (operands source : Operands) (role : Role) (slot : Slot) :
    (operands.override source role).get slot =
      if slot ∈ role.slots then source.get slot else operands.get slot := by
  cases role <;> cases slot <;> rfl

/-- What a token means depends on the slots of its role only. An address has two
of them, its base and its offset, and every other role one. -/
theorem means_congr (left right : Operands) (role : Role) (text : Text)
    (same : ∀ slot ∈ role.slots, left.get slot = right.get slot) (means : left.Means role text) :
    right.Means role text := by
  cases role with
  | ra =>
    have equal : left.ra = right.ra := register_ext _ _ (same .ra (by decide))
    simpa only [Means, equal] using means
  | rb =>
    have equal : left.rb = right.rb := register_ext _ _ (same .rb (by decide))
    simpa only [Means, equal] using means
  | rc =>
    have equal : left.rc = right.rc := register_ext _ _ (same .rc (by decide))
    simpa only [Means, equal] using means
  | imm =>
    have equal : left.imm = right.imm := same .imm (by decide)
    simpa only [Means, equal] using means
  | addr =>
    have base : left.rb = right.rb := register_ext _ _ (same .rb (by decide))
    have offset : left.imm = right.imm := same .imm (by decide)
    simpa only [Means, base, offset] using means

/-- A token with a meaning neither starts nor ends with a blank. In most roles
it is a word, which holds no blank at all; an address may hold blanks inside. -/
theorem Means.trim {operands : Operands} {role : Role} {text : Text}
    (means : operands.Means role text) : Text.trim text = text := by
  cases role with
  | ra | rb | rc => exact Register.Named.isWord means |>.trim
  | imm => exact Immediate.Literal.isWord means |>.trim
  | addr => exact Address.Written.trim means

/-- A token with a meaning is not empty. -/
theorem Means.ne_nil {operands : Operands} {role : Role} {text : Text}
    (means : operands.Means role text) : text ≠ [] := by
  cases role with
  | ra | rb | rc => exact (Register.Named.isWord means).1
  | imm => exact (Immediate.Literal.isWord means).1
  | addr => exact Address.Written.ne_nil means

/-- There is no comma in a token with a meaning. -/
theorem Means.not_mem {operands : Operands} {role : Role} {text : Text}
    (means : operands.Means role text) : ',' ∉ text := by
  cases role with
  | ra | rb | rc => exact (Register.Named.isWord means).not_mem ',' (by decide)
  | imm => exact (Immediate.Literal.isWord means).not_mem ',' (by decide)
  | addr => exact Address.Written.not_mem means

/-- A result that becomes one part of the operands is the part that they then
have. So the value that was read need not be named beside the operands. -/
theorem exceptMap_eq_ok_iff_part {α : Type} (result : Except Failure α) (update : α → Operands)
    (part : Operands → α) (recovers : ∀ value, part (update value) = value) (next : Operands) :
    result.map update = .ok next ↔ result = .ok (part next) ∧ next = update (part next) := by
  rw [exceptMap_eq_ok_iff]
  constructor
  · rintro ⟨value, success, rfl⟩
    rw [recovers]
    exact ⟨success, rfl⟩
  · rintro ⟨success, same⟩
    exact ⟨part next, success, same.symm⟩

/-- One token is read exactly when it has a meaning in its role, which then
becomes the value of the role's slots and of no others. -/
theorem bind_eq_ok_iff (start next : Operands) (role : Role) (token : Text) :
    start.bind role token = .ok next ↔
      next.Means role (Text.trim token) ∧ next = start.override next role := by
  cases role with
  | ra =>
    rw [bind, exceptMap_eq_ok_iff_part _ _ Operands.ra (fun _ => rfl),
      (Register.classified_read token).eq_ok_iff]
    rfl
  | rb =>
    rw [bind, exceptMap_eq_ok_iff_part _ _ Operands.rb (fun _ => rfl),
      (Register.classified_read token).eq_ok_iff]
    rfl
  | rc =>
    rw [bind, exceptMap_eq_ok_iff_part _ _ Operands.rc (fun _ => rfl),
      (Register.classified_read token).eq_ok_iff]
    rfl
  | imm =>
    rw [bind, exceptMap_eq_ok_iff_part _ _ Operands.imm (fun _ => rfl),
      (Immediate.classified_read token).eq_ok_iff]
    rfl
  | addr =>
    rw [bind, exceptMap_eq_ok_iff_part _ _ (fun next => ⟨next.rb, next.imm⟩) (fun _ => rfl),
      (Address.classified_read token).eq_ok_iff]
    rfl

/-- A token with a meaning is read, and only the slots of its role change. The
operands that result mean the token because they agree there with those that do. -/
theorem bind_of_means (start result : Operands) (role : Role) (token : Text)
    (means : result.Means role (Text.trim token)) :
    start.bind role token = .ok (start.override result role) := by
  rw [bind_eq_ok_iff]
  constructor
  · refine means_congr result _ role _ ?_ means
    intro slot own
    rw [get_override, if_pos own]
  · apply ext_get
    intro slot
    simp only [get_override]
    split <;> rfl

/-- One token runs into the digit limit exactly when it has too long a numeral
for its role, whatever has been read before. -/
theorem bind_eq_limit_iff (start : Operands) (role : Role) (token : Text) :
    (∃ limit, start.bind role token = .error (.limit limit)) ↔
      role.Overlong (Text.trim token) := by
  cases role <;> simp only [bind, exceptMap_eq_error_iff,
    (Register.classified_read token).eq_limit_iff, (Immediate.classified_read token).eq_limit_iff,
    (Address.classified_read token).eq_limit_iff, Role.Overlong]

/-- A form fills the slots of its first role and those of the others. -/
theorem mem_filled_cons (role : Role) (form : List Role) (slot : Slot) :
    slot ∈ Role.filled (role :: form) ↔ slot ∈ role.slots ∨ slot ∈ Role.filled form := by
  simp [Role.filled]

/-- A slot of one role is in none of the others of a separate form. So binding
the other tokens leaves the slot as it is. -/
theorem not_mem_filled (role : Role) (form : List Role) (separate : Role.Separate (role :: form))
    (slot : Slot) (own : slot ∈ role.slots) : slot ∉ Role.filled form := by
  intro other
  obtain ⟨second, member, shared⟩ := List.mem_flatMap.mp other
  exact (List.pairwise_cons.mp separate).1 second member slot own shared

/-- The first token is read before the others, and they are read only if it has
been. -/
theorem bindAll_cons (start : Operands) (role : Role) (form : List Role) (token : Text)
    (tokens : List Text) :
    start.bindAll (role :: form) (token :: tokens) =
      (start.bind role token).bind fun next => next.bindAll form tokens := by
  rw [bindAll]
  cases start.bind role token <;> rfl

/-- A list of as many tokens as there are roles is read exactly when every token has
a meaning in its role; slots that the form does not fill keep their values.

The induction is on the form. A token read first keeps its meaning to the end,
since the roles behind it fill other slots. For the converse the operands after
the first token are those at the end, restricted to the first role. -/
theorem bindAll_eq_ok_iff (form : List Role) (separate : Role.Separate form)
    (tokens : List Text) (counted : tokens.length = form.length) (start result : Operands) :
    start.bindAll form tokens = .ok result ↔
      List.Forall₂ (fun role token => result.Means role (Text.trim token)) form tokens ∧
        ∀ slot ∉ Role.filled form, result.get slot = start.get slot := by
  induction form generalizing tokens start with
  | nil =>
    obtain rfl := List.length_eq_zero_iff.mp counted
    simp only [bindAll, Except.ok.injEq, List.forall₂_nil_left_iff, true_and]
    constructor
    · rintro rfl slot _
      rfl
    · intro same
      exact ext_get _ _ fun slot => (same slot (by simp [Role.filled])).symm
  | cons role form inductionHypothesis =>
    cases tokens with
    | nil => simp at counted
    | cons token tokens =>
      have countedRest : tokens.length = form.length := Nat.succ.inj counted
      have separateRest : Role.Separate form := (List.pairwise_cons.mp separate).2
      have tail := inductionHypothesis separateRest tokens countedRest
      rw [bindAll_cons, exceptBind_eq_ok_iff, List.forall₂_cons]
      constructor
      · rintro ⟨next, first, success⟩
        obtain ⟨means, overridden⟩ := (bind_eq_ok_iff start next role token).mp first
        obtain ⟨meanings, unchanged⟩ := (tail next).mp success
        refine ⟨⟨means_congr next result role _ ?_ means, meanings⟩, ?_⟩
        · intro slot own
          exact (unchanged slot (not_mem_filled role form separate slot own)).symm
        · intro slot outside
          rw [mem_filled_cons, not_or] at outside
          rw [unchanged slot outside.2, overridden, get_override, if_neg outside.1]
      · rintro ⟨⟨means, meanings⟩, unchanged⟩
        refine ⟨_, bind_of_means start result role token means, (tail _).mpr ⟨meanings, ?_⟩⟩
        intro slot outside
        rw [get_override]
        split
        case isTrue => rfl
        case isFalse notOwn =>
          apply unchanged slot
          rw [mem_filled_cons, not_or]
          exact ⟨notOwn, outside⟩

/-- Without tokens nothing is read. -/
theorem bindAll_nil (start : Operands) (form : List Role) : start.bindAll form [] = .ok start := by
  cases form <;> rfl

/-- A list of tokens runs into the digit limit exactly when too long a numeral
stands behind tokens that can be read. The values read so far play no part in
it. -/
theorem bindAll_eq_limit_iff (form : List Role) (tokens : List Text) (start : Operands) :
    (∃ limit, start.bindAll form tokens = .error (.limit limit)) ↔ Role.Overrun form tokens := by
  induction tokens generalizing form start with
  | nil =>
    constructor
    · rintro ⟨limit, failure⟩
      rw [bindAll_nil] at failure
      contradiction
    · intro overrun
      cases overrun
  | cons token tokens inductionHypothesis =>
    constructor
    · rintro ⟨limit, failure⟩
      cases form with
      | nil => contradiction
      | cons role form =>
        rw [bindAll_cons, exceptBind_eq_error_iff] at failure
        rcases failure with first | ⟨next, first, later⟩
        · have overlong := (bind_eq_limit_iff start role token).mp ⟨limit, first⟩
          exact .here role form token tokens overlong
        · have means := ((bind_eq_ok_iff start next role token).mp first).1
          have rest := (inductionHypothesis form next).mp ⟨limit, later⟩
          exact .later role form token tokens next means rest
    · intro overrun
      cases overrun with
      | here role form _ _ overlong =>
        obtain ⟨limit, first⟩ := (bind_eq_limit_iff start role token).mpr overlong
        exact ⟨limit, by rw [bindAll_cons, first]; rfl⟩
      | later role form _ _ value means rest =>
        rw [bindAll_cons, bind_of_means start value role token means]
        exact (inductionHypothesis form _).mpr rest

end Operands

end LineAssembler
