import LineAssembler.Instruction
import LineAssembler.InstructionSet.Table
import LineAssembler.Operand
import LineAssembler.Trace

/-!
# Encoding one instruction

The mnemonic selects a specification, the operands are read from left to right
into the roles of its form, and the slots of its layout are filled from them. The
immediate is held to its range only after every operand has been read. Operands
that a form does not mention are zero. The fields of an instruction fill a word, so
packing them is never refused, and they are recorded once they are packed.
-/

namespace LineAssembler

/-- The values of the roles of an instruction. -/
structure Operands where
  ra : Register
  rb : Register
  rc : Register
  imm : Int
deriving DecidableEq

namespace Operands

/-- The values of an instruction without operands. -/
def zero : Operands := ⟨.zero, .zero, .zero, 0⟩

/-- Read one token in its role. -/
def bind (operands : Operands) (role : Role) (token : Text) : Except Failure Operands :=
  match role with
  | .ra => (Register.read token).map fun register => { operands with ra := register }
  | .rb => (Register.read token).map fun register => { operands with rb := register }
  | .rc => (Register.read token).map fun register => { operands with rc := register }
  | .imm => (Immediate.read token).map fun value => { operands with imm := value }
  | .addr => (Address.read token).map fun address =>
      { operands with rb := address.base, imm := address.offset }

/-- Read tokens in the roles of a form, from left to right. -/
def bindAll (operands : Operands) : List Role → List Text → Except Failure Operands
  | role :: form, token :: tokens =>
    match operands.bind role token with
    | .error failure => .error failure
    | .ok operands => operands.bindAll form tokens
  | _, _ => .ok operands

/-- The value that a slot holds. -/
def slotValue (operands : Operands) (spec : Spec Role) : Slot → Int
  | .opcode => spec.opcode.val
  | .ra => operands.ra.val
  | .rb => operands.rb.val
  | .rc => operands.rc.val
  | .cond => match spec.cond with
    | some cond => cond.val
    | none => 0
  | .imm => operands.imm
  | .reserved => 0

/-- How an immediate that does not fit is refused: by a fault that shows it, if
it can be written. -/
def outOfRange (width : Nat) (value : Int) : Failure :=
  if Numeral.isWritable value then .fault (.immediateOutOfRange width value)
  else .limit .writing

/-- The field of one span. -/
def field (operands : Operands) (spec : Spec Role) (span : Span) : Except Failure Field :=
  let value := operands.slotValue spec span.slot
  if span.slot = .imm ∧ !Bits.fitsSigned span.width value then
    .error (outOfRange span.width value)
  else .ok ⟨span.width, value, span.width_pos⟩

/-- The fields of a list of spans. -/
def fieldsOf (operands : Operands) (spec : Spec Role) : List Span → Except Failure (List Field)
  | [] => .ok []
  | span :: spans =>
    match operands.field spec span with
    | .error failure => .error failure
    | .ok field => (operands.fieldsOf spec spans).map (field :: ·)

/-- The fields of spans are as wide as the spans. By induction on the spans: a
span that is filled has become a field of its own width, and the fields are only
there if all spans are filled. -/
theorem totalWidth_fieldsOf (operands : Operands) (spec : Spec Role) (spans : List Span)
    (fields : List Field) (filled : operands.fieldsOf spec spans = .ok fields) :
    Field.totalWidth fields = Span.totalWidth spans := by
  induction spans generalizing fields with
  | nil =>
    obtain rfl := Except.ok.inj filled
    rfl
  | cons span spans inductionHypothesis =>
    simp only [fieldsOf, field] at filled
    split at filled
    case h_1 => contradiction
    case h_2 first placed =>
      split at placed
      case isTrue => contradiction
      case isFalse =>
        obtain rfl := Except.ok.inj placed
        cases rest : operands.fieldsOf spec spans with
        | error failure =>
          rw [rest] at filled
          contradiction
        | ok others =>
          rw [rest] at filled
          obtain rfl := Except.ok.inj filled
          rw [Field.totalWidth, Span.totalWidth, inductionHypothesis others rest]

end Operands

/-- An encoded line: its word, where it comes from, and the fields of the word. -/
structure Encoded where
  word : Int
  line : Option Int
  text : Text
  mnemonic : Text
  fields : List Field
deriving DecidableEq

namespace Instruction

/-- The specification of an instruction. -/
def spec (instruction : Instruction) : Except Failure (Spec Role) :=
  match InstructionSet.find? instruction.mnemonic with
  | some spec => .ok spec
  | none => .error (.fault (.unknownMnemonic instruction.mnemonic))

/-- The values of the operands of an instruction, which have to be as many as
its form asks for. -/
def resolve (instruction : Instruction) (spec : Spec Role) : Except Failure Operands :=
  if instruction.operands.length = spec.form.length then
    Operands.zero.bindAll spec.form instruction.operands
  else
    .error (.fault (.operandCount instruction.mnemonic spec.form instruction.operands.length))

/-- The fields of the word of an instruction, from the most significant down. -/
def fields (instruction : Instruction) : Except Failure (List Field) :=
  match instruction.spec with
  | .error failure => .error failure
  | .ok spec =>
    match instruction.resolve spec with
    | .error failure => .error failure
    | .ok operands => operands.fieldsOf spec spec.layout.spans

/-- The fields of an instruction fill a word, as the spans of its layout do. Of
the three stages only the last makes fields. -/
theorem totalWidth_fields (instruction : Instruction) (fields : List Field)
    (filled : instruction.fields = .ok fields) : Field.totalWidth fields = Word.width := by
  unfold Instruction.fields at filled
  split at filled
  case h_1 => contradiction
  case h_2 spec _ =>
    split at filled
    case h_1 => contradiction
    case h_2 operands _ =>
      exact (operands.totalWidth_fieldsOf spec _ fields filled).trans spec.layout.totalWidth_spans

/-- Encode an instruction. Its fields are recorded once they are packed, so a
failure leaves no record. -/
def attempt (instruction : Instruction) : Recorded (Except Failure Encoded) :=
  match filled : instruction.fields with
  | .error failure => ⟨[], .error failure⟩
  | .ok fields =>
    let word := Field.packFilled fields (instruction.totalWidth_fields fields filled)
    ⟨[.fields instruction.line fields],
      .ok ⟨word, instruction.line, instruction.text, instruction.mnemonic, fields⟩⟩

/-- What encoding an instruction comes to. -/
def encode (instruction : Instruction) : Except Failure Encoded := instruction.attempt.result

/-- Encoding an instruction concatenates its fields: packing them is not
refused, since they fill a word. So the check of the total width, which every
encoding passes through, never decides anything. -/
theorem encode_eq (instruction : Instruction) :
    instruction.encode = instruction.fields.map fun fields =>
      ⟨Field.concatenate fields, instruction.line, instruction.text, instruction.mnemonic,
        fields⟩ := by
  unfold encode attempt
  split
  case h_1 failure failed =>
    rw [failed]
    rfl
  case h_2 fields filled =>
    simp only [Field.packFilled_eq, filled]
    rfl

/-- The fields of an instruction are recorded exactly if it is encoded. Between
the record and the result nothing can fail. -/
theorem attempt_eq (instruction : Instruction) :
    instruction.attempt =
      match instruction.encode with
      | .ok encoded => ⟨[.fields encoded.line encoded.fields], .ok encoded⟩
      | .error failure => ⟨[], .error failure⟩ := by
  unfold encode attempt
  split
  case h_1 => rfl
  case h_2 => rfl

end Instruction

end LineAssembler
