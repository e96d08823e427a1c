import LineAssembler.Fault

/-!
# Operands

An operand is a register, an immediate or an address. A register is written as an R
in either case and a decimal index. An immediate is a hexadecimal magnitude after a
dollar sign, or a decimal numeral with an optional minus sign; only decimal numerals
are held to the digit limit. An address is an offset followed by a base register in
parentheses. Without parentheses the base is register zero; with empty text before
them the offset is zero. The base register is read before the offset.
-/

namespace LineAssembler

/-- The machine has sixteen registers. -/
abbrev Register := Fin 16

namespace Register

/-- The number of registers. -/
def count : Nat := 16

/-- There is a register. -/
theorem count_pos : 0 < count := by decide

/-- The first register. -/
def zero : Register := ⟨0, count_pos⟩

/-- The register that a token names. -/
def read (token : Text) : Except Failure Register :=
  match Text.trim token with
  | [] => .error (.fault (.malformedRegister token))
  | letter :: digits =>
    if (letter = 'R' ∨ letter = 'r') ∧ Numeral.isDecimal digits then
      match Numeral.readDecimal digits with
      | .error limit => .error (.limit limit)
      | .ok index =>
        if inside : index < 16 then .ok ⟨index, inside⟩
        else .error (.fault (.registerOutOfRange token))
    else .error (.fault (.malformedRegister token))

/-- The four-bit field that holds a register. -/
def field (register : Register) : Field := ⟨registerWidth, register.val, registerWidth_pos⟩

end Register

namespace Immediate

/-- The value of a decimal numeral without its sign; `token` is the whole
operand. -/
def readMagnitude (token digits : Text) : Except Failure Nat :=
  if Numeral.isDecimal digits then (Numeral.readDecimal digits).mapError .limit
  else .error (.fault (.malformedDecimal token))

/-- The value of an immediate. -/
def read (token : Text) : Except Failure Int :=
  match Text.trim token with
  | '$' :: digits =>
    if Numeral.isHexadecimal digits then .ok (Numeral.value 16 digits)
    else .error (.fault (.malformedHexadecimal token))
  | '-' :: digits => (readMagnitude token digits).map fun n : Nat => -(n : Int)
  | digits => (readMagnitude token digits).map fun n : Nat => (n : Int)

end Immediate

/-- A base register and an offset to be added to it. -/
structure Address where
  base : Register
  offset : Int
deriving DecidableEq

namespace Address

/-- The parts of a text of the form `offset(base)`: the parenthesis that closes
first is the last character, and nothing before the first opening one opens. -/
def split? (text : Text) : Option (Text × Text) :=
  let inner := Text.after '(' text
  if inner.dropWhile (· != ')') = [')'] then
    some (Text.before '(' text, Text.before ')' inner)
  else none

/-- The address that a token names. -/
def read (token : Text) : Except Failure Address :=
  let text := Text.trim token
  if '(' ∈ text then
    match split? text with
    | none => .error (.fault (.malformedAddress token))
    | some (offset, base) =>
      match Register.read (Text.trim base) with
      | .error failure => .error failure
      | .ok base =>
        if (Text.trim offset).isEmpty then .ok ⟨base, 0⟩
        else (Immediate.read (Text.trim offset)).map fun offset => ⟨base, offset⟩
  else (Immediate.read text).map fun offset => ⟨.zero, offset⟩

end Address

end LineAssembler
