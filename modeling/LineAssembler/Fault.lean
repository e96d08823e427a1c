import LineAssembler.InstructionSet.Layout
import LineAssembler.Text.Quoted

/-!
# Faults of a source line

A fault concerns one line: it is reported and the next line is assembled. Each
fault has a kind, a wording and sometimes a hint. A conversion past the digit
limit is no fault of this sort, so reading a line fails in one of two ways.
-/

namespace LineAssembler

/-- The kinds under which faults are reported. -/
inductive FaultKind where
  | general
  | unknownMnemonic
  | malformedRegister
  | malformedImmediate
  | immediateOutOfRange
  | operandCountMismatch
deriving DecidableEq

/-- The name of a kind, as diagnostics show it. -/
def FaultKind.name : FaultKind → Text
  | .general => "AsmError".toList
  | .unknownMnemonic => "UnknownMnemonic".toList
  | .malformedRegister => "MalformedRegister".toList
  | .malformedImmediate => "MalformedImmediate".toList
  | .immediateOutOfRange => "ImmediateOutOfRange".toList
  | .operandCountMismatch => "OperandCountMismatch".toList

/-- What can be wrong with one line. Tokens are kept as they were written. -/
inductive Fault where
  | unknownMnemonic (mnemonic : Text)
  | operandCount (mnemonic : Text) (form : List Role) (given : Nat)
  | malformedRegister (token : Text)
  | registerOutOfRange (token : Text)
  | malformedAddress (token : Text)
  | malformedHexadecimal (token : Text)
  | malformedDecimal (token : Text)
  | immediateOutOfRange (width : Nat) (value : Int)
deriving DecidableEq

/-- A fault in words: its kind, its wording and an optional hint. -/
structure Problem where
  kind : FaultKind
  message : Text
  hint : Option Text
deriving DecidableEq

namespace Fault

/-- The kind under which a fault is reported. -/
def kind : Fault → FaultKind
  | .unknownMnemonic _ => .unknownMnemonic
  | .operandCount _ _ _ => .operandCountMismatch
  | .malformedRegister _ | .registerOutOfRange _ | .malformedAddress _ => .malformedRegister
  | .malformedHexadecimal _ | .malformedDecimal _ => .malformedImmediate
  | .immediateOutOfRange _ _ => .immediateOutOfRange

/-- The wording of a fault. -/
def message : Fault → Text
  | .unknownMnemonic mnemonic =>
    "Instrucción desconocida: ".toList ++ Text.Quoted.quote mnemonic
  | .operandCount mnemonic form given =>
    mnemonic ++ " espera ".toList ++ Numeral.ofNat form.length ++
      " operando(s), recibió ".toList ++ Numeral.ofNat given
  | .malformedRegister token =>
    "Registro inválido: '".toList ++ token ++ "' (se esperaba R0..R15)".toList
  | .registerOutOfRange token =>
    "Registro fuera de rango: '".toList ++ token ++ "' (sólo R0..R15)".toList
  | .malformedAddress token =>
    "Operando de dirección inválido: '".toList ++ token ++ "' (esperado offset(Rn))".toList
  | .malformedHexadecimal token =>
    "Inmediato hexadecimal inválido: '".toList ++ token ++ "'".toList
  | .malformedDecimal token => "Inmediato inválido: '".toList ++ token ++ "'".toList
  | .immediateOutOfRange width value =>
    "Inmediato de ".toList ++ Numeral.ofNat width ++ " bits con signo fuera de rango (".toList ++
      Numeral.ofInt (Bits.leastSigned width) ++ "..".toList ++
      Numeral.ofInt (Bits.greatestSigned width) ++
      "): ".toList ++ Numeral.ofInt value

/-- The operands of a form, in words. -/
def describeForm (form : List Role) : Text :=
  if form.isEmpty then "ninguno".toList else ", ".toList.intercalate (form.map Role.name)

/-- What the line should have had. -/
def hint : Fault → Option Text
  | .operandCount mnemonic form _ =>
    some ("forma: ".toList ++ mnemonic ++ " ".toList ++ describeForm form)
  | .malformedHexadecimal _ => some "dígitos 0-9, A-F tras '$'".toList
  | .malformedDecimal _ => some "decimal (p.ej. -2) o $hex (p.ej. $FF)".toList
  | _ => none

/-- A fault in words. -/
def problem (fault : Fault) : Problem := ⟨fault.kind, fault.message, fault.hint⟩

end Fault

/-- How reading or encoding one line fails: by a fault of the line, or by a
conversion past the digit limit. -/
inductive Failure where
  | fault (fault : Fault)
  | limit (limit : DigitLimit)
deriving DecidableEq

/-- The kind under which a failure is reported. A conversion past the digit
limit is reported under none. -/
def Failure.kind? : Failure → Option FaultKind
  | .fault cause => some cause.kind
  | .limit _ => none

end LineAssembler
