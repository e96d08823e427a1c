import LineAssembler.InstructionSet.Layout
import LineAssembler.Text.Quoted

/-!
# Instruction specifications

A specification says how an instruction is laid out and which operands it takes.
Its opcode has five bits, and it has a two-bit condition exactly when it is a
branch; both rules are part of the type. The vocabulary of operand roles is a
parameter.
-/

namespace LineAssembler

/-- How one instruction is written and encoded. -/
structure Spec (ρ : Type) where
  layout : Layout
  opcode : Fin 32
  cond : Option (Fin 4)
  form : List ρ
  isSome_cond : cond.isSome = (layout == .branch)

namespace Spec

/-- Why a specification is refused. -/
inductive Fault where
  | unknownLayout (name : Text)
  | opcodeOutOfRange (opcode : Int)
  | misplacedCondition
  | conditionOutOfRange (cond : Int)
deriving DecidableEq

/-- The wording of a refusal. -/
def Fault.message : Fault → Text
  | .unknownLayout name => Text.Quoted.quote name ++ " is not a valid Layout".toList
  | .opcodeOutOfRange opcode => "opcode fuera de rango: ".toList ++ Numeral.ofInt opcode
  | .misplacedCondition => "cond es obligatorio en Branch y sólo en Branch".toList
  | .conditionOutOfRange cond => "cond fuera de rango: ".toList ++ Numeral.ofInt cond

/-- An integer as a natural number below a bound. -/
def bounded? (bound : Nat) (x : Int) : Option (Fin bound) :=
  if inside : 0 ≤ x ∧ x < bound then some ⟨x.toNat, by omega⟩ else none

/-- A specification with the given parts. The opcode is checked first, then that
a condition is given for a branch and for nothing else, then the condition. -/
def build {ρ : Type} (layout : Layout) (opcode : Int) (cond : Option Int) (form : List ρ) :
    Except Fault (Spec ρ) :=
  match bounded? 32 opcode with
  | none => .error (.opcodeOutOfRange opcode)
  | some opcode =>
    match cond with
    | none =>
      if branch : layout = .branch then .error .misplacedCondition
      else .ok ⟨layout, opcode, none, form, by simp [branch]⟩
    | some cond =>
      if branch : layout = .branch then
        match bounded? 4 cond with
        | none => .error (.conditionOutOfRange cond)
        | some cond => .ok ⟨layout, opcode, some cond, form, by simp [branch]⟩
      else .error .misplacedCondition

/-- A specification whose layout is given by name; the name is checked before
all else. -/
def buildNamed {ρ : Type} (layout : Text) (opcode : Int) (cond : Option Int) (form : List ρ) :
    Except Fault (Spec ρ) :=
  match Layout.ofName? layout with
  | none => .error (.unknownLayout layout)
  | some layout => build layout opcode cond form

end Spec

end LineAssembler
