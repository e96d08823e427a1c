import LineAssembler.InstructionSet.Spec
import LineAssembler.Text.Lowercase

/-!
# The instruction set

The thirty instructions of the machine, in the order of their opcodes. The four
branches share an opcode and differ in their condition. A mnemonic is looked up in
lower case.
-/

namespace LineAssembler.InstructionSet

/-- An instruction of the machine: its mnemonic and its specification. -/
structure Entry where
  mnemonic : Text
  spec : Spec Role

/-- An instruction other than a branch, with the operand order of its layout. -/
def entry (mnemonic : String) (layout : Layout) (opcode : Fin 32)
    (notBranch : (none : Option (Fin 4)).isSome = (layout == .branch) := by rfl) : Entry :=
  ⟨mnemonic.toList, ⟨layout, opcode, none, layout.form, notBranch⟩⟩

/-- The names and conditions of the branches. -/
def branchConditions : List (Text × Fin 4) :=
  [("brzr".toList, 0), ("brnz".toList, 1), ("brpl".toList, 2), ("brmi".toList, 3)]

/-- A branch. -/
def branch (mnemonic : Text) (cond : Fin 4) : Entry :=
  ⟨mnemonic, ⟨.branch, 18, some cond, Layout.branch.form, rfl⟩⟩

/-- All instructions. A store names its address before its register. -/
def table : List Entry :=
  [entry "ld" .loadStore 0,
   entry "ldi" .loadStore 1,
   ⟨"st".toList, ⟨.loadStore, 2, none, [.addr, .ra], rfl⟩⟩,
   entry "add" .aluReg3 3,
   entry "sub" .aluReg3 4,
   entry "shr" .aluReg3 5,
   entry "shl" .aluReg3 6,
   entry "ror" .aluReg3 7,
   entry "rol" .aluReg3 8,
   entry "and" .aluReg3 9,
   entry "or" .aluReg3 10,
   entry "addi" .aluRegImm 11,
   entry "andi" .aluRegImm 12,
   entry "ori" .aluRegImm 13,
   entry "mul" .aluReg2 14,
   entry "div" .aluReg2 15,
   entry "neg" .aluReg2 16,
   entry "not" .aluReg2 17] ++
  branchConditions.map (fun (mnemonic, cond) => branch mnemonic cond) ++
  [entry "jr" .oneReg 19,
   entry "jal" .oneReg 20,
   entry "in" .oneReg 21,
   entry "out" .oneReg 22,
   entry "mfhi" .oneReg 23,
   entry "mflo" .oneReg 24,
   entry "nop" .noOperand 25,
   entry "halt" .noOperand 26]

/-- The specification of a mnemonic written in any case. -/
def find? (mnemonic : Text) : Option (Spec Role) :=
  (table.find? (·.mnemonic == Text.lower mnemonic)).map Entry.spec

end LineAssembler.InstructionSet
