import LineAssembler.Encoding

/-!
# Disassembly

A word is read back by its opcode: the opcode, and for a branch the condition,
select an instruction, whose layout cuts the word into slices. A word is an
instruction only if its reserved bits are zero. An instruction read back has a
canonical source line, which writes registers and immediates in decimal.
-/

namespace LineAssembler

/-- An instruction read back from a word: its entry in the instruction set and
the values of its roles. -/
structure Disassembly where
  entry : InstructionSet.Entry
  operands : Operands

namespace Layout

/-- The slices of a word along spans that end at its least significant bit. -/
def slices (word : Nat) : List Span → List (Slot × Nat)
  | [] => []
  | span :: rest =>
    (span.slot, (word >>> Span.totalWidth rest) % Bits.modulus span.width) :: slices word rest

/-- The bits of a slot in a word, or zero if the layout has no such slot. -/
def bitsOf (layout : Layout) (word : Nat) (slot : Slot) : Nat :=
  ((slices word layout.spans).lookup slot).getD 0

/-- Whether all reserved bits of a word are zero. -/
def reservesZero (layout : Layout) (word : Nat) : Bool :=
  (slices word layout.spans).all fun (slot, bits) => slot != .reserved || bits == 0

/-- The register in a slot of a word, whose index is the low four bits there. -/
def registerOf (layout : Layout) (word : Nat) (slot : Slot) : Register :=
  ⟨layout.bitsOf word slot % 16, Nat.mod_lt _ Register.count_pos⟩

/-- The operands in a word; the immediate is signed. -/
def operandsOf (layout : Layout) (word : Nat) : Operands where
  ra := layout.registerOf word .ra
  rb := layout.registerOf word .rb
  rc := layout.registerOf word .rc
  imm := Bits.signExtend Span.imm.width (layout.bitsOf word .imm)

end Layout

namespace InstructionSet

/-- The opcode of a word: its top five bits. -/
def opcodeOf (word : Nat) : Nat := word >>> 27

/-- Whether a word has the opcode and, for a branch, the condition of an
instruction. -/
def Entry.selects (entry : Entry) (word : Nat) : Bool :=
  entry.spec.opcode.val == opcodeOf word &&
    entry.spec.cond.all fun cond => cond.val == entry.spec.layout.bitsOf word .cond

end InstructionSet

namespace Disassembly

/-- Read a word back. -/
def ofWord? (word : Nat) : Option Disassembly :=
  match InstructionSet.table.find? (·.selects word) with
  | none => none
  | some entry =>
    if entry.spec.layout.reservesZero word then
      some ⟨entry, entry.spec.layout.operandsOf word⟩
    else none

/-- A register as it is written in a canonical line. -/
def renderRegister (register : Register) : Text := 'R' :: Numeral.ofNat register.val

/-- An operand as it is written in a canonical line. -/
def renderOperand (operands : Operands) : Role → Text
  | .ra => renderRegister operands.ra
  | .rb => renderRegister operands.rb
  | .rc => renderRegister operands.rc
  | .imm => Numeral.ofInt operands.imm
  | .addr => Numeral.ofInt operands.imm ++ '(' :: renderRegister operands.rb ++ [')']

/-- The operands of an instruction, in the order of its form. -/
def renderOperands (disassembly : Disassembly) : List Text :=
  disassembly.entry.spec.form.map (renderOperand disassembly.operands)

/-- The canonical source line of an instruction. -/
def render (disassembly : Disassembly) : Text :=
  let operands := disassembly.renderOperands
  if operands.isEmpty then disassembly.entry.mnemonic
  else disassembly.entry.mnemonic ++ ' ' :: ", ".toList.intercalate operands

end Disassembly

end LineAssembler
