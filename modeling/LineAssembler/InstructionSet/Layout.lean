import LineAssembler.Field

/-!
# Layouts

An instruction word is divided into spans of bits, from the most significant down.
A layout fixes which spans there are. The seven layouts of the machine share the
opcode in the top five bits; reserved spans are always zero.
-/

namespace LineAssembler

/-- The families of instruction words. -/
inductive Layout where
  | loadStore
  | aluReg3
  | aluRegImm
  | aluReg2
  | branch
  | oneReg
  | noOperand
deriving DecidableEq

/-- What a span of an instruction word holds. -/
inductive Slot where
  | opcode
  | ra
  | rb
  | rc
  | cond
  | imm
  | reserved
deriving DecidableEq

/-- A slot and its width in bits. -/
structure Span where
  slot : Slot
  width : Nat
  width_pos : 0 < width

/-- What an operand in the source stands for. An address fills two slots: its
base register goes to `rb` and its offset to `imm`. -/
inductive Role where
  | ra
  | rb
  | rc
  | imm
  | addr
deriving DecidableEq

/-- The name of a slot. -/
def Slot.name : Slot → Text
  | .opcode => "opcode".toList
  | .ra => "ra".toList
  | .rb => "rb".toList
  | .rc => "rc".toList
  | .cond => "cond".toList
  | .imm => "imm".toList
  | .reserved => "reserved".toList

/-- The name of a role, as it is shown in the form of an instruction. -/
def Role.name : Role → Text
  | .ra => "ra".toList
  | .rb => "rb".toList
  | .rc => "rc".toList
  | .imm => "imm".toList
  | .addr => "addr".toList

/-- The opcode has five bits. -/
def Span.opcode : Span := ⟨.opcode, 5, by decide⟩

/-- The condition of a branch has two bits. -/
def Span.cond : Span := ⟨.cond, 2, by decide⟩

/-- The immediate has nineteen bits. -/
def Span.imm : Span := ⟨.imm, 19, by decide⟩

/-- A register is stored in four bits. -/
def registerWidth : Nat := 4

/-- A register takes at least one bit. -/
theorem registerWidth_pos : 0 < registerWidth := by decide

/-- A slot that holds a register. -/
def Span.register (slot : Slot) : Span := ⟨slot, registerWidth, registerWidth_pos⟩

/-- A reserved span of at least one bit. -/
def Span.reserved (width : Nat) (positive : 0 < width := by decide) : Span :=
  ⟨.reserved, width, positive⟩

/-- The sum of the widths of several spans. -/
def Span.totalWidth : List Span → Nat
  | [] => 0
  | span :: rest => span.width + totalWidth rest

namespace Layout

/-- All layouts, in the order in which they are listed. -/
def all : List Layout :=
  [.loadStore, .aluReg3, .aluRegImm, .aluReg2, .branch, .oneReg, .noOperand]

/-- The name of a layout. -/
def name : Layout → Text
  | .loadStore => "LoadStore".toList
  | .aluReg3 => "AluReg3".toList
  | .aluRegImm => "AluRegImm".toList
  | .aluReg2 => "AluReg2".toList
  | .branch => "Branch".toList
  | .oneReg => "OneReg".toList
  | .noOperand => "NoOperand".toList

/-- The layout of a given name. -/
def ofName? (name : Text) : Option Layout := all.find? (·.name == name)

/-- The spans of a layout, from the most significant down. -/
def spans : Layout → List Span
  | .loadStore => [.opcode, .register .ra, .register .rb, .imm]
  | .aluReg3 => [.opcode, .register .ra, .register .rb, .register .rc, .reserved 15]
  | .aluRegImm => [.opcode, .register .ra, .register .rb, .imm]
  | .aluReg2 => [.opcode, .register .ra, .register .rb, .reserved 19]
  | .branch => [.opcode, .register .ra, .cond, .reserved 2, .imm]
  | .oneReg => [.opcode, .register .ra, .reserved 23]
  | .noOperand => [.opcode, .reserved 27]

/-- The operands of the instructions of a layout, in source order, unless the
instruction has an order of its own. -/
def form : Layout → List Role
  | .loadStore => [.ra, .addr]
  | .aluReg3 => [.ra, .rb, .rc]
  | .aluRegImm => [.ra, .rb, .imm]
  | .aluReg2 => [.ra, .rb]
  | .branch => [.ra, .imm]
  | .oneReg => [.ra]
  | .noOperand => []

/-- Every layout fills a word. -/
theorem totalWidth_spans (layout : Layout) : Span.totalWidth layout.spans = Word.width := by
  cases layout <;> rfl

end Layout

end LineAssembler
