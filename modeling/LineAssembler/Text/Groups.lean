import LineAssembler.Text.Basic

/-!
# Groups

Cutting a text into groups of given widths from left to right. Every width has to
be positive, whatever the total, and the groups have to cover the text exactly.
-/

namespace LineAssembler.Text

/-- Why a text cannot be cut into groups of the given widths. -/
inductive GroupFault where
  | invalidWidth
  | notCovering
deriving DecidableEq

/-- The wording of a grouping fault. -/
def GroupFault.message : GroupFault → Text
  | .invalidWidth => "ancho de grupo inválido".toList
  | .notCovering => "los anchos no cubren la cadena completa".toList

/-- The groups of the given widths from `position` on, and the position after
the last of them, which may lie beyond the end of the text. -/
def groupsFrom (text : Text) (position : Nat) :
    List Int → Except GroupFault (List Text × Nat)
  | [] => .ok ([], position)
  | width :: widths =>
    if width ≤ 0 then .error .invalidWidth
    else
      (groupsFrom text (position + width.toNat) widths).map fun (groups, stop) =>
        ((text.drop position).take width.toNat :: groups, stop)

/-- The groups of the given widths, with a separator between neighbours. -/
def group (separator : Text) (widths : List Int) (text : Text) : Except GroupFault Text :=
  match groupsFrom text 0 widths with
  | .error fault => .error fault
  | .ok (groups, stop) =>
    if stop = text.length then .ok (separator.intercalate groups) else .error .notCovering

end LineAssembler.Text
