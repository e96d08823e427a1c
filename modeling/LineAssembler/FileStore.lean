import LineAssembler.Text.Quoted

/-!
# Stores of files

Whatever holds files behind paths: it answers when a path is read, and when bytes are
to be written to a path. Nothing is said about when it refuses, or why. A write that
is refused yields no other store, so the one before it stays.
-/

namespace LineAssembler

/-- A path as it can be handed to a store of files: it holds no null character. -/
@[ext]
structure Path where
  text : Text
  null_not_mem : '\x00' ∉ text

/-- The path that a text names, unless the text holds a null character. -/
def Path.ofText? (text : Text) : Option Path :=
  if absent : '\x00' ∉ text then some ⟨text, absent⟩ else none

/-- Why a path cannot be read or written: any number, with any reason. -/
structure AccessFault where
  code : Nat
  reason : Text
deriving DecidableEq

/-- The wording of a fault at a path. -/
def AccessFault.message (fault : AccessFault) (path : Text) : Text :=
  "[Errno ".toList ++ Numeral.ofNat fault.code ++ "] ".toList ++ fault.reason ++ ": ".toList ++
    Text.Quoted.quote path

/-- Stores of files of some type. Either request may be refused for any path. -/
class FileStore (σ : Type) where
  /-- The bytes of the file at a path. -/
  read (files : σ) (path : Path) : Except AccessFault (List UInt8)
  /-- The store with other bytes at a path. -/
  write (files : σ) (path : Path) (bytes : List UInt8) : Except AccessFault σ

end LineAssembler
