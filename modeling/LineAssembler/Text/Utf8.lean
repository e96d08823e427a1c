import LineAssembler.Numeral

/-!
# UTF-8

Strict decoding of UTF-8, one byte at a time. Overlong forms, surrogates and code
points past the last one are ruled out by the range that the second byte of a
sequence may have. A fault names the bytes of the sequence that was being read, up
to but not including the byte that did not fit. A byte order mark is a character
like any other.
-/

namespace LineAssembler.Text.Utf8

/-- The three ways in which bytes fail to be UTF-8. -/
inductive Reason where
  | invalidStart
  | invalidContinuation
  | unexpectedEnd
deriving DecidableEq

/-- The bytes from position `first` to position `last`, the first of which is
`byte`, are not the encoding of a character. -/
structure Fault where
  byte : UInt8
  first : Nat
  last : Nat
  reason : Reason
deriving DecidableEq

/-- The wording of a reason. -/
def Reason.message : Reason → Text
  | .invalidStart => "invalid start byte".toList
  | .invalidContinuation => "invalid continuation byte".toList
  | .unexpectedEnd => "unexpected end of data".toList

/-- A single byte is shown with its value, several by their positions. -/
def Fault.message (fault : Fault) : Text :=
  "'utf-8' codec can't decode ".toList ++
    (if fault.first = fault.last then
      "byte 0x".toList ++ Numeral.fixed 16 2 fault.byte.toNat ++ " in position ".toList ++
        Numeral.ofNat fault.first
    else
      "bytes in position ".toList ++ Numeral.ofNat fault.first ++ ['-'] ++
        Numeral.ofNat fault.last) ++
    ": ".toList ++ fault.reason.message

/-- A sequence under way: its first byte and where that stands, how many bytes
are still owed, the range of the next byte, and the bits read so far. -/
structure Sequence where
  byte : UInt8
  first : Nat
  owed : Nat
  low : UInt8
  high : UInt8
  bits : Nat

/-- The sequence of several bytes that a first byte opens. -/
def Sequence.open? (position : Nat) (byte : UInt8) : Option Sequence :=
  if 0xC2 ≤ byte ∧ byte ≤ 0xDF then some ⟨byte, position, 1, 0x80, 0xBF, byte.toNat - 0xC0⟩
  else if byte = 0xE0 then some ⟨byte, position, 2, 0xA0, 0xBF, 0⟩
  else if byte = 0xED then some ⟨byte, position, 2, 0x80, 0x9F, 0xD⟩
  else if 0xE1 ≤ byte ∧ byte ≤ 0xEF then some ⟨byte, position, 2, 0x80, 0xBF, byte.toNat - 0xE0⟩
  else if byte = 0xF0 then some ⟨byte, position, 3, 0x90, 0xBF, 0⟩
  else if 0xF1 ≤ byte ∧ byte ≤ 0xF3 then some ⟨byte, position, 3, 0x80, 0xBF, byte.toNat - 0xF0⟩
  else if byte = 0xF4 then some ⟨byte, position, 3, 0x80, 0x8F, 4⟩
  else none

/-- Decode the bytes from `position` on, given the sequence under way, if any. -/
def decodeFrom (position : Nat) : Option Sequence → List UInt8 → Except Fault Text
  | none, [] => .ok []
  | some sequence, [] =>
    .error ⟨sequence.byte, sequence.first, position - 1, .unexpectedEnd⟩
  | none, byte :: rest =>
    if byte < 0x80 then
      (decodeFrom (position + 1) none rest).map (Char.ofNat byte.toNat :: ·)
    else match Sequence.open? position byte with
      | some sequence => decodeFrom (position + 1) (some sequence) rest
      | none => .error ⟨byte, position, position, .invalidStart⟩
  | some sequence, byte :: rest =>
    if sequence.low ≤ byte ∧ byte ≤ sequence.high then
      let bits := sequence.bits * 64 + (byte.toNat - 0x80)
      if sequence.owed = 1 then
        (decodeFrom (position + 1) none rest).map (Char.ofNat bits :: ·)
      else
        decodeFrom (position + 1)
          (some { sequence with owed := sequence.owed - 1, low := 0x80, high := 0xBF, bits })
          rest
    else .error ⟨sequence.byte, sequence.first, position - 1, .invalidContinuation⟩

/-- The text that bytes encode. -/
def decode (bytes : List UInt8) : Except Fault Text := decodeFrom 0 none bytes

/-- The bytes that encode a text. -/
def encode (text : Text) : List UInt8 := text.flatMap String.utf8EncodeChar

end LineAssembler.Text.Utf8
