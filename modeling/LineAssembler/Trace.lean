import LineAssembler.Field

/-!
# Trace

Events that the assembler records as it works. Each has a channel, a level and a
wording. What was recorded stays recorded, whatever the work comes to.
-/

namespace LineAssembler

/-- The level of an event. -/
inductive Level where
  | debug
  | info
deriving DecidableEq

/-- What is recorded: the fields of an encoded line, its word, and the end of a
successful run. -/
inductive Event where
  | fields (line : Option Int) (fields : List Field)
  | encoded (line : Option Int) (text : Text) (word : Int)
  | assembled (count : Nat) (source : Text)
deriving DecidableEq

namespace Event

/-- The channel on which an event is recorded. -/
def channel : Event → Text
  | .fields _ _ | .encoded _ _ _ => "asm374.encoding".toList
  | .assembled _ _ => "asm374.assembler".toList

/-- The level at which an event is recorded. -/
def level : Event → Level
  | .fields _ _ => .debug
  | .encoded _ _ _ | .assembled _ _ => .info

/-- A line number in an event. -/
def lineNumber : Option Int → Text
  | some line => Numeral.ofInt line
  | none => "None".toList

/-- The wording of an event. -/
def message : Event → Text
  | .fields line values =>
    "line ".toList ++ lineNumber line ++ ": fields ".toList ++
      Field.renderList Field.renderPair values
  | .encoded line text word =>
    "line ".toList ++ lineNumber line ++ ": \"".toList ++ Text.trim text ++ "\" -> ".toList ++
      Word.markedHexadecimal word
  | .assembled count source =>
    Numeral.ofNat count ++ " instrucciones ensambladas desde ".toList ++ source

/-- An event as it is printed: its channel and its wording. -/
def render (event : Event) : Text := event.channel ++ ": ".toList ++ event.message

end Event

/-- What some work came to, and the events recorded on the way, in order. -/
structure Recorded (α : Type) where
  events : List Event
  result : α

/-- Work that events were recorded before. -/
def Recorded.after {α : Type} (events : List Event) (work : Recorded α) : Recorded α :=
  ⟨events ++ work.events, work.result⟩

end LineAssembler
