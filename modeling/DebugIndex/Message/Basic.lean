import DebugIndex.Value.Text

/-!
# Messages

A message is a text and a level.  Five levels have a meaning; any other value is
passed on as it is and shown like ordinary information.
-/

namespace DebugIndex

/-- The levels of messages that have a meaning. -/
inductive Level
  | info
  | warn
  | err
  | debug
  | success
  deriving DecidableEq

namespace Level

def code : Level → Int
  | .info => 0
  | .warn => 2
  | .err => 3
  | .debug => 4
  | .success => 5

def value (level : Level) : Value :=
  .int level.code

/-- The level that a value is equal to; information if there is none. -/
def ofValue (value : Value) : Level :=
  ([warn, err, debug, success].find? fun level => value.same level.value).getD .info

end Level

/-- A text for the user, and how it is meant. -/
structure Message where
  text : String
  level : Value

namespace Message

def ofLevel (level : Level) (text : String) : Message :=
  ⟨text, level.value⟩

/-- A message made of several parts: texts as they are, the rest as written. -/
def ofParts (level : Value) (parts : List Value) : Message :=
  ⟨String.join (parts.map Value.plain), level⟩

end Message
end DebugIndex
