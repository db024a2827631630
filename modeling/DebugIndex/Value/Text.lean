import DebugIndex.Number.Shortest
import DebugIndex.Text.Quoted
import DebugIndex.Value.Basic

/-!
# The text of a value

A value is written the way a settings file spells it: text and bytes quoted,
lists in brackets, tuples in parentheses, maps in braces.  On its own, a text is
also shown plainly.  A whole number with too many digits has no text.
-/

namespace DebugIndex
namespace Value

/-- What ends the written form of a tuple: a single item has a comma behind it. -/
def closing : List Value → String
  | [_] => ",)"
  | _ => ")"

mutual

def written : Value → String
  | .null => "None"
  | .bool truth => if truth then "True" else "False"
  | .int whole => Numeral.decimal whole
  | .float number => number.text
  | .text characters => Text.quoted characters
  | .rawText raw => Text.quotedPoints raw.points
  | .bytes content => Text.quotedBytes content
  | .list items => "[" ++ ", ".intercalate (writtenItems items) ++ "]"
  | .tuple items => "(" ++ ", ".intercalate (writtenItems items) ++ closing items
  | .map entries => "\x7b" ++ ", ".intercalate (writtenEntries entries) ++ "\x7d"
  | .object _ shown => shown

def writtenItems : List Value → List String
  | [] => []
  | item :: rest => written item :: writtenItems rest

def writtenEntries : List (Value × Value) → List String
  | [] => []
  | (key, value) :: rest => (written key ++ ": " ++ written value) :: writtenEntries rest

end

mutual

/-- Whether a value has a text: no whole number in it has too many digits. -/
def isShort : Value → Bool
  | .int whole => Numeral.isShort whole
  | .list items | .tuple items => areShort items
  | .map entries => haveShort entries
  | _ => true

/-- Whether all of some values have a text. -/
def areShort : List Value → Bool
  | [] => true
  | item :: rest => isShort item && areShort rest

/-- Whether the keys and values of all of some entries have a text. -/
def haveShort : List (Value × Value) → Bool
  | [] => true
  | (key, value) :: rest => isShort key && isShort value && haveShort rest

end

/-- The plain form of a value: text as it is, the rest as written. -/
def plain : Value → String
  | .text characters => characters
  | .rawText raw => String.ofList (raw.points.map Text.characterOf)
  | value => written value

/-- A text that may be missing, as a value. -/
def ofText? : Option String → Value
  | some characters => .text characters
  | none => .null

end Value
end DebugIndex
