import DebugIndex.Number.Binary64
import DebugIndex.Text.Point

/-!
# Dynamic values

The values that settings hold, that attributes carry and that messages show.
Numbers of the three kinds (truth values count as 0 and 1) are compared by what
they are worth, not by kind.  A text with surrogates in it is a text too, but not
one of characters alone, so it is kept as its code points.
-/

namespace DebugIndex

/-- A value whose kind is known only when the program runs.  Of an object nothing is
known but its kind and how it is written. -/
inductive Value
  | null
  | bool (truth : Bool)
  | int (whole : Int)
  | float (number : Binary64)
  | text (characters : String)
  | rawText (content : Text.Raw)
  | bytes (content : List UInt8)
  | list (items : List Value)
  | tuple (items : List Value)
  | map (entries : List (Value × Value))
  | object (kind shown : String)

namespace Value

instance : Inhabited Value := ⟨.null⟩

/-- The object that three points stand for. -/
def ellipsis : Value := .object "ellipsis" "Ellipsis"

/-- The text of code points, which is raw if a surrogate is among them.  There are no points
beyond the last. -/
def ofPoints (points : List Nat) : Value :=
  if raw : points.any Text.isSurrogate = true ∧ ∀ point ∈ points, point ≤ 0x10ffff then
    .rawText ⟨points, raw.1, raw.2⟩
  else .text (String.ofList (points.map Text.characterOf))

def points? : Value → Option (List Nat)
  | .text characters => some (Text.pointsOf characters)
  | .rawText raw => some raw.points
  | _ => none

@[simp]
theorem ofPoints_pointsOf (characters : String) :
    ofPoints (Text.pointsOf characters) = .text characters := by
  simp [ofPoints, Text.any_isSurrogate_pointsOf, Text.map_characterOf_pointsOf]

@[simp]
theorem ofPoints_points (raw : Text.Raw) : ofPoints raw.points = .rawText raw :=
  dif_pos ⟨raw.surrogate, raw.inRange⟩

/-- Whether a value is a text that is not made of characters alone. -/
def isRaw : Value → Bool
  | .rawText _ => true
  | _ => false

def kind : Value → String
  | .null => "NoneType"
  | .bool _ => "bool"
  | .int _ => "int"
  | .float _ => "float"
  | .text _ | .rawText _ => "str"
  | .bytes _ => "bytes"
  | .list _ => "list"
  | .tuple _ => "tuple"
  | .map _ => "dict"
  | .object kind _ => kind

/-- Whether a value counts as true: neither nothing, nor zero, nor empty. -/
def truthy : Value → Bool
  | .null => false
  | .bool truth => truth
  | .int whole => whole != 0
  | .float number => !number.isZero
  | .text characters => !characters.isEmpty
  | .rawText raw => !raw.points.isEmpty
  | .bytes content => !content.isEmpty
  | .list items | .tuple items => !items.isEmpty
  | .map entries => !entries.isEmpty
  | .object .. => true

/-- The whole number that a truth value or a whole number is worth. -/
def whole? : Value → Option Int
  | .bool truth => some (if truth then 1 else 0)
  | .int whole => some whole
  | _ => none

/-- The whole number that a value is equal to. -/
def worth? : Value → Option Int
  | .float number => number.whole?
  | value => value.whole?

/-- How a number compares with a whole number. -/
def order? (value : Value) (whole : Int) : Option Ordering :=
  match value with
  | .float number => number.order? whole
  | other => other.whole?.map fun number => compare number whole

def isNumber : Value → Bool
  | .bool _ | .int _ | .float _ => true
  | _ => false

/-- Whether two values that hold no other values are equal. -/
def sameScalar : Value → Value → Bool
  | .null, .null => true
  | .text left, .text right => left = right
  | .rawText left, .rawText right => left.points = right.points
  | .bytes left, .bytes right => left = right
  | .object leftKind left, .object rightKind right => leftKind = rightKind && left = right
  | .float left, .float right => left.sameValue right
  | .float number, other => other.whole?.any number.isWhole
  | other, .float number => other.whole?.any number.isWhole
  | left, right =>
      match left.whole?, right.whole? with
      | some leftWhole, some rightWhole => leftWhole = rightWhole
      | _, _ => false

mutual

/-- Whether two values are equal: lists and tuples item by item, maps entry by entry
in any order. -/
def same : Value → Value → Bool
  | .list left, .list right | .tuple left, .tuple right => sameItems left right
  | .map left, .map right => left.length = right.length && sameEntries left right
  | left, right => sameScalar left right

/-- Whether two lists of values are equal item by item. -/
def sameItems : List Value → List Value → Bool
  | [], [] => true
  | left :: lefts, right :: rights => same left right && sameItems lefts rights
  | _, _ => false

/-- Whether each entry has an equal one among the others. -/
def sameEntries : List (Value × Value) → List (Value × Value) → Bool
  | [], _ => true
  | (key, value) :: rest, others =>
      others.any (fun other => same key other.1 && same value other.2) &&
        sameEntries rest others

end

mutual

/-- Whether a value can be the key of a map: neither a list nor a map is in it. -/
def isKey : Value → Bool
  | .list _ | .map _ => false
  | .tuple items => areKeys items
  | _ => true

/-- Whether all of some values can be keys of a map. -/
def areKeys : List Value → Bool
  | [] => true
  | item :: rest => isKey item && areKeys rest

end

/-- Set a key of a map: a new key goes to the end, a known one keeps its place. -/
def put (entries : List (Value × Value)) (key value : Value) : List (Value × Value) :=
  match entries with
  | [] => [(key, value)]
  | (known, old) :: rest =>
      if same known key then (known, value) :: rest
      else (known, old) :: put rest key value

end Value
end DebugIndex
