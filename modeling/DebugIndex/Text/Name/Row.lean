import DebugIndex.Number.Reading

/-!
# Rows of names

Names of code points that follow each other often begin alike.  A row holds such
names: the first code point, what the names have in common, and how each of them
ends.
-/

namespace DebugIndex
namespace Text
namespace Name

/-- The names of code points from `first` on: a common stem and an ending for each. -/
structure Row where
  first : Nat
  stem : List Char
  endings : List (List Char)

namespace Row

/-- The row in its written form: the first code point in base sixteen, a blank,
the stem, and a bar in front of each ending. -/
def ofText (written : String) : Row :=
  let characters := written.toList
  let number := characters.takeWhile (· ≠ ' ')
  match (characters.drop (number.length + 1)).splitOn '|' with
  | [] => ⟨(Number.hexNumber? number).getD 0, [], []⟩
  | stem :: endings => ⟨(Number.hexNumber? number).getD 0, stem, endings⟩

/-- The code point that has a name in a row. -/
def point? (row : Row) (name : List Char) : Option Nat :=
  if row.stem.isPrefixOf name then
    (row.endings.findIdx? (· = name.drop row.stem.length)).map (row.first + ·)
  else none

end Row

/-- The code point that has a name in some rows in written form. -/
def pointIn? (rows : List String) (name : List Char) : Option Nat :=
  rows.findSome? fun written => (Row.ofText written).point? name

end Name
end Text
end DebugIndex
