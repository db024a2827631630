import DebugIndex.Number.Reading

/-!
# Rows of character tables

A table relates single characters to sequences of characters.  It is written in
rows of entries with blanks between them.  An entry names a character, or the
first of several that follow each other and their count, and then the sequence
on the other side.  All numbers are in base sixteen.
-/

namespace DebugIndex
namespace Text
namespace Normal

/-- Characters that follow each other, `count` of them from `first` on, and the
sequence of the first of them.  The sequences of the others follow upon it. -/
structure TableEntry where
  first : Nat
  count : Nat := 1
  sequence : List Nat

def hexNumber (digits : List Char) : Nat :=
  digits.foldl (fun value digit => value * 16 + (Number.digitInBase? 16 digit).getD 0) 0

namespace TableEntry

def ofSides (left right : List Char) : TableEntry :=
  let sequence := (right.splitOn '+').map hexNumber
  match left.splitOn '*' with
  | [first, count] => ⟨hexNumber first, hexNumber count, sequence⟩
  | _ => ⟨hexNumber left, 1, sequence⟩

def ofRow (row : String) : List TableEntry :=
  (row.toList.splitOn ' ').filterMap fun written =>
    match written.splitOn '=' with
    | [left, right] => some (ofSides left right)
    | _ => none

/-- The sequence of a code point, if the entry is about it. -/
def sequenceOf? (entry : TableEntry) (point : Nat) : Option (List Nat) :=
  if entry.first ≤ point ∧ point < entry.first + entry.count then
    some (entry.sequence.map (· + (point - entry.first)))
  else none

end TableEntry
end Normal
end Text
end DebugIndex
