import DebugIndex.Entry.Tag
import DebugIndex.Text.Numeral

/-!
# Type tables

The type entries of one compilation unit in the order of their discovery.  An
entry is known by its offset; of several entries with one offset the first is
meant.
-/

namespace DebugIndex

/-- A member of a struct or union, with its place inside. -/
structure Member where
  name : Option String
  typeOffset : Int
  location : Int := 0
  deriving DecidableEq

/-- An entry that describes a type, and the offset of the type it refers to,
zero if it refers to none. -/
structure TypeEntry where
  tag : Tag
  offset : Int
  typeOffset : Int := 0
  byteSize : Int := 0
  encoding : Int := 0
  name : Option String := none
  members : List Member := []
  deriving DecidableEq

/-- The type entries of one compilation unit. -/
structure TypeTable where
  entries : List TypeEntry := []
  deriving DecidableEq

/-- A member in one line: name, place and type. -/
def Member.text (member : Member) : String :=
  member.name.getD "None" ++ "@+" ++ Numeral.decimal member.location ++
    " -> <" ++ Numeral.address member.typeOffset ++ ">"

/-- A type entry in one line: offset, tag, and name and reference if there are any. -/
def TypeEntry.text (entry : TypeEntry) : String :=
  let named :=
    match entry.name with
    | none | some "" => ""
    | some name => " " ++ name
  let refers :=
    if entry.typeOffset ≠ 0 then " -> <" ++ Numeral.address entry.typeOffset ++ ">" else ""
  "<" ++ Numeral.address entry.offset ++ "> " ++ entry.tag.text ++ named ++ refers

namespace TypeTable

/-- The table with one more entry at its end. -/
def add (table : TypeTable) (entry : TypeEntry) : TypeTable where
  entries := table.entries ++ [entry]

def get? (table : TypeTable) (offset : Int) : Option TypeEntry :=
  table.entries.find? fun entry => entry.offset = offset

/-- The number of entries, with those that repeat an offset. -/
def size (table : TypeTable) : Nat :=
  table.entries.length

/-- The entry that a reference leads to: zero leads nowhere. -/
def target? (table : TypeTable) (reference : Int) : Option TypeEntry :=
  if reference = 0 then none else table.get? reference

end TypeTable
end DebugIndex
