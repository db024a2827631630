import DebugIndex.Variable

/-!
# Name indexes

Global variables by name, in ascending order of their names by code point.  The
first variable with a name is the one that is found.
-/

namespace DebugIndex

/-- How variables are kept under names in ascending order: how one more goes in under a name
that is new, and how the names from a text on are gone through. -/
structure NameOrder where
  insert : String → Variable → List (String × Variable) → List (String × Variable)
  namesFrom : String → List (String × Variable) → List String

namespace NameOrder

/-- Insert a variable under a name in front of the first name behind it. -/
def insertInto (name : String) (item : Variable) :
    List (String × Variable) → List (String × Variable)
  | [] => [(name, item)]
  | (known, first) :: rest =>
      if name < known then (name, item) :: (known, first) :: rest
      else (known, first) :: insertInto name item rest

/-- Entries in a list, which is gone through from its beginning. -/
def listed : NameOrder where
  insert := insertInto
  namesFrom start entries := (entries.map Prod.fst).dropWhile (· < start)

end NameOrder

/-- Variables under their names, in ascending order of the names. -/
structure NameIndex where
  entries : List (String × Variable) := []

namespace NameIndex

def get? (index : NameIndex) (name : String) : Option Variable :=
  index.entries.lookup name

/-- The index with one more variable, if the variable has a name that is new. -/
def addWith (order : NameOrder) (index : NameIndex) (item : Variable) : NameIndex :=
  match item.name with
  | some name =>
      if (index.get? name).isSome then index else ⟨order.insert name item index.entries⟩
  | none => index

def ofListWith (order : NameOrder) (items : List Variable) : NameIndex :=
  items.foldl (addWith order) {}

def ofList (items : List Variable) : NameIndex :=
  ofListWith .listed items

/-- The names that begin with a text, where names are kept in an order.  They stand
together, from the first name that is not before the text on. -/
def namesFromWith (order : NameOrder) (index : NameIndex) (start : String) : List String :=
  (order.namesFrom start index.entries).takeWhile fun name =>
    start.toList.isPrefixOf name.toList

/-- The names that begin with a text. -/
def namesFrom (index : NameIndex) (start : String) : List String :=
  index.namesFromWith .listed start

end NameIndex
end DebugIndex
