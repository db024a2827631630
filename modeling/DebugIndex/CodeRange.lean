import DebugIndex.Text.Numeral

/-!
# Code ranges

Half-open ranges of code addresses, sorted by their low and then their high
address.  Equal ranges stay in the order in which they were inserted.  A range
remembers the position of the function that it belongs to.
-/

namespace DebugIndex

/-- The range of addresses from `low` up to, but not including, `high`. -/
structure CodeRange where
  low : Int
  high : Int
  name : Option String := none
  position : Nat := 0
  deriving DecidableEq

namespace CodeRange

def contains (range : CodeRange) (address : Int) : Bool :=
  range.low ≤ address && address < range.high

/-- Whether two ranges have the same addresses. -/
def alike (left right : CodeRange) : Bool :=
  left.low = right.low && left.high = right.high

def before (left right : CodeRange) : Bool :=
  left.low < right.low || (left.low = right.low && left.high < right.high)

/-- Whether a range sorts before another or has the same addresses. -/
def notAfter (left right : CodeRange) : Bool :=
  left.before right || left.alike right

/-- A range in one line: its addresses, and the name of its function if it has one. -/
def text (range : CodeRange) : String :=
  let named :=
    match range.name with
    | none | some "" => ""
    | some name => ": " ++ name
  "[" ++ Numeral.hex range.low ++ ".." ++ Numeral.hex range.high ++ ")" ++ named

/-- Insert a range into sorted ranges, behind those that it does not sort before. -/
def insert (range : CodeRange) : List CodeRange → List CodeRange
  | [] => [range]
  | first :: rest =>
      if range.before first then range :: first :: rest else first :: insert range rest

/-- Sort ranges, keeping the order of those with the same addresses. -/
def sort (ranges : List CodeRange) : List CodeRange :=
  ranges.foldl (fun sorted range => insert range sorted) []

/-- Scan sorted ranges for those that contain an address, keeping the one with
the least position, and stop where ranges begin past the address. -/
def scan (address : Int) : Option CodeRange → List CodeRange → Option CodeRange
  | found, [] => found
  | found, range :: rest =>
      if address < range.low then found
      else if range.contains address && found.all (range.position < ·.position) then
        scan address (some range) rest
      else scan address found rest

/-- Of the sorted ranges that contain an address, the one with the least position. -/
def at? (ranges : List CodeRange) (address : Int) : Option CodeRange :=
  scan address none ranges

end CodeRange
end DebugIndex
