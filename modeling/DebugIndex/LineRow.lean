import DebugIndex.Text.Numeral

/-!
# Line rows

A row of a line table ties a code address to a source line.  Rows are looked up
by address: exactly, or the nearest one before it in a list in ascending order.
-/

namespace DebugIndex

/-- A code address, its source line counted from one, and the text of that line
if it is known. -/
structure LineRow where
  address : Int
  line : Int
  text : Option String := none
  deriving DecidableEq

namespace LineRow

def description (row : LineRow) : String :=
  Numeral.address row.address ++ ": line " ++ Numeral.decimal row.line

/-- The first row exactly at an address. -/
def exactlyAt? (rows : List LineRow) (address : Int) : Option LineRow :=
  rows.find? fun row => row.address = address

/-- Scan rows up to the first one past an address, with the last row before it so far. -/
def scan (address : Int) : Option LineRow → List LineRow → Option LineRow
  | preceding, [] => preceding
  | preceding, row :: rest =>
      if row.address = address then some row
      else if address < row.address then preceding
      else scan address (some row) rest

/-- The row at an address, else the nearest one before it.  The scan stops at the
first row past the address, so the rows should be in ascending order. -/
def nearest? (rows : List LineRow) (address : Int) : Option LineRow :=
  scan address none rows

def lastUpTo? (rows : List LineRow) (address : Int) : Option LineRow :=
  (rows.takeWhile fun row => row.address ≤ address).getLast?

end LineRow
end DebugIndex
