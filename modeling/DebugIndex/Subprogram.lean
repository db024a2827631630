import DebugIndex.LineRow
import DebugIndex.Variable

/-!
# Subprograms

A function: its half-open range of code addresses, its declaration line, its
variables and the rows of the unit's line table that fall into its range.
-/

namespace DebugIndex

/-- The item of a list counted from one. -/
def nth? {α : Type} (items : List α) (index : Int) : Option α :=
  if index < 1 then none else items[(index - 1).toNat]?

/-- A function.  The frame base is the first opcode of its expression, or its
constant value. -/
structure Subprogram where
  name : Option String := none
  low : Int := 0
  high : Int := 0
  declarationLine : Int := 0
  frameBase : Int := 0
  declarationText : Option String := none
  rows : List LineRow := []
  locals : List Variable := []

namespace Subprogram

/-- Whether an address lies in the range of a function. -/
def contains (subprogram : Subprogram) (address : Int) : Bool :=
  subprogram.low ≤ address && address < subprogram.high

/-- Whether the range of a function holds any address. -/
def hasCode (subprogram : Subprogram) : Bool :=
  subprogram.low < subprogram.high

/-- The variable counted from one. -/
def nthVariable? (subprogram : Subprogram) (index : Int) : Option Variable :=
  nth? subprogram.locals index

/-- The row of a function at an address, else the nearest one before it. -/
def rowAt? (subprogram : Subprogram) (address : Int) : Option LineRow :=
  LineRow.nearest? subprogram.rows address

/-- A function in one line: its name and range. -/
def text (subprogram : Subprogram) : String :=
  subprogram.name.getD "None" ++ " [" ++ Numeral.hex subprogram.low ++ ".." ++
    Numeral.hex subprogram.high ++ ")"

end Subprogram
end DebugIndex
