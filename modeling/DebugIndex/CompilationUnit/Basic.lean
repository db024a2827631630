import DebugIndex.CodeRange
import DebugIndex.SourceStatus
import DebugIndex.Subprogram
import DebugIndex.TypeTable.Basic
import DebugIndex.Value.Basic

/-!
# Compilation units

One unit of debug information: what the unit says about itself, the state of its
source file, its line table, types, global variables and functions.  The code
ranges of the functions are kept sorted beside them.
-/

namespace DebugIndex

/-- A compilation unit.  A source line can be known to exist without its text. -/
structure CompilationUnit where
  offset : Int := 0
  tag : Tag := .other none
  language : Int := 0
  producer : Option String := none
  low : Int := 0
  high : Int := 0
  sourceName : Option String := none
  sourceDirectory : Value := .null
  fullPath : Option String := none
  status : SourceStatus := .ok
  sourceModified : Option Int := none
  sourceText : Option String := none
  sourceLines : List (Option String) := []
  rows : List LineRow := []
  rowIndices : List Int := []
  rowTexts : List (Option String) := []
  frameCount : Nat := 0
  types : TypeTable := {}
  globals : List Variable := []
  subprograms : List Subprogram := []
  ranges : List CodeRange := []

namespace CompilationUnit

def contains (unit : CompilationUnit) (address : Int) : Bool :=
  unit.low ≤ address && address < unit.high

def addGlobal (unit : CompilationUnit) (item : Variable) : CompilationUnit :=
  { unit with globals := unit.globals ++ [item] }

def addType (unit : CompilationUnit) (entry : TypeEntry) : CompilationUnit :=
  { unit with types := unit.types.add entry }

def rangeOf (subprogram : Subprogram) (position : Nat) : CodeRange where
  low := subprogram.low
  high := subprogram.high
  name := subprogram.name
  position := position

/-- The unit with one more function, its code range put among the others by
`keep`.  A function without code gets no code range. -/
def addSubprogramWith (keep : CodeRange → List CodeRange → List CodeRange)
    (unit : CompilationUnit) (subprogram : Subprogram) : CompilationUnit :=
  { unit with
    subprograms := unit.subprograms ++ [subprogram]
    ranges :=
      if subprogram.hasCode then keep (rangeOf subprogram unit.subprograms.length) unit.ranges
      else unit.ranges }

/-- The unit with one more function, its code range in its place among the others. -/
def addSubprogram (unit : CompilationUnit) (subprogram : Subprogram) : CompilationUnit :=
  unit.addSubprogramWith CodeRange.insert subprogram

/-- The position of the function whose range contains an address; where ranges
overlap, the function that came first. -/
def positionAt? (unit : CompilationUnit) (address : Int) : Option Nat :=
  (CodeRange.at? unit.ranges address).map CodeRange.position

/-- The function whose range contains an address. -/
def subprogramAt? (unit : CompilationUnit) (address : Int) : Option Subprogram :=
  (unit.positionAt? address).bind fun position => unit.subprograms[position]?

/-- The position of the first function that starts exactly at an address. -/
def positionStartingAt? (unit : CompilationUnit) (address : Int) : Option Nat :=
  unit.subprograms.findIdx? fun subprogram => subprogram.low = address

/-- The first function that starts exactly at an address. -/
def subprogramStartingAt? (unit : CompilationUnit) (address : Int) : Option Subprogram :=
  (unit.positionStartingAt? address).bind fun position => unit.subprograms[position]?

/-- The first row of the line table exactly at an address. -/
def rowAt? (unit : CompilationUnit) (address : Int) : Option LineRow :=
  LineRow.exactlyAt? unit.rows address

/-- The text of a source line, counted from one. -/
def lineText? (unit : CompilationUnit) (line : Int) : Option String :=
  (nth? unit.sourceLines line).join

/-- A unit in one line: its offset, source and range. -/
def text (unit : CompilationUnit) : String :=
  "<CU " ++ Numeral.address unit.offset ++ " " ++ unit.sourceName.getD "None" ++ " [" ++
    Numeral.hex unit.low ++ ".." ++ Numeral.hex unit.high ++ ")>"

end CompilationUnit
end DebugIndex
