import DebugIndex.CompilationUnit.Basic

/-!
# Source lines of a unit

Once a unit's entries are read, its line table and functions get the texts of
their source lines.  Without a source text the lines are only counted, up to the
last row of the last function.  A unit that does not say which addresses it
covers takes its range from the line table.
-/

namespace DebugIndex
namespace CompilationUnit

/-- The high addresses that say nothing about where a unit ends. -/
def unboundedHighs : List Int := [0, 0xffffffff, 0xffffffffffffffff]

def textRow (unit : CompilationUnit) (row : LineRow) : LineRow :=
  { row with text := unit.lineText? row.line }

/-- A function with the texts of its declaration line and its rows. -/
def textSubprogram (unit : CompilationUnit) (subprogram : Subprogram) : Subprogram :=
  { subprogram with
    declarationText := unit.lineText? subprogram.declarationLine
    rows := subprogram.rows.map unit.textRow }

/-- How many source lines a unit without source text calls for: as many as the
line of the last row of the last function says. -/
def placeholderCount (unit : CompilationUnit) : Int :=
  match unit.subprograms.getLast?.bind fun subprogram => subprogram.rows.getLast? with
  | some row => row.line
  | none => 0

/-- The source lines of a unit without source text, all of them without text. -/
def placeholderLines (unit : CompilationUnit) : List (Option String) :=
  List.replicate unit.placeholderCount.toNat none

/-- The unit with its source lines, and their texts in its functions. -/
def withLines (unit : CompilationUnit) (lines : List String) : CompilationUnit :=
  if lines.isEmpty then { unit with sourceLines := unit.placeholderLines }
  else
    let lined := { unit with sourceLines := lines.map some }
    { lined with subprograms := unit.subprograms.map lined.textSubprogram }

/-- Whether the range that a unit gives for itself says nothing. -/
def isUnbounded (unit : CompilationUnit) : Bool :=
  unit.low = 0 && unboundedHighs.contains unit.high

def withRowTexts (unit : CompilationUnit) : CompilationUnit :=
  let rows := unit.rows.map unit.textRow
  { unit with
    rows := rows
    rowIndices := rows.map fun row => row.line - 1
    rowTexts := rows.map LineRow.text }

/-- The unit with a range from its first to its last row if it has none of its own. -/
def withRowRange (unit : CompilationUnit) : CompilationUnit :=
  match unit.isUnbounded, unit.rows.head?, unit.rows.getLast? with
  | true, some first, some last => { unit with low := first.address, high := last.address }
  | _, _, _ => unit

/-- Give a unit its source lines, and its functions and rows the texts of theirs. -/
def bindLines (unit : CompilationUnit) (lines : List String) : CompilationUnit :=
  let lined := unit.withLines lines
  if lined.rows.isEmpty || lined.sourceLines.isEmpty then lined
  else lined.withRowTexts.withRowRange

end CompilationUnit
end DebugIndex
