import DebugIndex.CompilationUnit.Build
import DebugIndex.Database.NameIndex

/-!
# Databases

A database holds every compilation unit of a source, with the global variables
of all of them in one list and under their names.  It is built once and does not
change afterwards.
-/

namespace DebugIndex

/-- The units of a source, their global variables, and these by name. -/
structure Database where
  units : List CompilationUnit := []
  globals : List Variable := []
  names : NameIndex := {}

namespace Database

def ofUnits (units : List CompilationUnit) : Database :=
  let globals := units.flatMap CompilationUnit.globals
  ⟨units, globals, NameIndex.ofList globals⟩

/-- The items that a setting for search paths holds.  A text is taken letter by
letter, a map by its keys; nothing and anything empty stands for no path. -/
def searchPathsOf (value : Value) : Except Value (List Value) :=
  if value.truthy then
    match value with
    | .list items | .tuple items => .ok items
    | .text characters => .ok (characters.toList.map fun character => .text character.toString)
    | .rawText raw => .ok (raw.points.map fun point => Value.ofPoints [point])
    | .map entries => .ok (entries.map Prod.fst)
    | .bytes content => .ok (content.map fun byte => .int byte.toNat)
    | other => .error other
  else .ok []

/-- Whether a unit ought to have a source file that can be used, but has none. -/
def lacksSource (unit : CompilationUnit) : Bool :=
  unit.tag = .compileUnit && unit.status ≠ .ok

/-- The failure of a unit: exhausted memory is told with the unit's offset. -/
def unitFailure (offset : Int) (failure : Failure) : Failure :=
  match failure with
  | .reader fault => if fault.isFatal then .outOfMemory offset fault else .reader fault
  | other => other

/-- Build a unit, and name it in the failure if memory runs out. -/
def buildUnit (context : BuildContext) (source : UnitSource) : Report CompilationUnit :=
  (context.build source).mapFailure (unitFailure source.offset)

/-- The events that close an ingestion. -/
def closingEvents (units : List CompilationUnit) (elapsed : String) : List Event :=
  let missing := units.filter lacksSource
  (if missing.isEmpty then [] else [.sourcesMissing missing.length units.length]) ++
    [.unitsLoaded units.length elapsed]

def ingest (context : BuildContext) (source : Feed UnitSource) (elapsed : String) :
    Report Database :=
  (Report.each (buildUnit context) source.items).bind fun units =>
    match source.fault with
    | some fault => .fail (.reader fault)
    | none => ⟨closingEvents units elapsed, .ok (ofUnits units)⟩

end Database
end DebugIndex
