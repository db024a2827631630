import DebugIndex.CompilationUnit.Extraction
import DebugIndex.CompilationUnit.SourceLines
import DebugIndex.Report
import DebugIndex.SourcePath
import DebugIndex.TypeTable.Resolution

/-!
# Building a unit

A unit is built in stages: what it says about itself, its source file, its line
table, its entries, the texts of its lines, and the types of its variables.
Only exhausted memory, an unreadable top entry, a line number beyond all counts
and settings that make no sense keep a unit from being built.
-/

namespace DebugIndex

/-- A bound that a setting puts on the resolution of types. -/
inductive Bound
  | whole (number : Int)
  | endless
  | notNumber
  deriving DecidableEq

namespace Bound

/-- The bound that a value stands for: the least whole number not below it. -/
def ofValue (value : Value) : Bound :=
  match value, value.whole? with
  | _, some number => .whole number
  | .float number, _ =>
      match number.ceiling? with
      | some ceiling => .whole ceiling
      | none => .endless
  | _, _ => .notNumber

/-- The bound as a number, where `most` is never reached. -/
def number (bound : Bound) (most : Nat) : Int :=
  match bound with
  | .whole number => number
  | .endless => most
  | .notNumber => 0

end Bound

/-- What a unit is built with.  The lines of a file without text are all kept in memory, which has
room for so many and no more. -/
structure BuildContext where
  files : FileSystem
  settings : Settings
  codecs : Text.Codecs := {}
  searchPaths : List Value := []
  executableModified : Option Int := none
  separator : List Char := ['/']
  mostLines : Nat := 4294967296

namespace BuildContext

/-- The failure that a reader's fault leads to where nothing tolerates it, and an
event where it is tolerated. -/
def tolerate (fault : Option Fault) (event : String → Event) : Report Unit :=
  match fault with
  | none => Report.pure ()
  | some fault => if fault.isFatal then .fail (.reader fault) else .emit (event fault.text)

def describe (unit : CompilationUnit) (top : Entry) : CompilationUnit :=
  { unit with
    sourceName := top.string? AttributeName.name
    sourceDirectory := Value.ofText? (top.string? AttributeName.directory)
    producer := top.string? AttributeName.producer
    language := top.unsigned AttributeName.language
    low := top.addresses.1
    high := top.addresses.2 }

/-- Where the source file of a unit lies. -/
def locationOf (context : BuildContext) (top : Entry) : SourcePath.Location :=
  SourcePath.locate context.files context.separator (top.string? AttributeName.name)
    (top.string? AttributeName.directory) context.searchPaths

def place (context : BuildContext) (unit : CompilationUnit) (location : SourcePath.Location) :
    CompilationUnit :=
  let checked := SourceText.check context.files location.fullPath context.executableModified
  { unit with
    sourceDirectory := location.directory
    sourceName := some location.filename
    fullPath := some location.fullPath
    status := checked.1
    sourceModified := checked.2 }

/-- Find and read the source file of a unit: the unit with its status and text,
and the lines.  A search path that can not be shown leads nowhere. -/
def loadSource (context : BuildContext) (unit : CompilationUnit) (top : Entry) :
    Report (CompilationUnit × List String) :=
  let location := context.locationOf top
  let placed := context.place unit location
  if !location.directory.isShort then .fail (.tooLong location.directory)
  else if placed.status = .ok then
    (Report.ofExcept Failure.encoding
      (SourceText.load? context.codecs context.files location.fullPath
        context.settings.encoding)).bind
      fun
        | some loaded => Report.pure ({ placed with sourceText := some loaded.text }, loaded.lines)
        | none =>
            ⟨[.sourceUnreadable location.fullPath], .ok ({ placed with status := .noFile }, [])⟩
  else ⟨[.sourceUnusable location.fullPath placed.status], .ok (placed, [])⟩

def header (context : BuildContext) (source : UnitSource) (top : Entry) :
    Report (CompilationUnit × List String) :=
  let unit : CompilationUnit := { offset := source.offset, tag := top.tag }
  if top.tag = .compileUnit then context.loadSource (describe unit top) top
  else Report.pure (unit, [])

/-- The unit with its line table, which is read only if the source is usable. -/
def readRows (source : UnitSource) (unit : CompilationUnit) : Report CompilationUnit :=
  if unit.status = .ok then
    let rows := source.rows.items.map fun row => (⟨row.1, row.2, none⟩ : LineRow)
    (tolerate source.rows.fault (.lineTableUnreadable unit.sourceName)).bind fun _ =>
      Report.pure { unit with rows := rows }
  else Report.pure unit

/-- The unit with what one child of its top entry contributes. -/
def addEntry (byteOrder : Option ByteOrder) (unit : CompilationUnit) (entry : Entry) :
    Report CompilationUnit :=
  let outcome := Extraction.outcomeOf byteOrder unit.offset unit.rows entry
  let counted := { unit with frameCount := unit.frameCount + outcome.frames }
  match outcome.contribution with
  | .ok (.dropped name) => ⟨[.globalDropped name], .ok counted⟩
  | .ok contribution => Report.pure (Extraction.contribute counted contribution)
  | .error (.children fault) =>
      (tolerate (some fault) (.entryMalformed entry.tag entry.offset)).bind fun _ =>
        Report.pure counted
  | .error reason => ⟨[.entryMalformed entry.tag entry.offset reason.text], .ok counted⟩

/-- The unit with what entries contribute, one after the other. -/
def addEntries (byteOrder : Option ByteOrder) (unit : CompilationUnit) :
    List Entry → Report CompilationUnit
  | [] => Report.pure unit
  | entry :: rest =>
      (addEntry byteOrder unit entry).bind fun added => addEntries byteOrder added rest

/-- The unit with what the children of its top entry contribute, as far as they
can be read. -/
def readEntries (source : UnitSource) (top : Entry) (unit : CompilationUnit) :
    Report CompilationUnit :=
  (addEntries source.byteOrder unit top.children.items).bind fun added =>
    (tolerate top.children.fault (.entriesUnreadable unit.sourceName unit.offset)).bind fun _ =>
      Report.pure added

def limits (context : BuildContext) (types : TypeTable) : Resolution.Limits where
  steps := (Bound.ofValue context.settings.maxSteps).number types.size
  depth := (Bound.ofValue context.settings.maxDepth).number types.size

def eventOf (context : BuildContext) : Resolution.Notice → Event
  | .truncated name typeOffset typeName =>
      .typeTruncated name typeOffset context.settings.maxSteps typeName
  | .collapsed name depth => .membersCollapsed name depth

/-- Tell the user about a notice of type resolution, if it can be put into words. -/
def tell (context : BuildContext) (notice : Resolution.Notice) : Report Unit :=
  match notice with
  | .truncated .. =>
      if context.settings.maxSteps.isShort then .emit (context.eventOf notice)
      else .fail (.tooLong context.settings.maxSteps)
  | .collapsed .. => .emit (context.eventOf notice)

/-- The bound that is needed for a variable but is no number: the one on steps
where there is an entry to visit, the one on depth where there are members. -/
def missingBound? (context : BuildContext) (types : TypeTable) (item : Variable) :
    Option Value :=
  let steps := context.settings.maxSteps
  let depth := context.settings.maxDepth
  if Bound.ofValue steps = .notNumber ∧ (types.target? item.typeOffset).isSome then some steps
  else
    match (Resolution.walkOf types (context.limits types) item).ending with
    | .aggregate _ =>
        if Bound.ofValue depth = .notNumber ∧ item.opcode ≠ 0 then some depth else none
    | _ => none

def resolveVariable (context : BuildContext) (types : TypeTable) (item : Variable) :
    Report Variable :=
  match context.missingBound? types item with
  | some value => .fail (.limit value)
  | none =>
      let resolution := Resolution.resolve types (context.limits types) 0 item
      (Report.each context.tell resolution.notices).bind fun _ => Report.pure resolution.item

def resolveSubprogram (context : BuildContext) (types : TypeTable) (subprogram : Subprogram) :
    Report Subprogram :=
  (Report.each (context.resolveVariable types) subprogram.locals).bind fun resolved =>
    Report.pure { subprogram with locals := resolved }

/-- Resolve the types of all variables of a unit: globals first. -/
def resolveTypes (context : BuildContext) (unit : CompilationUnit) : Report CompilationUnit :=
  (Report.each (context.resolveVariable unit.types) unit.globals).bind fun globals =>
    (Report.each (context.resolveSubprogram unit.types) unit.subprograms).bind fun subprograms =>
      Report.pure { unit with globals := globals, subprograms := subprograms }

/-- The counts of lines that an index can have: those of sixty-four bits. -/
def isIndexCount (count : Int) : Bool :=
  -9223372036854775808 ≤ count && count ≤ 9223372036854775807

/-- Give a unit its source lines and the texts of its rows.  Without source text
there have to be as many lines as the unit calls for. -/
def bindLines (context : BuildContext) (unit : CompilationUnit) (lines : List String) :
    Report CompilationUnit :=
  let count := unit.placeholderCount
  if !lines.isEmpty then Report.pure (unit.bindLines lines)
  else if !isIndexCount count then .fail (.lineCount count)
  else if context.mostLines < count then .fail (.reader ⟨.outOfMemory, ""⟩)
  else Report.pure (unit.bindLines lines)

def builtEvent (unit : CompilationUnit) : Event :=
  .unitBuilt unit.sourceName unit.offset unit.subprograms.length unit.globals.length
    unit.types.size

def build (context : BuildContext) (source : UnitSource) : Report CompilationUnit :=
  (Report.ofExcept Failure.reader source.top).bind fun top =>
    (context.header source top).bind fun headed =>
      (readRows source headed.1).bind fun tabled =>
        (readEntries source top tabled).bind fun filled =>
          (context.bindLines filled headed.2).bind fun lined =>
            (context.resolveTypes lined).bind fun built => ⟨[builtEvent built], .ok built⟩

end BuildContext
end DebugIndex
