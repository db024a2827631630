import DebugIndex.CompilationUnit.Build

/-!
# The stages of a build

A unit that is built has gone through every stage, and what a stage makes of it is a
function of what came before: reports and tolerated faults leave no other trace in the
unit.  The stages are described here as such functions, so that what holds of built
units can be shown one stage at a time.
-/

namespace DebugIndex
namespace BuildContext

/-- The rows of a line table as they are read, without texts. -/
def tableOf (source : UnitSource) : List LineRow :=
  source.rows.items.map fun row => ⟨row.1, row.2, none⟩

/-- The unit with its line table, which only a unit with a usable source gets. -/
def withTable (source : UnitSource) (unit : CompilationUnit) : CompilationUnit :=
  if unit.status = .ok then { unit with rows := tableOf source } else unit

/-- The unit with what an entry contributes, if it can be read. -/
def absorb (byteOrder : Option ByteOrder) (unit : CompilationUnit) (entry : Entry) :
    CompilationUnit :=
  let outcome := Extraction.outcomeOf byteOrder unit.offset unit.rows entry
  let counted := { unit with frameCount := unit.frameCount + outcome.frames }
  match outcome.contribution with
  | .ok contribution => Extraction.contribute counted contribution
  | .error _ => counted

def resolved (context : BuildContext) (types : TypeTable) (item : Variable) : Variable :=
  (Resolution.resolve types (context.limits types) 0 item).item

def resolvedSubprogram (context : BuildContext) (types : TypeTable) (subprogram : Subprogram) :
    Subprogram :=
  { subprogram with locals := subprogram.locals.map (context.resolved types) }

def resolvedUnit (context : BuildContext) (unit : CompilationUnit) : CompilationUnit :=
  { unit with
    globals := unit.globals.map (context.resolved unit.types)
    subprograms := unit.subprograms.map (context.resolvedSubprogram unit.types) }

/-- A unit before anything is read but its top entry and its source file. -/
structure IsBare (unit : CompilationUnit) : Prop where
  rows : unit.rows = []
  types : unit.types = {}
  globals : unit.globals = []
  subprograms : unit.subprograms = []
  ranges : unit.ranges = []
  frameCount : unit.frameCount = 0

theorem isBare_place (context : BuildContext) {unit : CompilationUnit} (bare : IsBare unit)
    (location : SourcePath.Location) : IsBare (context.place unit location) :=
  ⟨bare.rows, bare.types, bare.globals, bare.subprograms, bare.ranges, bare.frameCount⟩

/-- Looking for a source file settles its status and its text, and else nothing but where
it lies. -/
theorem eq_of_loadSource {context : BuildContext} {unit : CompilationUnit} {top : Entry}
    {headed : CompilationUnit × List String}
    (loaded : (context.loadSource unit top).outcome = .ok headed) :
    ∃ status text, headed.1 =
      { context.place unit (context.locationOf top) with
        status := status
        sourceText := text } := by
  simp only [loadSource] at loaded
  split at loaded
  · cases loaded
  · split at loaded
    · obtain ⟨content, -, given⟩ := Report.outcome_bind_eq_ok_iff.mp loaded
      cases content with
      | none =>
          obtain rfl := Except.ok.inj given
          exact ⟨.noFile, _, rfl⟩
      | some found =>
          obtain rfl := Except.ok.inj given
          exact ⟨_, some found.text, rfl⟩
    · obtain rfl := Except.ok.inj loaded
      exact ⟨_, _, rfl⟩

section SourceFile

variable {context : BuildContext} {top : Entry} {location : SourcePath.Location}
  {status : SourceStatus} {modified : Option Int}

/-- A source file that is good is read, and what has been read of it settles the rest. -/
theorem loadSource_of_good {loaded : Option SourceText.Loaded}
    (located : context.locationOf top = location) (short : location.directory.isShort = true)
    (checked : SourceText.check context.files location.fullPath context.executableModified =
      (.ok, modified))
    (read : SourceText.load? context.codecs context.files location.fullPath
      context.settings.encoding = .ok loaded) (unit : CompilationUnit) :
    context.loadSource unit top =
      let placed := { unit with
        sourceDirectory := location.directory
        sourceName := some location.filename
        fullPath := some location.fullPath
        status := .ok
        sourceModified := modified }
      match loaded with
      | some found => Report.pure ({ placed with sourceText := some found.text }, found.lines)
      | none =>
          ⟨[.sourceUnreadable location.fullPath], .ok ({ placed with status := .noFile }, [])⟩ := by
  subst located
  simp only [loadSource, place, checked, short, read, Bool.not_true, Bool.false_eq_true, if_false,
    if_true]
  cases loaded <;> rfl

theorem loadSource_of_not_good (located : context.locationOf top = location)
    (short : location.directory.isShort = true)
    (checked : SourceText.check context.files location.fullPath context.executableModified =
      (status, modified))
    (bad : status ≠ .ok) (unit : CompilationUnit) :
    context.loadSource unit top =
      ⟨[.sourceUnusable location.fullPath status],
        .ok ({ unit with
          sourceDirectory := location.directory
          sourceName := some location.filename
          fullPath := some location.fullPath
          status := status
          sourceModified := modified }, [])⟩ := by
  subst located
  simp only [loadSource, place, checked, short, bad, Bool.not_true, Bool.false_eq_true, if_false]

end SourceFile

theorem isBare_of_loadSource {context : BuildContext} {unit : CompilationUnit} {top : Entry}
    (bare : IsBare unit) {headed : CompilationUnit × List String}
    (loaded : (context.loadSource unit top).outcome = .ok headed) : IsBare headed.1 := by
  have placed := isBare_place context bare (context.locationOf top)
  obtain ⟨status, text, headed_eq⟩ := eq_of_loadSource loaded
  rw [headed_eq]
  exact ⟨placed.rows, placed.types, placed.globals, placed.subprograms, placed.ranges,
    placed.frameCount⟩

theorem offset_of_header {context : BuildContext} {source : UnitSource} {top : Entry}
    {headed : CompilationUnit × List String}
    (described : (context.header source top).outcome = .ok headed) :
    headed.1.offset = source.offset := by
  simp only [header] at described
  split at described
  · obtain ⟨status, text, headed_eq⟩ := eq_of_loadSource described
    rw [headed_eq]
    rfl
  · obtain rfl := Except.ok.inj described
    rfl

theorem isBare_of_header {context : BuildContext} {source : UnitSource} {top : Entry}
    {headed : CompilationUnit × List String}
    (described : (context.header source top).outcome = .ok headed) : IsBare headed.1 := by
  simp only [header] at described
  split at described
  · exact isBare_of_loadSource ⟨rfl, rfl, rfl, rfl, rfl, rfl⟩ described
  · obtain rfl := Except.ok.inj described
    exact ⟨rfl, rfl, rfl, rfl, rfl, rfl⟩

theorem eq_of_readRows {source : UnitSource} {unit tabled : CompilationUnit}
    (read : (readRows source unit).outcome = .ok tabled) :
    tabled = withTable source unit := by
  simp only [readRows] at read
  simp only [withTable]
  split at read
  case isTrue usable =>
    obtain ⟨_, -, given⟩ := Report.outcome_bind_eq_ok_iff.mp read
    obtain rfl := Except.ok.inj given
    rw [if_pos usable]
    rfl
  case isFalse unusable =>
    obtain rfl := Except.ok.inj read
    rw [if_neg unusable]

theorem eq_of_addEntry {byteOrder : Option ByteOrder} {unit added : CompilationUnit}
    {entry : Entry} (read : (addEntry byteOrder unit entry).outcome = .ok added) :
    added = absorb byteOrder unit entry := by
  simp only [addEntry] at read
  simp only [absorb]
  cases contributed :
      (Extraction.outcomeOf byteOrder unit.offset unit.rows entry).contribution with
  | ok contribution =>
      rw [contributed] at read
      cases contribution <;> exact (Except.ok.inj read).symm
  | error reason =>
      rw [contributed] at read
      cases reason with
      | children fault =>
          obtain ⟨_, -, given⟩ := Report.outcome_bind_eq_ok_iff.mp read
          exact (Except.ok.inj given).symm
      | unknownByteOrder => exact (Except.ok.inj read).symm

theorem eq_of_addEntries {byteOrder : Option ByteOrder} {unit filled : CompilationUnit}
    {entries : List Entry} (read : (addEntries byteOrder unit entries).outcome = .ok filled) :
    filled = entries.foldl (absorb byteOrder) unit := by
  induction entries generalizing unit with
  | nil => exact (Except.ok.inj read).symm
  | cons entry rest ih =>
      obtain ⟨added, readFirst, readRest⟩ := Report.outcome_bind_eq_ok_iff.mp read
      obtain rfl := eq_of_addEntry readFirst
      exact ih readRest

theorem eq_of_readEntries {source : UnitSource} {top : Entry} {unit filled : CompilationUnit}
    (read : (readEntries source top unit).outcome = .ok filled) :
    filled = top.children.items.foldl (absorb source.byteOrder) unit := by
  obtain ⟨added, readAll, tolerated⟩ := Report.outcome_bind_eq_ok_iff.mp read
  obtain ⟨_, -, given⟩ := Report.outcome_bind_eq_ok_iff.mp tolerated
  obtain rfl := Except.ok.inj given
  exact eq_of_addEntries readAll

theorem eq_of_bindLines {context : BuildContext} {unit lined : CompilationUnit}
    {lines : List String} (bound : (context.bindLines unit lines).outcome = .ok lined) :
    lined = unit.bindLines lines := by
  simp only [bindLines] at bound
  split at bound
  · exact (Except.ok.inj bound).symm
  · split at bound
    · cases bound
    · split at bound
      · cases bound
      · exact (Except.ok.inj bound).symm

theorem eq_of_resolveVariable {context : BuildContext} {types : TypeTable}
    (item result : Variable) (told : (context.resolveVariable types item).outcome = .ok result) :
    result = context.resolved types item := by
  simp only [resolveVariable] at told
  split at told
  · cases told
  · obtain ⟨_, -, given⟩ := Report.outcome_bind_eq_ok_iff.mp told
    exact (Except.ok.inj given).symm

theorem eq_of_resolveSubprogram {context : BuildContext} {types : TypeTable}
    (subprogram result : Subprogram)
    (told : (context.resolveSubprogram types subprogram).outcome = .ok result) :
    result = context.resolvedSubprogram types subprogram := by
  obtain ⟨locals, toldLocals, given⟩ := Report.outcome_bind_eq_ok_iff.mp told
  obtain rfl := Report.eq_map_of_outcome_each eq_of_resolveVariable toldLocals
  exact (Except.ok.inj given).symm

theorem eq_of_resolveTypes {context : BuildContext} {unit built : CompilationUnit}
    (told : (context.resolveTypes unit).outcome = .ok built) :
    built = context.resolvedUnit unit := by
  obtain ⟨globals, toldGlobals, rest⟩ := Report.outcome_bind_eq_ok_iff.mp told
  obtain ⟨subprograms, toldSubprograms, given⟩ := Report.outcome_bind_eq_ok_iff.mp rest
  obtain rfl := Report.eq_map_of_outcome_each eq_of_resolveVariable toldGlobals
  obtain rfl := Report.eq_map_of_outcome_each eq_of_resolveSubprogram toldSubprograms
  exact (Except.ok.inj given).symm

/-- A built unit is what the stages make of a bare one: its line table is read or left
empty, the children of its top entry are absorbed in order, lines are bound and types
resolved. -/
theorem stages_of_build {context : BuildContext} {source : UnitSource} {unit : CompilationUnit}
    (built : (context.build source).outcome = .ok unit) :
    ∃ top headed, source.top = .ok top ∧ (context.header source top).outcome = .ok headed ∧
      unit = context.resolvedUnit
        ((top.children.items.foldl (absorb source.byteOrder)
          (withTable source headed.1)).bindLines headed.2) := by
  obtain ⟨top, fetched, afterTop⟩ := Report.outcome_bind_eq_ok_iff.mp built
  obtain ⟨headed, described, afterHeader⟩ := Report.outcome_bind_eq_ok_iff.mp afterTop
  obtain ⟨tabled, readTable, afterTable⟩ := Report.outcome_bind_eq_ok_iff.mp afterHeader
  obtain ⟨filled, readChildren, afterChildren⟩ := Report.outcome_bind_eq_ok_iff.mp afterTable
  obtain ⟨lined, bound, afterLines⟩ := Report.outcome_bind_eq_ok_iff.mp afterChildren
  obtain ⟨typed, told, given⟩ := Report.outcome_bind_eq_ok_iff.mp afterLines
  obtain rfl := eq_of_readRows readTable
  obtain rfl := eq_of_readEntries readChildren
  obtain rfl := eq_of_bindLines bound
  obtain rfl := eq_of_resolveTypes told
  exact ⟨top, headed, Report.outcome_ofExcept_eq_ok_iff.mp fetched, described,
    (Except.ok.inj given).symm⟩

end BuildContext
end DebugIndex
