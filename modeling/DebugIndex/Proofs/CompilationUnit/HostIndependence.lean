import DebugIndex.Proofs.CompilationUnit.AddressRange
import DebugIndex.Proofs.Database.LineTexts

/-!
# What does not depend on source files

The host has a say in where the source file of a unit lies, in what state it is and what is
in it, and with it in whether the line table is read.  All that is read from the entries of
a unit is out of its reach: forgetting what the host decides commutes with every stage of
the build, and what is left after it is a function of the debug information and of the
bounds on type resolution.
-/

namespace DebugIndex

namespace Subprogram

/-- A function without its part of the line table and without the text of its
declaration. -/
def withoutLines (subprogram : Subprogram) : Subprogram :=
  { subprogram with declarationText := none, rows := [] }

end Subprogram

namespace Extraction

/-- A contribution without lines. -/
def Contribution.withoutLines : Contribution → Contribution
  | .subprogram added => .subprogram added.withoutLines
  | other => other

theorem withoutLines_eq_self {contribution : Contribution}
    (noFunction : contribution.subprogram? = none) :
    contribution.withoutLines = contribution := by
  cases contribution with
  | subprogram => cases noFunction
  | nothing | dropped | global | type => rfl

variable {byteOrder : Option ByteOrder} {unitOffset : Int} {rows : List LineRow} {entry : Entry}

theorem withoutLines_subprogramOf :
    (orNothing (subprogramOf unitOffset rows entry)).withoutLines =
      orNothing (subprogramOf unitOffset [] entry) := by
  simp only [subprogramOf]
  cases entry.children.fault <;> rfl

/-- Without its lines an entry contributes what it does where there is no line table. -/
theorem withoutLines_contributionOf :
    (contributionOf byteOrder unitOffset rows entry).withoutLines =
      contributionOf byteOrder unitOffset [] entry := by
  -- only a function holds rows, so the other entries contribute the same as ever
  simp only [contributionOf, outcomeOf]
  by_cases isVariable : entry.tag = .variableObject
  · simp only [isVariable, if_true]
    exact withoutLines_eq_self subprogram?_globalOf
  · simp only [isVariable, if_false]
    cases entry.tag.isType with
    | true => exact withoutLines_eq_self subprogram?_typeOf
    | false =>
        by_cases isFunction : entry.tag = .subprogram
        · simpa only [isFunction, Bool.false_eq_true, if_true, if_false] using
            withoutLines_subprogramOf
        · simp only [isFunction, Bool.false_eq_true, if_false]
          rfl

end Extraction

namespace UnitSource

/-- A unit as its top entry describes it, before anything else is read. -/
def outline (source : UnitSource) (top : Entry) : CompilationUnit :=
  let unit : CompilationUnit := { offset := source.offset, tag := top.tag }
  if top.tag = .compileUnit then BuildContext.describe unit top else unit

end UnitSource

namespace CompilationUnit

open Extraction

/-- A unit as far as the host has no say in it: all but its range, the place, state and
text of its source file, and its line table with the texts of its lines. -/
def extracted (unit : CompilationUnit) : CompilationUnit :=
  { unit with
    low := 0
    high := 0
    sourceName := none
    sourceDirectory := .null
    fullPath := none
    status := .ok
    sourceModified := none
    sourceText := none
    sourceLines := []
    rows := []
    rowIndices := []
    rowTexts := []
    subprograms := unit.subprograms.map Subprogram.withoutLines }

theorem extracted_of_header {context : BuildContext} {source : UnitSource} {top : Entry}
    {headed : CompilationUnit × List String}
    (described : (context.header source top).outcome = .ok headed) :
    headed.1.extracted = (source.outline top).extracted := by
  simp only [BuildContext.header] at described
  simp only [UnitSource.outline]
  split at described
  case isTrue whole =>
    obtain ⟨status, text, headed_eq⟩ := BuildContext.eq_of_loadSource described
    rw [headed_eq, if_pos whole]
    rfl
  case isFalse partly =>
    obtain rfl := Except.ok.inj described
    rw [if_neg partly]

theorem extracted_withTable (source : UnitSource) (unit : CompilationUnit) :
    (BuildContext.withTable source unit).extracted = unit.extracted :=
  field_withTable (fun _ _ => rfl) source unit

theorem extracted_contribute (unit : CompilationUnit) (contribution : Contribution) :
    (contribute unit contribution).extracted =
      contribute unit.extracted contribution.withoutLines := by
  cases contribution with
  | nothing | dropped | global | type => rfl
  | subprogram added =>
      simp only [contribute, addSubprogram, addSubprogramWith, extracted, List.map_append,
        List.map_singleton, List.length_map]
      rfl

theorem extracted_absorb (byteOrder : Option ByteOrder) (unit : CompilationUnit)
    (entry : Entry) :
    (BuildContext.absorb byteOrder unit entry).extracted =
      BuildContext.absorb byteOrder unit.extracted entry := by
  rw [BuildContext.absorb_eq, extracted_contribute, withoutLines_contributionOf,
    BuildContext.absorb_eq]
  rfl

theorem extracted_foldl_absorb (byteOrder : Option ByteOrder) (entries : List Entry)
    (unit : CompilationUnit) :
    (entries.foldl (BuildContext.absorb byteOrder) unit).extracted =
      entries.foldl (BuildContext.absorb byteOrder) unit.extracted := by
  induction entries generalizing unit with
  | nil => rfl
  | cons entry rest ih => rw [List.foldl_cons, ih, extracted_absorb, List.foldl_cons]

theorem extracted_withLines (unit : CompilationUnit) (lines : List String) :
    (unit.withLines lines).extracted = unit.extracted := by
  simp only [withLines]
  split
  · rfl
  · simp only [extracted, List.map_map]
    rfl

theorem extracted_bindLines (unit : CompilationUnit) (lines : List String) :
    (unit.bindLines lines).extracted = unit.extracted :=
  field_bindLines extracted_withLines (fun _ => rfl) (fun _ _ _ => rfl) unit lines

theorem extracted_resolvedUnit (context : BuildContext) (unit : CompilationUnit) :
    (context.resolvedUnit unit).extracted = context.resolvedUnit unit.extracted := by
  simp only [extracted, BuildContext.resolvedUnit, List.map_map]
  rfl

end CompilationUnit

namespace BuildContext

open CompilationUnit

theorem resolvedUnit_eq_of_settings {context other : BuildContext}
    (sameSettings : other.settings = context.settings) :
    other.resolvedUnit = context.resolvedUnit := by
  have sameLimits : other.limits = context.limits := by
    funext types
    rw [limits, limits, sameSettings]
  have sameResolved : other.resolved = context.resolved := by
    funext types item
    rw [resolved, resolved, sameLimits]
  have sameFunctions : other.resolvedSubprogram = context.resolvedSubprogram := by
    funext types subprogram
    rw [resolvedSubprogram, resolvedSubprogram, sameResolved]
  funext unit
  rw [resolvedUnit, resolvedUnit, sameResolved, sameFunctions]

/-- What is read from the entries of a unit: what the children of its top entry add to its
outline, with the types of all variables resolved. -/
def extraction (context : BuildContext) (source : UnitSource) : CompilationUnit :=
  match source.top with
  | .ok top =>
      context.resolvedUnit
        (source.children.foldl (absorb source.byteOrder) (source.outline top).extracted)
  | .error _ => {}

/-- Up to what the host decides, a built unit is what is read from its entries. -/
theorem extracted_of_build {context : BuildContext} {source : UnitSource}
    {unit : CompilationUnit} (built : (context.build source).outcome = .ok unit) :
    unit.extracted = context.extraction source := by
  obtain ⟨top, headed, fetched, described, rfl⟩ := stages_of_build built
  have children_eq : source.children = top.children.items := by
    rw [UnitSource.children, fetched]
  simp only [extraction, fetched, children_eq, extracted_resolvedUnit, extracted_bindLines,
    extracted_foldl_absorb, extracted_withTable, extracted_of_header described]

theorem extraction_eq_of_settings {context other : BuildContext}
    (sameSettings : other.settings = context.settings) :
    other.extraction = context.extraction := by
  funext source
  simp only [extraction, resolvedUnit_eq_of_settings sameSettings]

/-- Two hosts build from one source units that are the same up to the place, state and text
of the source file, the lines, and the range; and the range is the same too if the unit
gives one for itself.  So types, global variables, functions with their variables, and the
count of frame bases are the same, with all types resolved alike. -/
theorem extracted_eq_of_builds {context other : BuildContext}
    (sameSettings : other.settings = context.settings) {source : UnitSource}
    {unit twin : CompilationUnit} (built : (context.build source).outcome = .ok unit)
    (builtTwin : (other.build source).outcome = .ok twin) :
    twin.extracted = unit.extracted ∧
      (source.isUnbounded = false → twin.range = unit.range) := by
  constructor
  · rw [extracted_of_build builtTwin, extracted_of_build built,
      extraction_eq_of_settings sameSettings]
  · intro bounded
    rw [range_of_build_of_bounded builtTwin bounded, range_of_build_of_bounded built bounded]

/-! ### A unit with and without its source file -/

open Database

/-- A host without any file. -/
def vacantContext : BuildContext where
  files := {}
  settings := {}

theorem loadSource_vacantContext {top : Entry}
    (located : vacantContext.locationOf top = ⟨.text "", "a.c", "/a.c"⟩)
    (unit : CompilationUnit) :
    vacantContext.loadSource unit top =
      ⟨[.sourceUnusable "/a.c" .noFile],
        .ok ({ unit with
          sourceDirectory := .text ""
          sourceName := some "a.c"
          fullPath := some "/a.c"
          status := .noFile
          sourceModified := none }, [])⟩ := by
  have missing : SourceText.check vacantContext.files "/a.c" none = (.noFile, none) := by
    rw [SourceText.check, inspect_sourcePath rfl]
    rfl
  exact loadSource_of_not_good located rfl missing (by decide) unit

/-- The top entry of a unit that gives its range for itself. -/
def boundedTop : Entry :=
  { sourcedTop with
    attributes := sourcedTop.attributes ++
      [(AttributeName.lowAddress, some (.ofInt "DW_FORM_addr" 0x1000)),
        (AttributeName.highAddress, some (.ofInt "DW_FORM_addr" 0x1010))] }

def boundedSource : UnitSource :=
  { sourcedSource with top := .ok boundedTop }

/-- The unit as it is built where its source file is missing. -/
def unsourcedUnit : CompilationUnit :=
  { sourcedHead with
    low := 0x1000
    high := 0x1010
    status := .noFile
    sourceModified := none
    subprograms := [sourcedFunction.withoutLines]
    ranges := [{ low := 0x1000, high := 0x1010 }] }

theorem build_boundedSource_of_file :
    (sourcedContext.build boundedSource).outcome = .ok sourcedUnit := by
  have fetched : boundedSource.top = .ok boundedTop := rfl
  have headed : sourcedContext.header boundedSource boundedTop = _ :=
    loadSource_sourcedContext locationOf_sourcedTop (describe { tag := .compileUnit } boundedTop)
  simp only [build, fetched, Report.ofExcept_ok, Report.bind_pure, headed]
  rfl

theorem build_boundedSource_of_no_file :
    (vacantContext.build boundedSource).outcome = .ok unsourcedUnit := by
  have fetched : boundedSource.top = .ok boundedTop := rfl
  have located : vacantContext.locationOf boundedTop = ⟨.text "", "a.c", "/a.c"⟩ :=
    locationOf_sourcedTop
  have headed : vacantContext.header boundedSource boundedTop = _ :=
    loadSource_vacantContext located (describe { tag := .compileUnit } boundedTop)
  simp only [build, fetched, Report.ofExcept_ok, Report.bind_pure, headed]
  rfl

theorem extracted_unsourcedUnit :
    vacantContext.settings = sourcedContext.settings ∧
      (sourcedContext.build boundedSource).outcome = .ok sourcedUnit ∧
        (vacantContext.build boundedSource).outcome = .ok unsourcedUnit ∧
          unsourcedUnit.rows ≠ sourcedUnit.rows ∧
            unsourcedUnit.extracted = sourcedUnit.extracted ∧
              unsourcedUnit.range = sourcedUnit.range := by
  have sameSettings : vacantContext.settings = sourcedContext.settings := rfl
  have alike := extracted_eq_of_builds sameSettings build_boundedSource_of_file
    build_boundedSource_of_no_file
  exact ⟨sameSettings, build_boundedSource_of_file, build_boundedSource_of_no_file, by decide,
    alike.1, alike.2 (by decide)⟩

end BuildContext
end DebugIndex
