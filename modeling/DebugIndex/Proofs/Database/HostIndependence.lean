import DebugIndex.Proofs.CompilationUnit.HostIndependence
import DebugIndex.Proofs.Database.Arguments

/-!
# Answers that do not depend on source files

Two hosts make of one source databases whose units are the same up to what the host has a
say in.  So the global variables are the same, and so are the name, the start and the
variables of the function at an address, as long as both hosts find the address in the same
unit.  They do unless a unit that gives no range for itself contains it on one host only:
such a unit has the range of its line table where its source file is usable, and otherwise
keeps the one that says nothing, which may cover no address or all of them.
-/

namespace DebugIndex

namespace CompilationUnit

theorem subprogramAt?_extracted (unit : CompilationUnit) (address : Int) :
    unit.extracted.subprogramAt? address =
      (unit.subprogramAt? address).map Subprogram.withoutLines := by
  have samePosition : unit.extracted.positionAt? address = unit.positionAt? address := rfl
  rw [subprogramAt?, samePosition, subprogramAt?, Option.map_bind]
  congr 1
  funext position
  exact List.getElem?_map

theorem subprogramStartingAt?_extracted (unit : CompilationUnit) (address : Int) :
    unit.extracted.subprogramStartingAt? address =
      (unit.subprogramStartingAt? address).map Subprogram.withoutLines := by
  have samePosition :
      unit.extracted.positionStartingAt? address = unit.positionStartingAt? address :=
    List.findIdx?_map
  rw [subprogramStartingAt?, samePosition, subprogramStartingAt?, Option.map_bind]
  congr 1
  funext position
  exact List.getElem?_map

theorem contains_eq_of_range_eq {unit twin : CompilationUnit} (same : twin.range = unit.range)
    (address : Int) : twin.contains address = unit.contains address := by
  rw [contains_eq_of_range twin same, contains_eq_of_range unit rfl]

end CompilationUnit

namespace Database

open CompilationUnit

/-! ## Answers from what is extracted -/

theorem globals_ofUnits (units : List CompilationUnit) :
    (ofUnits units).globals = (units.map extracted).flatMap CompilationUnit.globals := by
  rw [List.flatMap_map]
  rfl

/-- The unit at an address, up to what the host has a say in, is settled by its position and
by what is extracted. -/
theorem extracted_unitAt? (database : Database) (address : Int) :
    (database.unitAt? address).map extracted =
      (database.unitIndexAt? address).bind fun index =>
        (database.units.map extracted)[index]? := by
  rw [unitAt?, unitIndexAt?, List.find?_eq_bind_findIdx?_getElem?, Option.map_bind]
  congr 1
  funext index
  exact List.getElem?_map.symm

theorem withoutLines_subprogramAt? (database : Database) (address : Int) :
    (database.subprogramAt? address).map Subprogram.withoutLines =
      ((database.unitAt? address).map extracted).bind fun unit =>
        unit.subprogramAt? address := by
  rw [Database.subprogramAt?, Option.map_bind, Option.bind_map]
  congr 1
  funext unit
  exact (subprogramAt?_extracted unit address).symm

theorem functionName?_eq (database : Database) (address : Int) :
    database.functionName? address =
      (((database.unitAt? address).map extracted).bind fun unit =>
        unit.subprogramAt? address).bind Subprogram.name := by
  rw [← withoutLines_subprogramAt?, Option.bind_map]
  rfl

theorem symbolName?_eq (database : Database) (address : Int) :
    database.symbolName? address =
      (((database.unitAt? address).map extracted).bind fun unit =>
        unit.subprogramStartingAt? address).bind Subprogram.name := by
  rw [symbolName?, Option.bind_map, Option.bind_assoc, Option.bind_assoc]
  congr 1
  funext unit
  rw [Function.comp_apply, subprogramStartingAt?_extracted, Option.bind_map]
  rfl

theorem locals_subprogramAt?_eq (database : Database) (address : Int) :
    (database.subprogramAt? address).map Subprogram.locals =
      (((database.unitAt? address).map extracted).bind fun unit =>
        unit.subprogramAt? address).map Subprogram.locals := by
  rw [← withoutLines_subprogramAt?, Option.map_map]
  rfl

/-! ## Two hosts -/

/-- The units among some that give no range for themselves contain an address on both hosts
or on neither. -/
def CoverAlike (context other : BuildContext) (items : List UnitSource) (address : Int) :
    Prop :=
  ∀ item ∈ items, item.isUnbounded = true → ∀ unit twin,
    (context.build item).outcome = .ok unit → (other.build item).outcome = .ok twin →
      twin.contains address = unit.contains address

section Twins

variable {context other : BuildContext} {items : List UnitSource}
  {units twins : List CompilationUnit}

theorem extracted_units_eq (sameSettings : other.settings = context.settings)
    (built : (Report.each (buildUnit context) items).outcome = .ok units)
    (builtTwins : (Report.each (buildUnit other) items).outcome = .ok twins) :
    twins.map extracted = units.map extracted := by
  refine Report.map_eq_map_of_outcomes_each ?_ built builtTwins
  intro item _ unit twin builtUnit builtTwin
  rw [BuildContext.extracted_of_build (outcome_buildUnit_eq_ok_iff.mp builtTwin),
    BuildContext.extracted_of_build (outcome_buildUnit_eq_ok_iff.mp builtUnit),
    BuildContext.extraction_eq_of_settings sameSettings]

/-- An address that the units without a range of their own cover alike is in the same units
on both hosts: all others have the range that they give for themselves. -/
theorem contains_units_eq {address : Int} (coverAlike : CoverAlike context other items address)
    (built : (Report.each (buildUnit context) items).outcome = .ok units)
    (builtTwins : (Report.each (buildUnit other) items).outcome = .ok twins) :
    (twins.map fun twin => twin.contains address) =
      units.map fun unit => unit.contains address := by
  refine Report.map_eq_map_of_outcomes_each ?_ built builtTwins
  intro item member unit twin builtUnit builtTwin
  have unitBuilt := outcome_buildUnit_eq_ok_iff.mp builtUnit
  have twinBuilt := outcome_buildUnit_eq_ok_iff.mp builtTwin
  -- only a unit that is unbounded can take its range from rows that one host lacks
  cases unbounded : item.isUnbounded with
  | true => exact coverAlike item member unbounded unit twin unitBuilt twinBuilt
  | false =>
      apply contains_eq_of_range_eq
      rw [range_of_build_of_bounded twinBuilt unbounded,
        range_of_build_of_bounded unitBuilt unbounded]

/-- The same units contain an address on both hosts, so the first of them has the same
position. -/
theorem unitIndexAt?_ofUnits_eq {address : Int}
    (sameCover : (twins.map fun twin => twin.contains address) =
      units.map fun unit => unit.contains address) :
    (ofUnits twins).unitIndexAt? address = (ofUnits units).unitIndexAt? address := by
  have ofCover : ∀ list : List CompilationUnit, (ofUnits list).unitIndexAt? address =
      (list.map fun unit => unit.contains address).findIdx? id := by
    intro list
    rw [List.findIdx?_map]
    rfl
  rw [ofCover, ofCover, sameCover]

end Twins

/-- Two hosts make of one source databases with the same units, up to the place, state and
text of source files, lines, and ranges.  Global variables are the same.  Where both find an
address in the unit at the same position, the name, the start and the variables of the
function at the address are the same; and they do find it there if the units that give no
range for themselves contain it on both hosts or on neither, so at all addresses if all
units give a range. -/
theorem answers_eq_of_ingests {context other : BuildContext}
    (sameSettings : other.settings = context.settings) {source : Feed UnitSource}
    {elapsed elapsedTwin : String} {database twin : Database}
    (ingested : (ingest context source elapsed).outcome = .ok database)
    (ingestedTwin : (ingest other source elapsedTwin).outcome = .ok twin) :
    twin.units.map extracted = database.units.map extracted ∧
      (∀ scope : Value, scope.truthy = false →
        twin.variablesFor scope = database.variablesFor scope) ∧
      (∀ address, twin.unitIndexAt? address = database.unitIndexAt? address →
        twin.functionName? address = database.functionName? address ∧
          twin.symbolName? address = database.symbolName? address ∧
            twin.variablesFor (.int address) = database.variablesFor (.int address)) ∧
      ∀ address, CoverAlike context other source.items address →
        twin.unitIndexAt? address = database.unitIndexAt? address := by
  obtain ⟨-, units, rfl, built⟩ := outcome_ingest_eq_ok_iff.mp ingested
  obtain ⟨-, twins, rfl, builtTwins⟩ := outcome_ingest_eq_ok_iff.mp ingestedTwin
  have alike : twins.map extracted = units.map extracted :=
    extracted_units_eq sameSettings built builtTwins
  have sameGlobals : (ofUnits twins).globals = (ofUnits units).globals := by
    rw [globals_ofUnits, alike, globals_ofUnits]
  refine ⟨alike, ?_, ?_, ?_⟩
  · intro scope falsy
    simp only [variablesFor, falsy, Bool.false_eq_true, if_false, variablesIn, sameGlobals]
  · intro address sameIndex
    have sameUnit : ((ofUnits twins).unitAt? address).map extracted =
        ((ofUnits units).unitAt? address).map extracted := by
      rw [extracted_unitAt?, sameIndex, extracted_unitAt?]
      exact congrArg _ (funext fun index => congrArg (·[index]?) alike)
    refine ⟨?_, ?_, ?_⟩
    · rw [functionName?_eq, sameUnit, functionName?_eq]
    · rw [symbolName?_eq, sameUnit, symbolName?_eq]
    · have sameLocals : ((ofUnits twins).subprogramAt? address).map Subprogram.locals =
          ((ofUnits units).subprogramAt? address).map Subprogram.locals := by
        rw [locals_subprogramAt?_eq, sameUnit, locals_subprogramAt?_eq]
      simp only [variablesFor_int, variablesIn, sameGlobals, sameLocals]
  · intro address coverAlike
    exact unitIndexAt?_ofUnits_eq (contains_units_eq coverAlike built builtTwins)

/-! ### Two units with and without their source file -/

open BuildContext

/-- The top entry of a unit of the file with a single function of sixteen bytes. -/
def singleTop (low high : Int) (name : String) (start : Int) : Entry :=
  { sourcedTop with
    attributes := sourcedTop.attributes ++
      [(AttributeName.lowAddress, some (.ofInt "DW_FORM_addr" low)),
        (AttributeName.highAddress, some (.ofInt "DW_FORM_addr" high))]
    children :=
      ⟨[{ tag := .subprogram
          offset := 20
          attributes :=
            [(AttributeName.name, some (.ofText "DW_FORM_string" name)),
              (AttributeName.lowAddress, some (.ofInt "DW_FORM_addr" start)),
              (AttributeName.highAddress, some (.ofInt "DW_FORM_data4" 0x10))]
          children := ⟨[], none⟩ }], none⟩ }

def singleSource (low high : Int) (name : String) (start : Int) (rows : List (Int × Int)) :
    UnitSource where
  top := .ok (singleTop low high name start)
  rows := ⟨rows, none⟩

/-- Two units of the same file, the first of which gives a range that says nothing. -/
def pairedSource : Feed UnitSource where
  items :=
    [singleSource 0 0xffffffff "f" 0x1000 [(0x1000, 1), (0x1010, 2)],
      singleSource 0x2000 0x2010 "g" 0x2000 [(0x2000, 2), (0x2010, 3)]]
  fault := none

/-- A unit with a single function as it is built where the file is missing. -/
def missingUnit (low high : Int) (name : String) (start : Int) : CompilationUnit :=
  { sourcedHead with
    low := low
    high := high
    status := .noFile
    sourceModified := none
    subprograms := [{ name := some name, low := start, high := start + 0x10 }]
    ranges := [{ low := start, high := start + 0x10, name := some name }] }

/-- A unit with a single function and two rows as it is built where there is the file. -/
def presentUnit (name : String) (start : Int) (first second : LineRow) : CompilationUnit :=
  { sourcedHead with
    low := start
    high := start + 0x10
    sourceText := some "a\nb\nc\n"
    sourceLines := [some "a", some "b", some "c"]
    rows := [first, second]
    rowIndices := [first.line - 1, second.line - 1]
    rowTexts := [first.text, second.text]
    subprograms :=
      [{ name := some name, low := start, high := start + 0x10, rows := [first, second] }]
    ranges := [{ low := start, high := start + 0x10, name := some name }] }

/-- The database where the file is missing. -/
def missingDatabase : Database :=
  ofUnits [missingUnit 0 0xffffffff "f" 0x1000, missingUnit 0x2000 0x2010 "g" 0x2000]

/-- The database where there is the file. -/
def presentDatabase : Database :=
  ofUnits
    [presentUnit "f" 0x1000 ⟨0x1000, 1, some "a"⟩ ⟨0x1010, 2, some "b"⟩,
      presentUnit "g" 0x2000 ⟨0x2000, 2, some "b"⟩ ⟨0x2010, 3, some "c"⟩]

theorem header_singleTop_of_no_file (low high : Int) (name : String) (start : Int)
    (rows : List (Int × Int)) :
    vacantContext.header (singleSource low high name start rows)
        (singleTop low high name start) =
      ⟨[.sourceUnusable "/a.c" .noFile],
        .ok ({ describe { tag := .compileUnit } (singleTop low high name start) with
          sourceDirectory := .text ""
          sourceName := some "a.c"
          fullPath := some "/a.c"
          status := .noFile
          sourceModified := none }, [])⟩ := by
  have located : vacantContext.locationOf (singleTop low high name start) =
      ⟨.text "", "a.c", "/a.c"⟩ := locationOf_sourcedTop
  exact loadSource_vacantContext located _

theorem header_singleTop_of_file (low high : Int) (name : String) (start : Int)
    (rows : List (Int × Int)) :
    sourcedContext.header (singleSource low high name start rows)
        (singleTop low high name start) =
      Report.pure
        ({ describe { tag := .compileUnit } (singleTop low high name start) with
            sourceDirectory := .text ""
            sourceName := some "a.c"
            fullPath := some "/a.c"
            status := .ok
            sourceModified := some 0
            sourceText := some "a\nb\nc\n" }, ["a", "b", "c"]) :=
  loadSource_sourcedContext locationOf_sourcedTop _

theorem ingest_pairedSource {context : BuildContext} {first second : CompilationUnit}
    (builtFirst : (context.build
      (singleSource 0 0xffffffff "f" 0x1000 [(0x1000, 1), (0x1010, 2)])).outcome = .ok first)
    (builtSecond : (context.build
      (singleSource 0x2000 0x2010 "g" 0x2000 [(0x2000, 2), (0x2010, 3)])).outcome = .ok second) :
    (ingest context pairedSource "0.000s").outcome = .ok (ofUnits [first, second]) := by
  refine outcome_ingest_eq_ok_iff.mpr ⟨rfl, [first, second], rfl, ?_⟩
  rw [Report.outcome_each_eq_ok_iff]
  simp only [pairedSource, List.map_cons, List.map_nil, outcome_buildUnit_eq_ok_iff.mpr builtFirst,
    outcome_buildUnit_eq_ok_iff.mpr builtSecond]

theorem build_first_of_no_file :
    (vacantContext.build
        (singleSource 0 0xffffffff "f" 0x1000 [(0x1000, 1), (0x1010, 2)])).outcome =
      .ok (missingUnit 0 0xffffffff "f" 0x1000) := by
  change ((vacantContext.header _ (singleTop 0 0xffffffff "f" 0x1000)).bind _).outcome = _
  rw [header_singleTop_of_no_file]
  rfl

theorem build_first_of_file :
    (sourcedContext.build
        (singleSource 0 0xffffffff "f" 0x1000 [(0x1000, 1), (0x1010, 2)])).outcome =
      .ok (presentUnit "f" 0x1000 ⟨0x1000, 1, some "a"⟩ ⟨0x1010, 2, some "b"⟩) := by
  change ((sourcedContext.header _ (singleTop 0 0xffffffff "f" 0x1000)).bind _).outcome = _
  rw [header_singleTop_of_file]
  rfl

theorem ingest_pairedSource_of_no_file :
    (ingest vacantContext pairedSource "0.000s").outcome = .ok missingDatabase := by
  refine ingest_pairedSource build_first_of_no_file ?_
  change ((vacantContext.header _ (singleTop 0x2000 0x2010 "g" 0x2000)).bind _).outcome = _
  rw [header_singleTop_of_no_file]
  rfl

theorem ingest_pairedSource_of_file :
    (ingest sourcedContext pairedSource "0.000s").outcome = .ok presentDatabase := by
  refine ingest_pairedSource build_first_of_file ?_
  change ((sourcedContext.header _ (singleTop 0x2000 0x2010 "g" 0x2000)).bind _).outcome = _
  rw [header_singleTop_of_file]
  rfl

/-- The unit without a range of its own contains the first function with and without the
file: it has the range of its rows there, and contains all addresses here. -/
theorem coverAlike_pairedSource :
    CoverAlike sourcedContext vacantContext pairedSource.items 0x1004 := by
  intro item member unbounded unit twin built builtTwin
  rcases List.mem_cons.mp member with rfl | inRest
  · obtain rfl := Except.ok.inj (build_first_of_file.symm.trans built)
    obtain rfl := Except.ok.inj (build_first_of_no_file.symm.trans builtTwin)
    decide
  · obtain rfl := List.mem_singleton.mp inRest
    have bounded : (singleSource 0x2000 0x2010 "g" 0x2000
        [(0x2000, 2), (0x2010, 3)]).isUnbounded = false := by decide
    rw [bounded] at unbounded
    cases unbounded

theorem answers_pairedSource :
    vacantContext.settings = sourcedContext.settings ∧
      (ingest sourcedContext pairedSource "0.000s").outcome = .ok presentDatabase ∧
        (ingest vacantContext pairedSource "0.000s").outcome = .ok missingDatabase ∧
          missingDatabase.variablesFor .null = presentDatabase.variablesFor .null ∧
            CoverAlike sourcedContext vacantContext pairedSource.items 0x1004 ∧
              missingDatabase.unitIndexAt? 0x1004 = presentDatabase.unitIndexAt? 0x1004 ∧
                missingDatabase.functionName? 0x1004 = presentDatabase.functionName? 0x1004 ∧
                  presentDatabase.functionName? 0x1004 = some "f" := by
  have sameSettings : vacantContext.settings = sourcedContext.settings := rfl
  obtain ⟨-, sameGlobals, sameAnswers, sameIndex⟩ :=
    answers_eq_of_ingests sameSettings ingest_pairedSource_of_file ingest_pairedSource_of_no_file
  have found := sameIndex 0x1004 coverAlike_pairedSource
  exact ⟨sameSettings, ingest_pairedSource_of_file, ingest_pairedSource_of_no_file,
    sameGlobals .null rfl, coverAlike_pairedSource, found, (sameAnswers 0x1004 found).1, rfl⟩

/-- Without its source file the first unit hides the second one, whose function is found only
where there is the file. -/
theorem functionName?_hidden :
    vacantContext.settings = sourcedContext.settings ∧
      (ingest sourcedContext pairedSource "0.000s").outcome = .ok presentDatabase ∧
        (ingest vacantContext pairedSource "0.000s").outcome = .ok missingDatabase ∧
          presentDatabase.functionName? 0x2004 = some "g" ∧
            missingDatabase.functionName? 0x2004 = none :=
  ⟨rfl, ingest_pairedSource_of_file, ingest_pairedSource_of_no_file, rfl, rfl⟩

end Database
end DebugIndex
