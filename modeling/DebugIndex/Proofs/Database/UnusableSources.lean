import DebugIndex.Proofs.CompilationUnit.BuildFailures
import DebugIndex.Proofs.CompilationUnit.HostIndependence

/-!
# Units whose source can not be used

A whole compilation unit has the text of its source file exactly if its status is good.  The
status is settled in two steps, as a file that can be inspected can still turn out to be
unreadable, and what is read later depends on it: without a usable source there is no line
table, so the slices of the functions are empty, no lines are called for, and the unit keeps
the range that it gives for itself.  No query finds a line of such a unit, nor the text of
one.
-/

namespace DebugIndex

namespace CompilationUnit

/-- A unit whose source file is good and has been read. -/
structure IsSourced (unit : CompilationUnit) : Prop where
  status : unit.status = .ok
  sourceText : unit.sourceText.isSome = true

/-- A unit whose source file is not good, and that has nothing of it, nor have its functions. -/
structure IsSourceless (unit : CompilationUnit) : Prop where
  status : unit.status ≠ .ok
  sourceText : unit.sourceText = none
  sourceLines : unit.sourceLines = []
  rows : unit.rows = []
  rowIndices : unit.rowIndices = []
  rowTexts : unit.rowTexts = []
  slices : ∀ subprogram ∈ unit.subprograms, subprogram.rows = []
  declarations : ∀ subprogram ∈ unit.subprograms, subprogram.declarationText = none

/-! ## The source file -/

/-- What is settled about a unit when its source file is looked for. -/
def standing (unit : CompilationUnit) : Tag × SourceStatus × Option String :=
  (unit.tag, unit.status, unit.sourceText)

/-- What the line table leaves with a unit for its source lines. -/
def listing (unit : CompilationUnit) : List Int × List (Option String) :=
  (unit.rowIndices, unit.rowTexts)

theorem standing_withTable (source : UnitSource) (unit : CompilationUnit) :
    (BuildContext.withTable source unit).standing = unit.standing :=
  field_withTable (fun _ _ => rfl) source unit

@[simp]
theorem standing_contribute (unit : CompilationUnit) (contribution : Extraction.Contribution) :
    (Extraction.contribute unit contribution).standing = unit.standing := by
  cases contribution <;> rfl

@[simp]
theorem listing_contribute (unit : CompilationUnit) (contribution : Extraction.Contribution) :
    (Extraction.contribute unit contribution).listing = unit.listing := by
  cases contribution <;> rfl

theorem standing_withLines (unit : CompilationUnit) (lines : List String) :
    (unit.withLines lines).standing = unit.standing := by
  simp only [withLines]
  split <;> rfl

/-- What is settled about a unit with its source file stays until the unit is built. -/
theorem standing_stages (context : BuildContext) (source : UnitSource) (entries : List Entry)
    (unit : CompilationUnit) (lines : List String) :
    (context.resolvedUnit ((entries.foldl (BuildContext.absorb source.byteOrder)
      (BuildContext.withTable source unit)).bindLines lines)).standing = unit.standing := by
  calc
    _ = (entries.foldl (BuildContext.absorb source.byteOrder)
          (BuildContext.withTable source unit)).standing :=
      field_bindLines standing_withLines (fun _ => rfl) (fun _ _ _ => rfl) _ lines
    _ = (BuildContext.withTable source unit).standing :=
      BuildContext.kept_foldl_absorb standing_contribute (fun _ _ => rfl) _ entries _
    _ = unit.standing := standing_withTable source unit

/-- Looking for a source file comes to a text, or to a status that is not good and nothing
else. -/
theorem source_of_loadSource {context : BuildContext} {unit : CompilationUnit} {top : Entry}
    (untexted : unit.sourceText = none) {headed : CompilationUnit × List String}
    (loaded : (context.loadSource unit top).outcome = .ok headed) :
    headed.1.IsSourced ∨
      (headed.1.status ≠ .ok ∧ headed.1.sourceText = none ∧ headed.2 = []) := by
  simp only [BuildContext.loadSource] at loaded
  split at loaded
  · cases loaded
  · split at loaded
    case isTrue inspected =>
      obtain ⟨content, -, given⟩ := Report.outcome_bind_eq_ok_iff.mp loaded
      cases content with
      | none =>
          obtain rfl := Except.ok.inj given
          exact Or.inr ⟨by simp, untexted, rfl⟩
      | some found =>
          obtain rfl := Except.ok.inj given
          exact Or.inl ⟨inspected, rfl⟩
    case isFalse uninspected =>
      obtain rfl := Except.ok.inj loaded
      exact Or.inr ⟨uninspected, untexted, rfl⟩

theorem source_of_header {context : BuildContext} {source : UnitSource} {top : Entry}
    (whole : top.tag = .compileUnit) {headed : CompilationUnit × List String}
    (described : (context.header source top).outcome = .ok headed) :
    headed.1.IsSourced ∨
      (headed.1.status ≠ .ok ∧ headed.1.sourceText = none ∧ headed.2 = []) := by
  simp only [BuildContext.header, whole, if_true] at described
  exact source_of_loadSource rfl described

theorem tag_and_listing_of_header {context : BuildContext} {source : UnitSource} {top : Entry}
    {headed : CompilationUnit × List String}
    (described : (context.header source top).outcome = .ok headed) :
    headed.1.tag = top.tag ∧ headed.1.listing = ([], []) := by
  simp only [BuildContext.header] at described
  split at described
  · obtain ⟨status, text, headed_eq⟩ := BuildContext.eq_of_loadSource described
    rw [headed_eq]
    exact ⟨rfl, rfl⟩
  · obtain rfl := Except.ok.inj described
    exact ⟨rfl, rfl⟩

/-! ## What depends on it -/

/-- A unit that is not to have lines has none to bind either if it has no rows. -/
theorem bindLines_nil {unit : CompilationUnit} (sliced : unit.Sliced) (noRows : unit.rows = []) :
    unit.bindLines [] = { unit with sourceLines := [] } := by
  have noPlaceholders : unit.placeholderCount = 0 := by
    rcases BuildContext.placeholderCount_of_sliced sliced with none | ⟨row, member, -⟩
    · exact none
    · rw [noRows] at member
      cases member
  have lined : unit.withLines [] = { unit with sourceLines := [] } := by
    simp only [withLines, placeholderLines, noPlaceholders]
    rfl
  simp only [bindLines, lined, noRows]
  rfl

/-- A unit without a line table has no lines to bind however many entries are absorbed. -/
theorem bindLines_foldl_absorb_of_isBare {byteOrder : Option ByteOrder} {unit : CompilationUnit}
    (bare : BuildContext.IsBare unit) (entries : List Entry) :
    (entries.foldl (BuildContext.absorb byteOrder) unit).bindLines [] =
      { entries.foldl (BuildContext.absorb byteOrder) unit with sourceLines := [] } := by
  have sliced : (entries.foldl (BuildContext.absorb byteOrder) unit).Sliced :=
    Sliced.foldl_absorb (by simp [Sliced, bare.subprograms]) _ _
  exact bindLines_nil sliced (by rw [rows_foldl_absorb, bare.rows])

theorem isSourceless_of_bare {unit : CompilationUnit} (sliced : unit.Sliced)
    (texted : unit.Texted) (bad : unit.status ≠ .ok) (noText : unit.sourceText = none)
    (noLines : unit.sourceLines = []) (noRows : unit.rows = [])
    (noListing : unit.listing = ([], [])) : unit.IsSourceless where
  status := bad
  sourceText := noText
  sourceLines := noLines
  rows := noRows
  rowIndices := (Prod.mk.inj noListing).1
  rowTexts := (Prod.mk.inj noListing).2
  slices := by
    intro subprogram member
    rw [sliced subprogram member, noRows]
    rfl
  declarations := by
    intro subprogram member
    rw [texted.declarations subprogram member, lineText?_of_untexted (by simp [noLines])]

/-- The source file of a whole unit is good and read, or nothing of it is there. -/
theorem isSourced_or_isSourceless_of_build {context : BuildContext} {source : UnitSource}
    {unit : CompilationUnit} (built : (context.build source).outcome = .ok unit)
    (whole : unit.tag = .compileUnit) : unit.IsSourced ∨ unit.IsSourceless := by
  have sliced := sliced_of_build built
  have texted := texted_of_build built
  obtain ⟨top, headed, fetched, described, rfl⟩ := BuildContext.stages_of_build built
  have kept := standing_stages context source top.children.items headed.1 headed.2
  obtain ⟨sameTag, sameRest⟩ := Prod.mk.inj kept
  obtain ⟨sameStatus, sameText⟩ := Prod.mk.inj sameRest
  obtain ⟨headedTag, headedListing⟩ := tag_and_listing_of_header described
  have wholeTop : top.tag = .compileUnit := by
    rw [← headedTag, ← sameTag]
    exact whole
  rcases source_of_header wholeTop described with ⟨good, text⟩ | ⟨bad, noText, noLines⟩
  · exact Or.inl ⟨sameStatus.trans good, by rw [sameText, text]⟩
  · right
    have bare := BuildContext.isBare_of_header described
    have tabled : BuildContext.withTable source headed.1 = headed.1 := if_neg bad
    rw [tabled, noLines] at sliced texted sameStatus sameText ⊢
    have filledListing : (top.children.items.foldl (BuildContext.absorb source.byteOrder)
        headed.1).listing = ([], []) := by
      rw [← headedListing]
      exact BuildContext.kept_foldl_absorb listing_contribute (fun _ _ => rfl) _ _ _
    rw [bindLines_foldl_absorb_of_isBare bare] at sliced texted sameStatus sameText ⊢
    refine isSourceless_of_bare sliced texted (sameStatus ▸ bad) (sameText.trans noText) rfl ?_ ?_
    · exact (rows_foldl_absorb _ _ _).trans bare.rows
    · exact filledListing

/-- A unit without anything of its source keeps the range that it gives for itself. -/
theorem IsSourceless.range {context : BuildContext} {source : UnitSource} {unit : CompilationUnit}
    (sourceless : unit.IsSourceless) (built : (context.build source).outcome = .ok unit) :
    unit.range = source.ownRange := by
  have noRowRange : unit.rowRange? = none := by
    simp only [rowRange?, sourceless.sourceLines, List.isEmpty_nil, if_true]
  rw [range_of_build built, noRowRange, Option.getD_none, ite_self]

end CompilationUnit

namespace Database

open CompilationUnit

variable {context : BuildContext} {source : Feed UnitSource} {elapsed : String}
  {database : Database} {unit : CompilationUnit}

/-- Every unit of a database that was ingested has been built from the source in its place. -/
theorem exists_build_at_of_ingest
    (ingested : (ingest context source elapsed).outcome = .ok database) {index : Nat}
    (listed : database.units[index]? = some unit) :
    ∃ item, source.items[index]? = some item ∧ (context.build item).outcome = .ok unit := by
  obtain ⟨-, units, rfl, builtAll⟩ := outcome_ingest_eq_ok_iff.mp ingested
  rw [Report.outcome_each_eq_ok_iff] at builtAll
  have sameAt := congrArg (·[index]?) builtAll
  simp only [List.getElem?_map] at sameAt
  have placed : units[index]? = some unit := listed
  rw [placed, Option.map_some, Option.map_eq_some_iff] at sameAt
  obtain ⟨item, found, built⟩ := sameAt
  exact ⟨item, found, outcome_buildUnit_eq_ok_iff.mp built⟩

/-! ## Queries about a unit without its source -/

section Queries

variable {address : Int}

theorem lookUpLine?_of_isSourceless (indexed : unit.Indexed) (sourceless : unit.IsSourceless)
    (owner : database.unitAt? address = some unit) :
    database.lookUpLine? address none = none ∧
      ∀ tag answer, database.lookUpLine? address tag = some answer → answer.2 = none := by
  have noRow : unit.rowAt? address = none := by
    rw [CompilationUnit.rowAt?, sourceless.rows]
    rfl
  cases found : unit.subprogramAt? address with
  | none =>
      have nothing (tag : Option Tag) : database.lookUpLine? address tag = none := by
        rw [lookUpLine?, owner, Option.bind_some, found, noRow]
        rfl
      refine ⟨nothing none, ?_⟩
      intro tag answer answered
      rw [nothing tag] at answered
      cases answered
  | some subprogram =>
      have member := (mem_and_contains_of_subprogramAt? indexed found).1
      have noSliceRow : subprogram.rowAt? address = none := by
        rw [Subprogram.rowAt?, sourceless.slices subprogram member]
        rfl
      have looked (tag : Option Tag) : database.lookUpLine? address tag =
          if tag = some .subprogram then
            some (subprogram.declarationLine, subprogram.declarationText)
          else none := by
        rw [lookUpLine?, owner, Option.bind_some, found]
        simp only [noSliceRow, noRow, Option.map_none]
      refine ⟨looked none, ?_⟩
      intro tag answer answered
      rw [looked tag] at answered
      split at answered
      · obtain rfl := Option.some.inj answered
        exact sourceless.declarations subprogram member
      · cases answered

theorem functionLineText?_of_isSourceless (indexed : unit.Indexed)
    (sourceless : unit.IsSourceless) (owner : database.unitAt? address = some unit) (line : Int) :
    database.functionLineText? address line = none := by
  rw [functionLineText?, subprogramAt?_of_unitAt? owner]
  cases found : unit.subprogramAt? address with
  | none => rfl
  | some subprogram =>
      have member := (mem_and_contains_of_subprogramAt? indexed found).1
      simp only [Option.bind_some, sourceless.declarations subprogram member,
        sourceless.slices subprogram member, List.find?_nil, Option.bind_none, ite_self]

end Queries

/-- In a built database every whole compilation unit has a good source file and its text; or
else the file is not good, the unit and its functions have nothing of it, and the range of
the unit is the one it gives for itself.  At no address of such a unit is a line known, and
no text either, neither by address, with or without a tag, nor by line. -/
theorem isSourced_or_isSourceless_of_ingest
    (ingested : (ingest context source elapsed).outcome = .ok database) {index : Nat}
    (listed : database.units[index]? = some unit) (whole : unit.tag = .compileUnit) :
    unit.IsSourced ∨
      unit.IsSourceless ∧
        (∃ item, source.items[index]? = some item ∧ unit.range = item.ownRange) ∧
          ∀ address, database.unitAt? address = some unit →
            database.lineNumber address = 0 ∧
              (∀ tag, database.lineText? address tag = none) ∧
                ∀ line, database.unitLineTextFor? (.int address) (.int line) = .ok none ∧
                  database.functionLineTextFor? (.int address) (.int line) = .ok none := by
  obtain ⟨item, placed, built⟩ := exists_build_at_of_ingest ingested listed
  refine (isSourced_or_isSourceless_of_build built whole).imp id fun sourceless => ?_
  refine ⟨sourceless, ⟨item, placed, sourceless.range built⟩, fun address owner => ?_⟩
  have indexed := indexed_of_build built
  refine ⟨?_, fun tag => ?_, fun line => ⟨?_, ?_⟩⟩
  · rw [lineNumber, (lookUpLine?_of_isSourceless indexed sourceless owner).1]
    rfl
  · rw [lineText?]
    cases answered : database.lookUpLine? address tag with
    | none => rfl
    | some answer =>
        exact (lookUpLine?_of_isSourceless indexed sourceless owner).2 tag answer answered
  · rw [unitLineTextFor?_int, unitLineText?, owner, Option.bind_some,
      lineText?_of_untexted (by simp [sourceless.sourceLines])]
  · rw [functionLineTextFor?_int, functionLineText?_of_isSourceless indexed sourceless owner]

/-! ### A unit whose source file is a directory -/

/-- A host with a directory in the place of the source file. -/
def directoryContext : BuildContext where
  files := { nodes := [(["a.c"], .directory 0)] }
  settings := {}

/-- The unit as it is built there: its file can be inspected, but not read. -/
def unreadUnit : CompilationUnit :=
  { BuildContext.unsourcedUnit with sourceModified := some 0 }

theorem loadSource_directoryContext {top : Entry}
    (located : directoryContext.locationOf top = ⟨.text "", "a.c", "/a.c"⟩)
    (unit : CompilationUnit) :
    directoryContext.loadSource unit top =
      ⟨[.sourceUnreadable "/a.c"],
        .ok ({ unit with
          sourceDirectory := .text ""
          sourceName := some "a.c"
          fullPath := some "/a.c"
          status := .noFile
          sourceModified := some 0 }, [])⟩ := by
  have inspected : directoryContext.files.inspect "/a.c" = .ok (.directory 0) := by
    rw [inspect_sourcePath rfl]
    rfl
  have checked : SourceText.check directoryContext.files "/a.c" none = (.ok, some 0) := by
    rw [SourceText.check, inspected]
    rfl
  have unread : SourceText.load? {} directoryContext.files "/a.c" (.text "latin-1") =
      .ok none := by
    rw [SourceText.load?, FileSystem.read, FileSystem.openFile, inspected]
    rfl
  exact BuildContext.loadSource_of_good located rfl checked unread unit

theorem ingest_unreadUnit :
    (ingest directoryContext ⟨[BuildContext.boundedSource], none⟩ "0.000s").outcome =
      .ok (ofUnits [unreadUnit]) := by
  have located : directoryContext.locationOf BuildContext.boundedTop =
      ⟨.text "", "a.c", "/a.c"⟩ := locationOf_sourcedTop
  have headed : directoryContext.header BuildContext.boundedSource BuildContext.boundedTop = _ :=
    loadSource_directoryContext located
      (BuildContext.describe { tag := .compileUnit } BuildContext.boundedTop)
  have fetched : BuildContext.boundedSource.top = .ok BuildContext.boundedTop := rfl
  have built : (directoryContext.build BuildContext.boundedSource).outcome = .ok unreadUnit := by
    simp only [BuildContext.build, fetched, Report.ofExcept_ok, Report.bind_pure, headed]
    rfl
  refine outcome_ingest_eq_ok_iff.mpr ⟨rfl, [unreadUnit], rfl, ?_⟩
  rw [Report.outcome_each_eq_ok_iff, List.map_singleton, List.map_singleton,
    outcome_buildUnit_eq_ok_iff.mpr built]

theorem isSourceless_unreadUnit :
    (ingest directoryContext ⟨[BuildContext.boundedSource], none⟩ "0.000s").outcome =
        .ok (ofUnits [unreadUnit]) ∧
      (ofUnits [unreadUnit]).units[0]? = some unreadUnit ∧ unreadUnit.tag = .compileUnit ∧
        unreadUnit.IsSourceless ∧ (ofUnits [unreadUnit]).unitAt? 0x1004 = some unreadUnit ∧
          (ofUnits [unreadUnit]).lineNumber 0x1004 = 0 ∧
            (ofUnits [unreadUnit]).lineText? 0x1004 (some .subprogram) = none := by
  have listed : (ofUnits [unreadUnit]).units[0]? = some unreadUnit := rfl
  have owner : (ofUnits [unreadUnit]).unitAt? 0x1004 = some unreadUnit := rfl
  rcases isSourced_or_isSourceless_of_ingest ingest_unreadUnit listed rfl with
    sourced | ⟨sourceless, -, answers⟩
  · exact absurd sourced.status (by decide)
  · obtain ⟨noLine, noText, -⟩ := answers 0x1004 owner
    exact ⟨ingest_unreadUnit, listed, rfl, sourceless, owner, noLine, noText (some .subprogram)⟩

end Database
end DebugIndex
