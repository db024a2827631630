import DebugIndex.Proofs.CompilationUnit.Contributions
import DebugIndex.Proofs.Database.Arguments
import DebugIndex.Proofs.Database.LineLookup
import DebugIndex.Proofs.FileSystem.Writing
import DebugIndex.Proofs.Text.LineEnds

/-!
# Texts of lines

The texts of a built unit stand in three places: in its rows, in its functions, and in its
source lines.  They agree: whatever a row or a declaration gives as the text of its line
is what the source lines have there, be it a text or nothing.  So every query for a text
gives what the source file of the unit has in the line that is meant.
-/

namespace DebugIndex

namespace Extraction

theorem declarationText_of_subprogram? {byteOrder : Option ByteOrder} {unitOffset : Int}
    {rows : List LineRow} {entry : Entry} {subprogram : Subprogram}
    (contributed :
      (contributionOf byteOrder unitOffset rows entry).subprogram? = some subprogram) :
    subprogram.declarationText = none := by
  rw [subprogram?_contributionOf] at contributed
  split at contributed
  case isFalse => cases contributed
  case isTrue =>
    simp only [subprogramOf] at contributed
    split at contributed
    · cases contributed
    · obtain rfl := Option.some.inj contributed
      rfl

end Extraction

namespace CompilationUnit

/-- The texts that a unit holds with its rows and functions are those of its source
lines. -/
structure Texted (unit : CompilationUnit) : Prop where
  rows : ∀ row ∈ unit.rows, row.text = unit.lineText? row.line
  declarations : ∀ subprogram ∈ unit.subprograms,
    subprogram.declarationText = unit.lineText? subprogram.declarationLine

/-- The declaration lines of functions get the texts of a unit's source lines. -/
theorem declarationText_of_mem_withLines {unit : CompilationUnit}
    (undeclared : ∀ subprogram ∈ unit.subprograms, subprogram.declarationText = none)
    {lines : List String} {subprogram : Subprogram}
    (member : subprogram ∈ (unit.withLines lines).subprograms) :
    subprogram.declarationText =
      (unit.withLines lines).lineText? subprogram.declarationLine := by
  cases lines with
  | nil =>
      rw [lineText?_of_untexted (untexted_withLines_nil unit)]
      exact undeclared subprogram member
  | cons line lines =>
      obtain ⟨original, -, rfl⟩ := List.mem_map.mp member
      rfl

theorem lineText?_withRowRange (unit : CompilationUnit) (line : Int) :
    unit.withRowRange.lineText? line = unit.lineText? line := by
  have sameLines : unit.withRowRange.sourceLines = unit.sourceLines :=
    field_withRowRange (fun _ _ _ => rfl) unit
  rw [lineText?, sameLines, lineText?]

theorem texted_bindLines {unit : CompilationUnit}
    (blank : ∀ row ∈ unit.rows, row.text = none)
    (undeclared : ∀ subprogram ∈ unit.subprograms, subprogram.declarationText = none)
    (lines : List String) : (unit.bindLines lines).Texted := by
  have declared : ∀ subprogram ∈ (unit.withLines lines).subprograms,
      subprogram.declarationText =
        (unit.withLines lines).lineText? subprogram.declarationLine :=
    fun _ member => declarationText_of_mem_withLines undeclared member
  simp only [bindLines]
  split
  case isTrue stops =>
    refine ⟨?_, declared⟩
    intro row member
    rw [Bool.or_eq_true, List.isEmpty_iff, List.isEmpty_iff] at stops
    rcases stops with noRows | noLines
    · rw [noRows] at member
      cases member
    · rw [rows_withLines] at member
      rw [lineText?_of_untexted (by simp [noLines]), blank row member]
  case isFalse =>
    constructor
    · intro row member
      rw [rows_withRowRange] at member
      obtain ⟨original, -, rfl⟩ := List.mem_map.mp member
      rw [lineText?_withRowRange]
      rfl
    · intro subprogram member
      rw [subprograms_withRowRange] at member
      rw [lineText?_withRowRange]
      exact declared subprogram member

theorem texted_of_build {context : BuildContext} {source : UnitSource}
    {unit : CompilationUnit} (built : (context.build source).outcome = .ok unit) :
    unit.Texted := by
  obtain ⟨top, headed, -, described, rfl⟩ := BuildContext.stages_of_build built
  have bare := BuildContext.isBare_of_header described
  have blank : ∀ row ∈ (top.children.items.foldl (BuildContext.absorb source.byteOrder)
      (BuildContext.withTable source headed.1)).rows, row.text = none := by
    rw [rows_foldl_absorb]
    exact fun _ member => blank_of_mem_withTable bare.rows member
  have undeclared : ∀ subprogram ∈
      (top.children.items.foldl (BuildContext.absorb source.byteOrder)
        (BuildContext.withTable source headed.1)).subprograms,
      subprogram.declarationText = none := by
    rw [BuildContext.subprograms_foldl_absorb, subprograms_withTable, bare.subprograms,
      List.nil_append]
    intro subprogram member
    obtain ⟨entry, -, contributed⟩ := List.mem_filterMap.mp member
    exact Extraction.declarationText_of_subprogram? contributed
  have texted := texted_bindLines blank undeclared headed.2
  refine ⟨texted.rows, ?_⟩
  intro subprogram member
  obtain ⟨original, originalMember, rfl⟩ := List.mem_map.mp member
  exact texted.declarations original originalMember

end CompilationUnit

namespace Database

section Texts

variable {database : Database} {address : Int} {unit : CompilationUnit}

/-- A line that is looked up comes with the text that the unit has in that line. -/
theorem text_of_lookUpLine? (indexed : unit.Indexed) (sliced : unit.Sliced)
    (texted : unit.Texted) (owner : database.unitAt? address = some unit) {tag : Option Tag}
    {answer : Int × Option String} (answered : database.lookUpLine? address tag = some answer) :
    answer.2 = unit.lineText? answer.1 := by
  have ofTable : ∀ given, (unit.rowAt? address).map rowAnswer = some given →
      given.2 = unit.lineText? given.1 := by
    intro given found
    obtain ⟨row, atAddress, rfl⟩ := Option.map_eq_some_iff.mp found
    exact texted.rows row (List.mem_of_find?_eq_some atAddress)
  rw [lookUpLine?, owner, Option.bind_some] at answered
  cases found : unit.subprogramAt? address with
  | none =>
      rw [found] at answered
      exact ofTable answer answered
  | some subprogram =>
      have member := (CompilationUnit.mem_and_contains_of_subprogramAt? indexed found).1
      simp only [found] at answered
      split at answered
      · obtain rfl := Option.some.inj answered
        exact texted.declarations subprogram member
      · cases supplied : subprogram.rowAt? address with
        | none =>
            rw [supplied] at answered
            exact ofTable answer answered
        | some row =>
            rw [supplied] at answered
            obtain rfl := Option.some.inj answered
            exact texted.rows row (CompilationUnit.mem_of_rowAt? sliced member supplied).1

/-- The text of a line in a function is the one that the unit has in that line. -/
theorem lineText?_of_functionLineText? (indexed : unit.Indexed) (sliced : unit.Sliced)
    (texted : unit.Texted) (owner : database.unitAt? address = some unit) {line : Int}
    {text : String} (answered : database.functionLineText? address line = some text) :
    unit.lineText? line = some text := by
  obtain ⟨subprogram, found, given⟩ := Option.bind_eq_some_iff.mp answered
  rw [subprogramAt?_of_unitAt? owner] at found
  have member := (CompilationUnit.mem_and_contains_of_subprogramAt? indexed found).1
  split at given
  case isTrue declared =>
    rw [← declared, ← texted.declarations subprogram member, given]
  case isFalse =>
    obtain ⟨row, listed, rowText⟩ := Option.bind_eq_some_iff.mp given
    have atLine : row.line = line := by simpa using List.find?_some listed
    have inSlice := List.mem_of_find?_eq_some listed
    rw [sliced subprogram member, Extraction.mem_slice] at inSlice
    rw [← atLine, ← texted.rows row inSlice.1, rowText]

end Texts

/-- In a built database the text at an address is, with or without a tag, what the source
of the unit has in the line at the address; and a text of a line in the function at an
address is what the source of the unit has in that line. -/
theorem unitLineTextFor?_of_ingest {context : BuildContext} {source : Feed UnitSource}
    {elapsed : String} {database : Database}
    (ingested : (ingest context source elapsed).outcome = .ok database) (address : Int) :
    (∀ tag, database.unitLineTextFor? (.int address) (.int (database.lineNumber address tag)) =
        .ok (database.lineText? address tag)) ∧
      ∀ line text, database.functionLineTextFor? (.int address) (.int line) = .ok (some text) →
        database.unitLineTextFor? (.int address) (.int line) = .ok (some text) := by
  simp only [unitLineTextFor?_int, functionLineTextFor?_int, Except.ok.injEq]
  cases owner : database.unitAt? address with
  | none =>
      constructor
      · intro tag
        rw [lineText?, unitLineText?, lookUpLine?, owner]
        rfl
      · intro line text answered
        rw [functionLineText?, Database.subprogramAt?, owner] at answered
        cases answered
  | some unit =>
      obtain ⟨item, -, built⟩ :=
        exists_build_of_ingest ingested (List.mem_of_find?_eq_some owner)
      have indexed := CompilationUnit.indexed_of_build built
      have sliced := CompilationUnit.sliced_of_build built
      have texted := CompilationUnit.texted_of_build built
      constructor
      · intro tag
        rw [unitLineText?, owner, Option.bind_some, lineText?, lineNumber]
        cases answered : database.lookUpLine? address tag with
        | none => rfl
        | some answer =>
            exact (text_of_lookUpLine? indexed sliced texted owner answered).symm
      · intro line text answered
        rw [unitLineText?, owner, Option.bind_some]
        exact lineText?_of_functionLineText? indexed sliced texted owner answered

/-! ### A unit with a source file -/

/-- A host with a file of the three lines `a`, `b` and `c`. -/
def sourcedContext : BuildContext where
  files := { nodes := [(["a.c"], .file [97, 10, 98, 10, 99, 10] 0)] }
  settings := {}

/-- The top entry of a unit with a function declared in the second line of the file. -/
def sourcedTop : Entry where
  tag := .compileUnit
  offset := 11
  attributes :=
    [(AttributeName.name, some (.ofText "DW_FORM_string" "a.c")),
      (AttributeName.directory, some (.ofText "DW_FORM_string" ""))]
  children :=
    ⟨[{ tag := .subprogram
        offset := 20
        attributes :=
          [(AttributeName.lowAddress, some (.ofInt "DW_FORM_addr" 0x1000)),
            (AttributeName.highAddress, some (.ofInt "DW_FORM_data4" 0x10)),
            (AttributeName.declarationLine, some (.ofInt "DW_FORM_data1" 2))]
        children := ⟨[], none⟩ }], none⟩

/-- The unit with its line table, whose last two rows are outside the file. -/
def sourcedSource : UnitSource where
  top := .ok sourcedTop
  rows := ⟨[(0x1000, 2), (0x1008, 3), (0x100c, 9), (0x1010, 0)], none⟩

def sourcedHead : CompilationUnit where
  tag := .compileUnit
  sourceName := some "a.c"
  sourceDirectory := .text ""
  fullPath := some "/a.c"
  sourceModified := some 0

/-- The function of the unit with the texts of its lines. -/
def sourcedFunction : Subprogram where
  low := 0x1000
  high := 0x1010
  declarationLine := 2
  declarationText := some "b"
  rows := [⟨0x1000, 2, some "b"⟩, ⟨0x1008, 3, some "c"⟩, ⟨0x100c, 9, none⟩, ⟨0x1010, 0, none⟩]

def sourcedUnit : CompilationUnit :=
  { sourcedHead with
    low := 0x1000
    high := 0x1010
    sourceText := some "a\nb\nc\n"
    sourceLines := [some "a", some "b", some "c"]
    rows := sourcedFunction.rows
    rowIndices := [1, 2, 8, -1]
    rowTexts := [some "b", some "c", none, none]
    subprograms := [sourcedFunction]
    ranges := [{ low := 0x1000, high := 0x1010 }] }

theorem locationOf_sourcedTop :
    sourcedContext.locationOf sourcedTop = ⟨.text "", "a.c", "/a.c"⟩ := by
  have conformed : SourcePath.conform ['/'] "a.c".toList = ['a', '.', 'c'] := by decide +kernel
  have joined : SourcePath.join ['/'] [] ['a', '.', 'c'] = ['/', 'a', '.', 'c'] := by
    decide +kernel
  change SourcePath.locate sourcedContext.files ['/'] (some "a.c") (some "") [] = _
  have found : SourcePath.directoryOf sourcedContext.files ['/'] "a.c" (some "") [] = .text "" :=
    rfl
  have plain : (Value.text "").plain.toList = [] := rfl
  simp only [SourcePath.locate, Option.getD_some, conformed, found, plain, joined]

/-- The path of the file is looked at from the root, in whatever file system lets it be. -/
theorem inspect_sourcePath {files : FileSystem}
    (unhindered : files.obstacles.inspecting "/a.c" = none) :
    files.inspect "/a.c" =
      (files.follow [] ["", "a.c"]).bind fun place =>
        match files.node? place with
        | some node => .ok node
        | none => .error .notFound := by
  have noNull : "/a.c".contains '\x00' = false := by simp
  have rooted : "/a.c".startsWith "/" = true := by simp
  have accepted : FileSystem.accept "/a.c" = .ok () := by
    simp only [FileSystem.accept, noNull, Bool.false_eq_true, if_false]
    rfl
  simp only [FileSystem.inspect, accepted, unhindered, FileSystem.origin, rooted, if_true]
  rfl

theorem inspect_sourcedContext :
    sourcedContext.files.inspect "/a.c" = .ok (.file [97, 10, 98, 10, 99, 10] 0) := by
  rw [inspect_sourcePath rfl]
  rfl

theorem loadSource_sourcedContext {top : Entry}
    (located : sourcedContext.locationOf top = ⟨.text "", "a.c", "/a.c"⟩)
    (unit : CompilationUnit) :
    sourcedContext.loadSource unit top =
      Report.pure
        ({ unit with
            sourceDirectory := .text ""
            sourceName := some "a.c"
            fullPath := some "/a.c"
            status := .ok
            sourceModified := some 0
            sourceText := some "a\nb\nc\n" }, ["a", "b", "c"]) := by
  have checked : SourceText.check sourcedContext.files "/a.c" none = (.ok, some 0) := by
    rw [SourceText.check, inspect_sourcedContext]
    rfl
  have contained : sourcedContext.files.read "/a.c" = .ok [97, 10, 98, 10, 99, 10] :=
    FileSystem.read_eq_ok_iff.mpr ⟨⟨0, inspect_sourcedContext⟩, rfl, rfl⟩
  have loaded : SourceText.load? {} sourcedContext.files "/a.c" (.text "latin-1") =
      .ok (some ⟨"a\nb\nc\n", ["a", "b", "c"]⟩) := by
    simp only [SourceText.load?, contained, SourceText.ofBytes, SourceText.codecOf_latin1]
    rfl
  exact BuildContext.loadSource_of_good located rfl checked loaded unit

theorem header_sourcedSource : sourcedContext.header sourcedSource sourcedTop =
    Report.pure ({ sourcedHead with sourceText := some "a\nb\nc\n" }, ["a", "b", "c"]) :=
  loadSource_sourcedContext locationOf_sourcedTop
    (BuildContext.describe { tag := .compileUnit } sourcedTop)

theorem build_sourcedSource : (sourcedContext.build sourcedSource).outcome = .ok sourcedUnit := by
  have fetched : sourcedSource.top = .ok sourcedTop := rfl
  simp only [BuildContext.build, fetched, Report.ofExcept_ok, Report.bind_pure,
    header_sourcedSource]
  rfl

theorem ingest_sourcedSource :
    (ingest sourcedContext ⟨[sourcedSource], none⟩ "0.000s").outcome =
      .ok (ofUnits [sourcedUnit]) := by
  refine outcome_ingest_eq_ok_iff.mpr ⟨rfl, [sourcedUnit], rfl, ?_⟩
  rw [Report.outcome_each_eq_ok_iff, List.map_singleton, List.map_singleton,
    outcome_buildUnit_eq_ok_iff.mpr build_sourcedSource]

theorem unitLineTextFor?_sourcedUnit :
    (ingest sourcedContext ⟨[sourcedSource], none⟩ "0.000s").outcome =
        .ok (ofUnits [sourcedUnit]) ∧
      (ofUnits [sourcedUnit]).functionLineTextFor? (.int 0x1004) (.int 3) = .ok (some "c") ∧
        (ofUnits [sourcedUnit]).unitLineTextFor? (.int 0x1004) (.int 3) = .ok (some "c") ∧
          (ofUnits [sourcedUnit]).unitLineTextFor? (.int 0x1004) (.int 2) = .ok (some "b") := by
  have texts := unitLineTextFor?_of_ingest ingest_sourcedSource 0x1004
  have inFunction : (ofUnits [sourcedUnit]).functionLineTextFor? (.int 0x1004) (.int 3) =
      .ok (some "c") := rfl
  exact ⟨ingest_sourcedSource, inFunction, texts.2 3 "c" inFunction, texts.1 (some .subprogram)⟩

end Database
end DebugIndex
