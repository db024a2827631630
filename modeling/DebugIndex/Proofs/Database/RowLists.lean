import DebugIndex.Proofs.Database.RowIndices
import DebugIndex.Proofs.Database.RowReach
import DebugIndex.Proofs.Text.LineEnds

/-!
# Lists about rows

A database lists the lines of a unit's rows, the indices of these lines and their texts.  The
first list is read off the line table; the other two are filled once, when the source lines of
the unit are bound.  So they run in parallel if there are source lines then: those that end in the
text of a source file, or placeholders, as many as the last row of the last function says.  If
there are none the indices and the texts stay empty, however many rows there are.
-/

namespace DebugIndex

namespace SourceText

/-- A source file that has been read has lines exactly if there is a newline in its text. -/
theorem lines_eq_nil_iff_of_load? {codecs : Text.Codecs} {files : FileSystem} {path : String}
    {encoding : Value} {loaded : Loaded}
    (read : load? codecs files path encoding = .ok (some loaded)) :
    loaded.lines = [] ↔ '\n' ∉ loaded.text.toList := by
  rw [load?] at read
  cases opened : files.read path with
  | error reason =>
      rw [opened] at read
      cases read
  | ok content =>
      simp only [opened] at read
      cases decoded : ofBytes codecs content encoding with
      | error reason =>
          rw [decoded] at read
          cases read
      | ok pair =>
          rw [decoded] at read
          obtain rfl := Option.some.inj (Except.ok.inj read)
          rw [List.map_eq_nil_iff, String.toList_ofList, lines_eq_of_ofBytes decoded,
            linesOf_eq_nil_iff]

end SourceText

namespace CompilationUnit

/-! ## When there are source lines -/

/-- Whether a unit has a source text in which a line ends. -/
def HasTextLine (unit : CompilationUnit) : Prop :=
  '\n' ∈ (unit.sourceText.getD "").toList

instance (unit : CompilationUnit) : Decidable unit.HasTextLine :=
  inferInstanceAs (Decidable ('\n' ∈ (unit.sourceText.getD "").toList))

/-- Looking for a source file comes to lines exactly if it comes to a text with a newline in it. -/
theorem lines_eq_nil_iff_of_loadSource {context : BuildContext} {unit : CompilationUnit}
    {top : Entry} (untexted : unit.sourceText = none) {headed : CompilationUnit × List String}
    (loaded : (context.loadSource unit top).outcome = .ok headed) :
    headed.2 = [] ↔ ¬ headed.1.HasTextLine := by
  have noText : ¬ unit.HasTextLine := by
    rw [HasTextLine, untexted]
    simp
  simp only [BuildContext.loadSource] at loaded
  split at loaded
  · cases loaded
  · split at loaded
    case isTrue inspected =>
      obtain ⟨content, read, given⟩ := Report.outcome_bind_eq_ok_iff.mp loaded
      cases content with
      | none =>
          obtain rfl := Except.ok.inj given
          exact iff_of_true rfl noText
      | some found =>
          obtain rfl := Except.ok.inj given
          exact SourceText.lines_eq_nil_iff_of_load? (Report.outcome_ofExcept_eq_ok_iff.mp read)
    case isFalse uninspected =>
      obtain rfl := Except.ok.inj loaded
      exact iff_of_true rfl noText

theorem lines_eq_nil_iff_of_header {context : BuildContext} {source : UnitSource} {top : Entry}
    {headed : CompilationUnit × List String}
    (described : (context.header source top).outcome = .ok headed) :
    headed.2 = [] ↔ ¬ headed.1.HasTextLine := by
  simp only [BuildContext.header] at described
  split at described
  · exact lines_eq_nil_iff_of_loadSource rfl described
  · obtain rfl := Except.ok.inj described
    exact iff_of_true rfl (by simp [HasTextLine])

@[simp]
theorem placeholderCount_withLines (unit : CompilationUnit) (lines : List String) :
    (unit.withLines lines).placeholderCount = unit.placeholderCount := by
  simp only [withLines]
  split
  · rfl
  · simp only [placeholderCount, List.getLast?_map, Option.bind_map]
    cases unit.subprograms.getLast? with
    | none => rfl
    | some last =>
        simp only [Option.bind_some, Function.comp, textSubprogram, List.getLast?_map]
        cases last.rows.getLast? <;> rfl

theorem placeholderCount_bindLines (unit : CompilationUnit) (lines : List String) :
    (unit.bindLines lines).placeholderCount = unit.placeholderCount :=
  field_bindLines placeholderCount_withLines (fun _ => rfl) (fun _ _ _ => rfl) unit lines

theorem placeholderCount_resolvedUnit (context : BuildContext) (unit : CompilationUnit) :
    (context.resolvedUnit unit).placeholderCount = unit.placeholderCount := by
  simp only [placeholderCount, BuildContext.resolvedUnit, List.getLast?_map, Option.bind_map]
  rfl

theorem sourceLines_bindLines (unit : CompilationUnit) (lines : List String) :
    (unit.bindLines lines).sourceLines = (unit.withLines lines).sourceLines := by
  simp only [bindLines]
  split
  · rfl
  · exact sourceLines_withRowRange _

/-- A unit that is given no lines has source lines only if its last function calls for
placeholders. -/
theorem sourceLines_withLines_eq_nil_iff (unit : CompilationUnit) (lines : List String) :
    (unit.withLines lines).sourceLines = [] ↔ lines = [] ∧ unit.placeholderCount ≤ 0 := by
  cases lines with
  | nil =>
      simp only [withLines, placeholderLines, List.isEmpty_nil, if_true,
        List.replicate_eq_nil_iff, Int.toNat_eq_zero, true_and]
  | cons line rest => exact iff_of_false (by simp [withLines]) (by simp)

/-- A built unit has source lines exactly if a line ends in its text, or if its last function calls
for placeholders. -/
theorem sourceLines_eq_nil_iff_of_build {context : BuildContext} {source : UnitSource}
    {unit : CompilationUnit} (built : (context.build source).outcome = .ok unit) :
    unit.sourceLines = [] ↔ ¬ unit.HasTextLine ∧ unit.placeholderCount ≤ 0 := by
  obtain ⟨top, headed, -, described, rfl⟩ := BuildContext.stages_of_build built
  have kept := standing_stages context source top.children.items headed.1 headed.2
  obtain ⟨-, sameText⟩ := Prod.mk.inj (Prod.mk.inj kept).2
  rw [HasTextLine, sameText, ← HasTextLine, placeholderCount_resolvedUnit,
    placeholderCount_bindLines, ← lines_eq_nil_iff_of_header described,
    ← sourceLines_withLines_eq_nil_iff, ← sourceLines_bindLines]
  rfl

end CompilationUnit

namespace Database

/-- The lists about the rows of a unit run in parallel: each line comes with its index, the
number of the line less one, and with one text, and there are as many as are counted. -/
structure RowListsParallel (database : Database) (index : Int) : Prop where
  indices : database.rowIndices? index = (database.rowLines? index).map (List.map (· - 1))
  texts : (database.lineTexts? index true).map List.length =
    (database.rowLines? index).map List.length
  count : database.lineCount index true =
    ((database.rowLines? index).map List.length).getD 0

section OneUnit

variable {database : Database} {index : Int} {unit : CompilationUnit}

theorem rowListsParallel_of_unknown (unknown : database.unit? index = none) :
    database.RowListsParallel index := by
  constructor <;> simp only [rowIndices?, rowLines?, lineCount, lineTexts?, unknown] <;> rfl

theorem rowListsParallel_of_listing (found : database.unit? index = some unit)
    (listed : unit.listing = CompilationUnit.rowListing unit.rows) :
    database.RowListsParallel index := by
  obtain ⟨indices, texts⟩ := Prod.mk.inj listed
  constructor
  · simp only [rowIndices?, rowLines?, found, Option.map_some, indices, List.map_map]
    rfl
  · simp only [lineTexts?, rowLines?, found, Option.map_some, if_true, texts, List.length_map]
  · simp only [lineCount, lineTexts?, rowLines?, found, Option.map_some, if_true, texts,
      List.length_map]

theorem rowLists_of_unlisted (found : database.unit? index = some unit)
    (unlisted : unit.listing = ([], [])) :
    database.rowIndices? index = some [] ∧ database.lineTexts? index true = some [] ∧
      database.lineCount index true = 0 := by
  obtain ⟨noIndices, noTexts⟩ := Prod.mk.inj unlisted
  refine ⟨?_, ?_, ?_⟩
  · rw [rowIndices?, found, Option.map_some, noIndices]
  · simp only [lineTexts?, found, Option.map_some, if_true, noTexts]
  · simp only [lineCount, lineTexts?, found, Option.map_some, if_true, noTexts]
    rfl

/-- Without anything listed the lists are parallel to those of no rows only. -/
theorem rows_eq_nil_of_rowListsParallel (found : database.unit? index = some unit)
    (unlisted : unit.listing = ([], [])) (parallel : database.RowListsParallel index) :
    unit.rows = [] := by
  have indices := parallel.indices
  rw [(rowLists_of_unlisted found unlisted).1, rowLines?, found] at indices
  exact List.map_eq_nil_iff.mp (List.map_eq_nil_iff.mp (Option.some.inj indices).symm)

/-- The lists about the rows of a unit run in parallel exactly if it has source lines or no
rows. -/
theorem rowListsParallel_iff_of_listing (found : database.unit? index = some unit)
    (listed : unit.listing =
      if unit.sourceLines.isEmpty then ([], []) else CompilationUnit.rowListing unit.rows) :
    database.RowListsParallel index ↔ (unit.rows ≠ [] → unit.sourceLines ≠ []) := by
  by_cases unlined : unit.sourceLines = []
  case pos =>
    rw [unlined, List.isEmpty_nil, if_pos rfl] at listed
    constructor
    · intro parallel someRows
      exact absurd (rows_eq_nil_of_rowListsParallel found listed parallel) someRows
    · intro lined
      have noRows : unit.rows = [] := Decidable.by_contra fun someRows => lined someRows unlined
      refine rowListsParallel_of_listing found ?_
      rw [listed, noRows]
      rfl
  case neg =>
    rw [List.isEmpty_eq_false_iff.mpr unlined] at listed
    exact iff_of_true (rowListsParallel_of_listing found listed) fun _ => unlined

end OneUnit

/-- In a built database, whatever codecs there are, the lists about the rows of a unit run in
parallel exactly if the unit has no rows, or a source text in which a line ends, or placeholders for
its lines; else there are no indices and no texts.  The lists of an unknown unit are missing
alike. -/
theorem rowListsParallel_iff_of_ingest {context : BuildContext} {source : Feed UnitSource}
    {elapsed : String} {database : Database}
    (ingested : (ingest context source elapsed).outcome = .ok database) (index : Int) :
    (database.RowListsParallel index ↔
        ∀ unit, database.unit? index = some unit → unit.rows ≠ [] →
          unit.HasTextLine ∨ 0 < unit.placeholderCount) ∧
      (¬ database.RowListsParallel index →
        database.rowIndices? index = some [] ∧ database.lineTexts? index true = some [] ∧
          database.lineCount index true = 0) := by
  cases found : database.unit? index with
  | none =>
      have parallel := rowListsParallel_of_unknown found
      refine ⟨iff_of_true parallel ?_, absurd parallel⟩
      intro unit known
      cases known
  | some unit =>
      obtain ⟨item, -, built⟩ := exists_build_of_ingest ingested (mem_units_of_unit? found)
      have listed := CompilationUnit.listing_of_build built
      have lined : unit.sourceLines ≠ [] ↔
          unit.HasTextLine ∨ 0 < unit.placeholderCount := by
        have unlined_iff := CompilationUnit.sourceLines_eq_nil_iff_of_build built
        rw [Ne, unlined_iff, Decidable.not_and_iff_not_or_not, Decidable.not_not, Int.not_le]
      have parallel_iff := rowListsParallel_iff_of_listing found listed
      simp only [Option.some.injEq, forall_eq', ← lined]
      refine ⟨parallel_iff, ?_⟩
      intro apart
      have unlined : unit.sourceLines = [] :=
        Decidable.by_contra fun someLines => apart (parallel_iff.mpr fun _ => someLines)
      rw [unlined, List.isEmpty_nil, if_pos rfl] at listed
      exact rowLists_of_unlisted found listed

theorem rowListsParallel_sourcedUnit :
    (ingest sourcedContext ⟨[sourcedSource], none⟩ "0.000s").outcome =
        .ok (ofUnits [sourcedUnit]) ∧
      (ofUnits [sourcedUnit]).RowListsParallel 0 := by
  refine ⟨ingest_sourcedSource, (rowListsParallel_iff_of_ingest ingest_sourcedSource 0).1.mpr ?_⟩
  intro unit found _
  obtain rfl := Option.some.inj found
  exact Or.inl (by decide)

/-- A unit without a source file and without functions has two rows, but neither indices nor
texts for them. -/
theorem not_rowListsParallel_unlinedUnit :
    (ingest { files := {}, settings := {} } ⟨[unlinedSource], none⟩ "0.000s").outcome =
        .ok (ofUnits [unlinedUnit]) ∧
      ¬ (ofUnits [unlinedUnit]).RowListsParallel 0 ∧
        (ofUnits [unlinedUnit]).rowLines? 0 = some [1, 2] ∧
          (ofUnits [unlinedUnit]).rowIndices? 0 = some [] ∧
            (ofUnits [unlinedUnit]).lineTexts? 0 true = some [] ∧
              (ofUnits [unlinedUnit]).lineCount 0 true = 0 := by
  have built : (BuildContext.build { files := {}, settings := {} } unlinedSource).outcome =
      .ok unlinedUnit := rfl
  have counted : ¬ (ofUnits [unlinedUnit]).RowListsParallel 0 := fun parallel =>
    absurd parallel.count (by decide)
  refine ⟨outcome_ingest_eq_ok_iff.mpr ⟨rfl, [unlinedUnit], rfl, ?_⟩, counted, rfl, rfl, rfl, rfl⟩
  rw [Report.outcome_each_eq_ok_iff, List.map_singleton, List.map_singleton,
    outcome_buildUnit_eq_ok_iff.mpr built]

end Database
end DebugIndex
