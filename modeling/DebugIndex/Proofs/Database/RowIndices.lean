import DebugIndex.Proofs.Database.UnusableSources

/-!
# Rows and source lines

The rows that are listed for a unit come with the indices of their lines among the source
lines, and with the texts of these lines.  An index is the number of the line less one, and
nothing ties the numbers in a line table to the lines of a source file or to placeholders
for them: a row can have line zero, or a line behind the last one.  The index of such a row
is no index of a source line, and its text is missing.  For all other rows the source line
at the index of the row has the text of the row.
-/

namespace DebugIndex

namespace CompilationUnit

/-- What a unit lists for its rows once there are source lines: the index of each row's
line, and its text. -/
def rowListing (rows : List LineRow) : List Int × List (Option String) :=
  (rows.map fun row => row.line - 1, rows.map LineRow.text)

theorem listing_withLines (unit : CompilationUnit) (lines : List String) :
    (unit.withLines lines).listing = unit.listing := by
  simp only [withLines]
  split <;> rfl

theorem listing_withRowRange (unit : CompilationUnit) :
    unit.withRowRange.listing = unit.listing :=
  field_withRowRange (fun _ _ _ => rfl) unit

theorem sourceLines_withRowRange (unit : CompilationUnit) :
    unit.withRowRange.sourceLines = unit.sourceLines :=
  field_withRowRange (fun _ _ _ => rfl) unit

/-- Binding lines lists all rows if there are source lines then, and none otherwise. -/
theorem listing_bindLines {unit : CompilationUnit} (unlisted : unit.listing = ([], []))
    (lines : List String) :
    (unit.bindLines lines).listing =
      if (unit.bindLines lines).sourceLines.isEmpty then ([], [])
      else rowListing (unit.bindLines lines).rows := by
  have blank : (unit.withLines lines).listing = ([], []) := by
    rw [listing_withLines, unlisted]
  simp only [bindLines]
  split
  case isTrue stops =>
    rw [blank]
    rw [Bool.or_eq_true, List.isEmpty_iff] at stops
    rcases stops with noRows | noLines
    · rw [noRows]
      exact (ite_self _).symm
    · rw [noLines, if_pos rfl]
  case isFalse goesOn =>
    rw [Bool.or_eq_true, not_or, Bool.not_eq_true, Bool.not_eq_true] at goesOn
    rw [listing_withRowRange, sourceLines_withRowRange, rows_withRowRange]
    have lined : (unit.withLines lines).withRowTexts.sourceLines.isEmpty = false := goesOn.2
    rw [lined]
    rfl

/-- A built unit lists all its rows if it has source lines, and none otherwise. -/
theorem listing_of_build {context : BuildContext} {source : UnitSource} {unit : CompilationUnit}
    (built : (context.build source).outcome = .ok unit) :
    unit.listing = if unit.sourceLines.isEmpty then ([], []) else rowListing unit.rows := by
  obtain ⟨top, headed, -, described, rfl⟩ := BuildContext.stages_of_build built
  have unlisted : (top.children.items.foldl (BuildContext.absorb source.byteOrder)
      (BuildContext.withTable source headed.1)).listing = ([], []) := by
    calc
      _ = (BuildContext.withTable source headed.1).listing :=
        BuildContext.kept_foldl_absorb listing_contribute (fun _ _ => rfl) _ _ _
      _ = headed.1.listing := field_withTable (fun _ _ => rfl) source headed.1
      _ = ([], []) := (tag_and_listing_of_header described).2
  exact listing_bindLines unlisted headed.2

/-- The index of a line and the text that belongs to it, from the position of its row among
those that a unit lists. -/
theorem exists_row_of_rowIndices {context : BuildContext} {source : UnitSource}
    {unit : CompilationUnit} (built : (context.build source).outcome = .ok unit) {position : Nat}
    {index : Int} (placed : unit.rowIndices[position]? = some index) :
    ∃ row, unit.rows[position]? = some row ∧ index = row.line - 1 ∧
      unit.rowTexts[position]? = some (unit.lineText? row.line) := by
  have listed := listing_of_build built
  split at listed
  case isTrue =>
    obtain ⟨noIndices, -⟩ := Prod.mk.inj listed
    rw [noIndices] at placed
    cases placed
  case isFalse =>
    obtain ⟨indices, texts⟩ := Prod.mk.inj listed
    rw [indices, List.getElem?_map, Option.map_eq_some_iff] at placed
    obtain ⟨row, atPosition, rfl⟩ := placed
    have texted := (texted_of_build built).rows row (List.mem_of_getElem? atPosition)
    refine ⟨row, atPosition, rfl, ?_⟩
    rw [texts, List.getElem?_map, atPosition, Option.map_some, texted]

theorem lineText?_of_inside {unit : CompilationUnit} {line : Int}
    (inside : 1 ≤ line ∧ line ≤ unit.sourceLines.length) :
    unit.sourceLines[(line - 1).toNat]? = some (unit.lineText? line) := by
  have notBefore : ¬ line < 1 := by omega
  have within : (line - 1).toNat < unit.sourceLines.length := by omega
  rw [lineText?, nth?, if_neg notBefore, List.getElem?_eq_getElem within, Option.join_some]

theorem lineText?_of_outside {unit : CompilationUnit} {line : Int}
    (outside : ¬ (1 ≤ line ∧ line ≤ unit.sourceLines.length)) : unit.lineText? line = none := by
  have noLine : nth? unit.sourceLines line = none := nth?_eq_none_iff.mpr (by omega)
  rw [lineText?, noLine, Option.join_none]

end CompilationUnit

namespace Database

theorem mem_units_of_unit? {database : Database} {index : Int} {unit : CompilationUnit}
    (found : database.unit? index = some unit) : unit ∈ database.units := by
  rw [unit?, nth?] at found
  split at found
  · cases found
  · exact List.mem_of_getElem? found

/-- The index that a row of a built unit is listed with is the number of its line less one.
If the unit has a source line of this number, it stands at that index and its text is the
one that is listed with the row; and if not, the index is none of a source line, and no
text is listed with the row. -/
theorem rowIndex_of_ingest {context : BuildContext} {source : Feed UnitSource} {elapsed : String}
    {database : Database} (ingested : (ingest context source elapsed).outcome = .ok database)
    {unitIndex : Int} {position : Nat} {index : Int}
    (placed : (database.rowIndices? unitIndex).bind (·[position]?) = some index) :
    ∃ line, (database.rowLines? unitIndex).bind (·[position]?) = some line ∧ index = line - 1 ∧
      (1 ≤ line ∧ line ≤ database.lineCount unitIndex false →
        0 ≤ index ∧ index < database.lineCount unitIndex false ∧
          ∃ text, (database.lineTexts? unitIndex false).bind (·[index.toNat]?) = some text ∧
            (database.lineTexts? unitIndex true).bind (·[position]?) = some text) ∧
      (¬ (1 ≤ line ∧ line ≤ database.lineCount unitIndex false) →
        ¬ (0 ≤ index ∧ index < database.lineCount unitIndex false) ∧
          (database.lineTexts? unitIndex true).bind (·[position]?) = some none) := by
  obtain ⟨indices, listed, atPosition⟩ := Option.bind_eq_some_iff.mp placed
  obtain ⟨unit, found, rfl⟩ := Option.map_eq_some_iff.mp listed
  obtain ⟨item, -, built⟩ := exists_build_of_ingest ingested (mem_units_of_unit? found)
  obtain ⟨row, ofRow, rfl, text⟩ := CompilationUnit.exists_row_of_rowIndices built atPosition
  simp only [rowLines?, lineCount, lineTexts?, found, Option.map_some, Option.bind_some,
    Option.getD_some, if_true, Bool.false_eq_true, if_false, text, List.getElem?_map, ofRow]
  refine ⟨row.line, rfl, rfl, ?_, ?_⟩
  · intro inside
    exact ⟨by omega, by omega, _, CompilationUnit.lineText?_of_inside inside, rfl⟩
  · intro outside
    exact ⟨by omega, by rw [CompilationUnit.lineText?_of_outside outside]⟩

/-- The rows of a unit with three source lines have the lines 2, 3, 9 and 0. -/
theorem rowIndex_sourcedUnit :
    (ingest sourcedContext ⟨[sourcedSource], none⟩ "0.000s").outcome =
        .ok (ofUnits [sourcedUnit]) ∧
      ((ofUnits [sourcedUnit]).rowIndices? 0).bind (·[1]?) = some 2 ∧
        ((ofUnits [sourcedUnit]).lineTexts? 0 false).bind (·[2]?) = some (some "c") ∧
          ((ofUnits [sourcedUnit]).lineTexts? 0 true).bind (·[1]?) = some (some "c") ∧
            ((ofUnits [sourcedUnit]).lineTexts? 0 true).bind (·[2]?) = some none := by
  have lastLine : ((ofUnits [sourcedUnit]).rowIndices? 0).bind (·[1]?) = some 2 := rfl
  have pastAll : ((ofUnits [sourcedUnit]).rowIndices? 0).bind (·[2]?) = some 8 := rfl
  obtain ⟨line, ofRow, -, inside, -⟩ := rowIndex_of_ingest ingest_sourcedSource lastLine
  obtain rfl : 3 = line := Option.some.inj ofRow
  obtain ⟨-, -, text, atIndex, atPosition⟩ := inside (by decide)
  obtain rfl : some "c" = text := Option.some.inj atIndex
  obtain ⟨line, ofRow, -, -, outside⟩ := rowIndex_of_ingest ingest_sourcedSource pastAll
  obtain rfl : 9 = line := Option.some.inj ofRow
  exact ⟨ingest_sourcedSource, lastLine, atIndex, atPosition, (outside (by decide)).2⟩

/-- Two of the four indices are those of no source line: one is too high, and one negative. -/
theorem rowIndices?_outside :
    (ingest sourcedContext ⟨[sourcedSource], none⟩ "0.000s").outcome =
        .ok (ofUnits [sourcedUnit]) ∧
      (ofUnits [sourcedUnit]).lineCount 0 false = 3 ∧
        ((ofUnits [sourcedUnit]).rowIndices? 0).bind (·[2]?) = some 8 ∧
          ((ofUnits [sourcedUnit]).rowIndices? 0).bind (·[3]?) = some (-1) :=
  ⟨ingest_sourcedSource, rfl, rfl, rfl⟩

end Database
end DebugIndex
