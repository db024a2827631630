import DebugIndex.Proofs.CompilationUnit.AddressRange
import DebugIndex.Proofs.Database.LineLookup

/-!
# Rows within reach

A unit that takes its range from its line table ends at the address of its last row, and
ends are not part of a range.  So in an ascending line table exactly those rows are inside
the range of their unit that some other row comes after: the rows at the last address are
out of reach.  Without source lines the line table gives no range, and a row is in reach
only if the range that says nothing happens to hold it.
-/

namespace DebugIndex

namespace LineRow

theorem between_of_mem {rows : List LineRow} (ascending : Ascending rows) {low high : Int}
    (spanned : span? rows = some (low, high)) {row : LineRow} (member : row ∈ rows) :
    low ≤ row.address ∧ row.address ≤ high := by
  obtain ⟨first, last, begins, ends, rfl, rfl⟩ := span?_eq_some_iff.mp spanned
  constructor
  · obtain ⟨rest, rfl⟩ := List.head?_eq_some_iff.mp begins
    rcases List.mem_cons.mp member with rfl | inRest
    · exact Int.le_refl _
    · exact (List.pairwise_cons.mp ascending).1 row inRest
  · obtain ⟨front, rfl⟩ := List.getLast?_eq_some_iff.mp ends
    rcases List.mem_append.mp member with inFront | isLast
    · exact (List.pairwise_append.mp ascending).2.2 row inFront last List.mem_cons_self
    · obtain rfl := List.mem_singleton.mp isLast
      exact Int.le_refl _

/-- In ascending rows exactly those are before the last address that some row is past. -/
theorem lt_high_iff {rows : List LineRow} (ascending : Ascending rows) {low high : Int}
    (spanned : span? rows = some (low, high)) (address : Int) :
    address < high ↔ ∃ later ∈ rows, address < later.address := by
  constructor
  · intro before
    obtain ⟨first, last, -, ends, -, rfl⟩ := span?_eq_some_iff.mp spanned
    exact ⟨last, List.mem_of_getLast? ends, before⟩
  · rintro ⟨later, member, before⟩
    have := (between_of_mem ascending spanned member).2
    omega

theorem exists_span?_of_mem {rows : List LineRow} {row : LineRow} (member : row ∈ rows) :
    ∃ low high, span? rows = some (low, high) := by
  cases begins : rows.head? with
  | none =>
      rw [List.head?_eq_none_iff.mp begins] at member
      cases member
  | some first =>
      cases ends : rows.getLast? with
      | none =>
          rw [List.getLast?_eq_none_iff.mp ends] at member
          cases member
      | some last =>
          exact ⟨first.address, last.address,
            span?_eq_some_iff.mpr ⟨first, last, begins, ends, rfl, rfl⟩⟩

end LineRow

namespace CompilationUnit

variable {context : BuildContext} {source : UnitSource} {unit : CompilationUnit}

/-- With source lines the rows inside a unit that gives no range for itself are those that
some row is past. -/
theorem contains_iff_of_sourceLines (built : (context.build source).outcome = .ok unit)
    (unbounded : source.isUnbounded = true) (lined : unit.sourceLines ≠ [])
    (ascending : LineRow.Ascending unit.rows) {row : LineRow} (member : row ∈ unit.rows) :
    unit.contains row.address = true ↔ ∃ later ∈ unit.rows, row.address < later.address := by
  obtain ⟨low, high, spanned⟩ := LineRow.exists_span?_of_mem member
  have someLines : unit.sourceLines.isEmpty = false := List.isEmpty_eq_false_iff.mpr lined
  have ranged : unit.range = (low, high) := by
    rw [range_of_build built, unbounded, rowRange?, someLines, spanned]
    rfl
  have notBefore := (LineRow.between_of_mem ascending spanned member).1
  rw [contains_eq_of_range unit ranged, ← LineRow.lt_high_iff ascending spanned]
  simp only [Bool.and_eq_true, decide_eq_true_eq, notBefore, true_and]

theorem contains_iff_of_no_sourceLines (built : (context.build source).outcome = .ok unit)
    (unbounded : source.isUnbounded = true) (unlined : unit.sourceLines = []) (address : Int) :
    unit.contains address = true ↔ 0 ≤ address ∧ address < source.ownRange.2 := by
  have low_eq : source.ownRange.1 = 0 := by
    simp only [UnitSource.isUnbounded, Bool.and_eq_true, decide_eq_true_eq] at unbounded
    exact unbounded.1
  have ranged : unit.range = (0, source.ownRange.2) := by
    rw [range_of_build built, unbounded, rowRange?, unlined, ← low_eq]
    rfl
  rw [contains_eq_of_range unit ranged]
  simp only [Bool.and_eq_true, decide_eq_true_eq]

end CompilationUnit

namespace Database

theorem isSome_unitAt?_of_mem {database : Database} {unit : CompilationUnit}
    (member : unit ∈ database.units) {address : Int} (contained : unit.contains address = true) :
    (database.unitAt? address).isSome = true := by
  rw [unitAt?, List.find?_isSome]
  exact ⟨unit, member, contained⟩

/-- In a built unit that gives no range for itself, with its line table in ascending order,
exactly those rows are in reach that some row is past, and in every database that has the
unit they are found.  This takes source lines: without them exactly those rows are in reach
that the range holds which says nothing. -/
theorem contains_rowAddress_of_build {context : BuildContext} {source : UnitSource}
    {unit : CompilationUnit} (built : (context.build source).outcome = .ok unit)
    (unbounded : source.isUnbounded = true) (ascending : LineRow.Ascending unit.rows)
    {row : LineRow} (member : row ∈ unit.rows) :
    (unit.sourceLines ≠ [] →
      (unit.contains row.address = true ↔
          ∃ later ∈ unit.rows, row.address < later.address) ∧
        ∀ database : Database, unit ∈ database.units →
          (∃ later ∈ unit.rows, row.address < later.address) →
            (database.unitAt? row.address).isSome = true) ∧
      (unit.sourceLines = [] →
        (unit.contains row.address = true ↔
          0 ≤ row.address ∧ row.address < source.ownRange.2)) := by
  refine ⟨?_, ?_⟩
  · intro lined
    have reached :=
      CompilationUnit.contains_iff_of_sourceLines built unbounded lined ascending member
    refine ⟨reached, ?_⟩
    intro database listed before
    exact isSome_unitAt?_of_mem listed (reached.mpr before)
  · intro unlined
    exact CompilationUnit.contains_iff_of_no_sourceLines built unbounded unlined row.address

theorem contains_rowAddress_gappedUnit :
    (BuildContext.build { files := {}, settings := {} } gappedSource).outcome =
        .ok gappedUnit ∧
      gappedSource.isUnbounded = true ∧ LineRow.Ascending gappedUnit.rows ∧
        (⟨0x1014, 20, none⟩ : LineRow) ∈ gappedUnit.rows ∧ gappedUnit.sourceLines ≠ [] ∧
          gappedUnit.contains 0x1014 = true ∧
            ((ofUnits [gappedUnit]).unitAt? 0x1014).isSome = true := by
  have built : (BuildContext.build { files := {}, settings := {} } gappedSource).outcome =
      .ok gappedUnit := rfl
  have unbounded : gappedSource.isUnbounded = true := by decide
  have ascending : LineRow.Ascending gappedUnit.rows := by
    unfold LineRow.Ascending
    decide
  have member : (⟨0x1014, 20, none⟩ : LineRow) ∈ gappedUnit.rows := by decide
  have lined : gappedUnit.sourceLines ≠ [] := by decide
  have past : ∃ later ∈ gappedUnit.rows, (0x1014 : Int) < later.address :=
    ⟨⟨0x1020, 21, none⟩, by decide, by decide⟩
  have reached := (contains_rowAddress_of_build built unbounded ascending member).1 lined
  exact ⟨built, unbounded, ascending, member, lined, reached.1.mpr past,
    reached.2 (ofUnits [gappedUnit]) List.mem_cons_self past⟩

/-- A unit with rows but without a function that calls for source lines. -/
def unlinedSource : UnitSource where
  top := .ok { tag := .other none, offset := 11, attributes := [], children := ⟨[], none⟩ }
  rows := ⟨[(0x2000, 1), (0x2010, 2)], none⟩

/-- The unit as it is built: it is left without a range. -/
def unlinedUnit : CompilationUnit where
  rows := [⟨0x2000, 1, none⟩, ⟨0x2010, 2, none⟩]

/-- The last row of a unit is out of reach, and without source lines all of them are. -/
theorem not_contains_lastRow :
    ((BuildContext.build { files := {}, settings := {} } gappedSource).outcome =
        .ok gappedUnit ∧
      gappedSource.isUnbounded = true ∧ LineRow.Ascending gappedUnit.rows ∧
        (⟨0x1020, 21, none⟩ : LineRow) ∈ gappedUnit.rows ∧
          gappedUnit.contains 0x1020 = false ∧
            (ofUnits [gappedUnit]).unitAt? 0x1020 = none) ∧
      ((BuildContext.build { files := {}, settings := {} } unlinedSource).outcome =
          .ok unlinedUnit ∧
        unlinedSource.isUnbounded = true ∧ LineRow.Ascending unlinedUnit.rows ∧
          (⟨0x2000, 1, none⟩ : LineRow) ∈ unlinedUnit.rows ∧
            unlinedUnit.contains 0x2000 = false ∧
              (ofUnits [unlinedUnit]).unitAt? 0x2000 = none) := by
  refine ⟨⟨rfl, by decide, ?_, by decide, by decide, rfl⟩,
    ⟨rfl, by decide, ?_, by decide, by decide, rfl⟩⟩
  · unfold LineRow.Ascending
    decide
  · unfold LineRow.Ascending
    decide

end Database
end DebugIndex
