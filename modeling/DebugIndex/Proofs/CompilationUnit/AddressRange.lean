import DebugIndex.Proofs.CompilationUnit.Contributions

/-!
# Where the range of a unit comes from

A unit keeps the range that it gives for itself unless that range says nothing.  Then it
reaches from its first row to its last one, provided that it has rows and source lines at
all.  So the line table, and with it the source file, has a say in the range of those units
only that give none for themselves.
-/

namespace DebugIndex

namespace LineRow

def span? (rows : List LineRow) : Option (Int × Int) :=
  rows.head?.bind fun first => rows.getLast?.map fun last => (first.address, last.address)

theorem span?_eq_some_iff {rows : List LineRow} {low high : Int} :
    span? rows = some (low, high) ↔
      ∃ first last, rows.head? = some first ∧ rows.getLast? = some last ∧
        first.address = low ∧ last.address = high := by
  simp only [span?, Option.bind_eq_some_iff, Option.map_eq_some_iff, Prod.mk.injEq]
  constructor
  · rintro ⟨first, begins, last, ends, bounds⟩
    exact ⟨first, last, begins, ends, bounds⟩
  · rintro ⟨first, last, begins, ends, bounds⟩
    exact ⟨first, begins, last, ends, bounds⟩

/-- Rows span the same addresses after a change that leaves addresses alone. -/
theorem span?_map (change : LineRow → LineRow)
    (keeps : ∀ row, (change row).address = row.address) (rows : List LineRow) :
    span? (rows.map change) = span? rows := by
  rw [span?, span?, List.head?_map, List.getLast?_map]
  cases rows.head? with
  | none => rfl
  | some first =>
      cases rows.getLast? with
      | none => rfl
      | some last => simp only [Option.map_some, Option.bind_some, keeps]

end LineRow

namespace UnitSource

/-- The range that a unit gives for itself.  It is read for whole compilation units only. -/
def ownRange (source : UnitSource) : Int × Int :=
  match source.top with
  | .ok top => if top.tag = .compileUnit then (top.addresses.1, top.addresses.2) else (0, 0)
  | .error _ => (0, 0)

/-- Whether the range that a unit gives for itself says nothing. -/
def isUnbounded (source : UnitSource) : Bool :=
  source.ownRange.1 = 0 && CompilationUnit.unboundedHighs.contains source.ownRange.2

end UnitSource

namespace CompilationUnit

def range (unit : CompilationUnit) : Int × Int :=
  (unit.low, unit.high)

/-- The range that the line table of a unit gives, if the unit has source lines. -/
def rowRange? (unit : CompilationUnit) : Option (Int × Int) :=
  if unit.sourceLines.isEmpty then none else LineRow.span? unit.rows

theorem range_withTable (source : UnitSource) (unit : CompilationUnit) :
    (BuildContext.withTable source unit).range = unit.range :=
  field_withTable (fun _ _ => rfl) source unit

@[simp]
theorem range_foldl_absorb (byteOrder : Option ByteOrder) (entries : List Entry)
    (unit : CompilationUnit) :
    (entries.foldl (BuildContext.absorb byteOrder) unit).range = unit.range := by
  refine BuildContext.kept_foldl_absorb ?_ (fun _ _ => rfl) byteOrder entries unit
  intro unit contribution
  cases contribution <;> rfl

theorem range_withLines (unit : CompilationUnit) (lines : List String) :
    (unit.withLines lines).range = unit.range := by
  simp only [withLines]
  split <;> rfl

theorem range_withRowRange (unit : CompilationUnit) :
    unit.withRowRange.range =
      if unit.isUnbounded then (LineRow.span? unit.rows).getD unit.range else unit.range := by
  simp only [withRowRange, LineRow.span?]
  cases unit.isUnbounded with
  | false => rfl
  | true =>
      cases unit.rows.head? with
      | none => rfl
      | some first => cases unit.rows.getLast? <;> rfl

theorem rowRange?_withRowRange (unit : CompilationUnit) :
    unit.withRowRange.rowRange? = unit.rowRange? :=
  field_withRowRange (fun _ _ _ => rfl) unit

theorem span?_withRowTexts (unit : CompilationUnit) :
    LineRow.span? unit.withRowTexts.rows = LineRow.span? unit.rows :=
  LineRow.span?_map unit.textRow (fun _ => rfl) unit.rows

theorem rowRange?_withRowTexts (unit : CompilationUnit) :
    unit.withRowTexts.rowRange? = unit.rowRange? := by
  rw [rowRange?, span?_withRowTexts]
  rfl

theorem isUnbounded_eq_of_range_eq {unit other : CompilationUnit}
    (same : unit.range = other.range) : unit.isUnbounded = other.isUnbounded := by
  obtain ⟨sameLow, sameHigh⟩ := Prod.mk.inj same
  rw [isUnbounded, sameLow, sameHigh, isUnbounded]

/-- Binding lines gives a unit the range of its line table if it has none that says
anything. -/
theorem range_bindLines (unit : CompilationUnit) (lines : List String) :
    (unit.bindLines lines).range =
      if unit.isUnbounded then (unit.bindLines lines).rowRange?.getD unit.range
      else unit.range := by
  have sameRange : (unit.withLines lines).range = unit.range := range_withLines unit lines
  by_cases stops : ((unit.withLines lines).rows.isEmpty ||
      (unit.withLines lines).sourceLines.isEmpty) = true
  · have noRowRange : (unit.withLines lines).rowRange? = none := by
      rw [Bool.or_eq_true, List.isEmpty_iff] at stops
      rcases stops with noRows | noLines
      · simp only [rowRange?, noRows, LineRow.span?, List.head?_nil, Option.bind_none, ite_self]
      · simp only [rowRange?, noLines, if_true]
    simp only [bindLines, stops, if_true, noRowRange, sameRange, Option.getD_none, ite_self]
  · have lined : unit.bindLines lines = (unit.withLines lines).withRowTexts.withRowRange := by
      simp only [bindLines, stops, Bool.false_eq_true, if_false]
    have someLines : (unit.withLines lines).sourceLines.isEmpty = false := by
      simp only [Bool.or_eq_true, not_or, Bool.not_eq_true] at stops
      exact stops.2
    have spanned : LineRow.span? (unit.withLines lines).withRowTexts.rows =
        (unit.withLines lines).rowRange? := by
      rw [span?_withRowTexts, rowRange?, someLines]
      rfl
    have textedRange : (unit.withLines lines).withRowTexts.range = unit.range := sameRange
    have textedBounds : (unit.withLines lines).withRowTexts.isUnbounded = unit.isUnbounded :=
      isUnbounded_eq_of_range_eq textedRange
    rw [lined, range_withRowRange, rowRange?_withRowRange, rowRange?_withRowTexts, spanned,
      textedRange, textedBounds]

theorem range_of_header {context : BuildContext} {source : UnitSource} {top : Entry}
    (fetched : source.top = .ok top) {headed : CompilationUnit × List String}
    (described : (context.header source top).outcome = .ok headed) :
    headed.1.range = source.ownRange := by
  simp only [BuildContext.header] at described
  simp only [UnitSource.ownRange, fetched]
  split at described
  case isTrue whole =>
    obtain ⟨status, text, headed_eq⟩ := BuildContext.eq_of_loadSource described
    rw [headed_eq, if_pos whole]
    rfl
  case isFalse partly =>
    obtain rfl := Except.ok.inj described
    rw [if_neg partly]
    rfl

/-- A built unit has the range that it gives for itself or, if that says nothing, the one
of its line table, as far as there is one. -/
theorem range_of_build {context : BuildContext} {source : UnitSource} {unit : CompilationUnit}
    (built : (context.build source).outcome = .ok unit) :
    unit.range =
      if source.isUnbounded then unit.rowRange?.getD source.ownRange else source.ownRange := by
  obtain ⟨top, headed, fetched, described, rfl⟩ := BuildContext.stages_of_build built
  have filledRange : (top.children.items.foldl (BuildContext.absorb source.byteOrder)
      (BuildContext.withTable source headed.1)).range = source.ownRange := by
    rw [range_foldl_absorb, range_withTable, range_of_header fetched described]
  have filledBounds : (top.children.items.foldl (BuildContext.absorb source.byteOrder)
      (BuildContext.withTable source headed.1)).isUnbounded = source.isUnbounded := by
    rw [UnitSource.isUnbounded, ← filledRange]
    rfl
  have lined := range_bindLines (top.children.items.foldl (BuildContext.absorb source.byteOrder)
    (BuildContext.withTable source headed.1)) headed.2
  rw [filledRange, filledBounds] at lined
  exact lined

/-- A unit that gives a range for itself has that range, whatever its line table. -/
theorem range_of_build_of_bounded {context : BuildContext} {source : UnitSource}
    {unit : CompilationUnit} (built : (context.build source).outcome = .ok unit)
    (bounded : source.isUnbounded = false) : unit.range = source.ownRange := by
  rw [range_of_build built, bounded]
  rfl

theorem contains_eq_of_range (unit : CompilationUnit) {low high : Int}
    (ranged : unit.range = (low, high)) (address : Int) :
    unit.contains address = (low ≤ address && address < high) := by
  obtain ⟨rfl, rfl⟩ := Prod.mk.inj ranged
  rfl

end CompilationUnit
end DebugIndex
