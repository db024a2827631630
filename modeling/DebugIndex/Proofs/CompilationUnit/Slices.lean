import DebugIndex.Proofs.CompilationUnit.RangeIndex
import DebugIndex.Proofs.CompilationUnit.Stages
import DebugIndex.Proofs.LineRow.Nearest

/-!
# Slices of the line table

Every function of a built unit holds exactly the rows of the unit's line table that
lie between its two addresses, both included, with the texts that the rows have there;
and the ranges of a built unit are an index of its functions.  Each stage of the build
keeps both.
-/

namespace DebugIndex

namespace Extraction

/-! ## Looking up rows in a slice -/

@[simp]
theorem mem_slice {rows : List LineRow} {low high : Int} {row : LineRow} :
    row ∈ slice rows low high ↔ row ∈ rows ∧ low ≤ row.address ∧ row.address ≤ high := by
  simp [slice]

theorem ascending_slice {rows : List LineRow} (ascending : LineRow.Ascending rows)
    (low high : Int) : LineRow.Ascending (slice rows low high) :=
  List.Pairwise.filter _ ascending

theorem exactlyAt?_slice (rows : List LineRow) {low high address : Int}
    (spans : low ≤ address ∧ address ≤ high) :
    LineRow.exactlyAt? (slice rows low high) address = LineRow.exactlyAt? rows address := by
  rw [LineRow.exactlyAt?, slice, List.find?_filter, LineRow.exactlyAt?]
  congr 1
  funext row
  by_cases atAddress : row.address = address
  · simp [atAddress, spans]
  · simp [atAddress]

theorem lastBefore?_slice (rows : List LineRow) {low high address : Int}
    (below : address ≤ high) :
    LineRow.lastBefore? (slice rows low high) address =
      LineRow.lastBetween? rows low address := by
  rw [LineRow.lastBefore?, slice, List.filter_filter, LineRow.lastBetween?]
  congr 2
  funext row
  rw [← Bool.decide_and, decide_eq_decide]
  omega

end Extraction

namespace CompilationUnit

open Extraction

/-- Every function holds the part of the line table between its addresses. -/
def Sliced (unit : CompilationUnit) : Prop :=
  ∀ subprogram ∈ unit.subprograms,
    subprogram.rows = slice unit.rows subprogram.low subprogram.high

def FitsRows (rows : List LineRow) : Contribution → Prop
  | .subprogram subprogram => subprogram.rows = slice rows subprogram.low subprogram.high
  | _ => True

/-! ## Reading the entries -/

theorem Indexed.contribute {unit : CompilationUnit} (indexed : unit.Indexed)
    (contribution : Contribution) : (contribute unit contribution).Indexed := by
  cases contribution with
  | nothing | dropped | global | type => exact indexed
  | subprogram subprogram =>
      exact indexed.addSubprogramWith CodeRange.keepsSorted_insert subprogram

@[simp]
theorem rows_contribute (unit : CompilationUnit) (contribution : Contribution) :
    (contribute unit contribution).rows = unit.rows := by
  cases contribution <;> rfl

theorem Sliced.contribute {unit : CompilationUnit} (sliced : unit.Sliced)
    {contribution : Contribution} (fits : FitsRows unit.rows contribution) :
    (contribute unit contribution).Sliced := by
  cases contribution with
  | nothing | dropped | global | type => exact sliced
  | subprogram added =>
      intro subprogram member
      rcases List.mem_append.mp member with before | last
      · exact sliced subprogram before
      · obtain rfl := List.mem_singleton.mp last
        exact fits

theorem fitsRows_of_outcomeOf {byteOrder : Option ByteOrder} {unitOffset : Int}
    {rows : List LineRow} {entry : Entry} {contribution : Contribution}
    (read : (outcomeOf byteOrder unitOffset rows entry).contribution = .ok contribution) :
    FitsRows rows contribution := by
  simp only [outcomeOf] at read
  split at read
  · simp only [globalOf] at read
    cases address : staticAddress byteOrder (locationOf entry) with
    | error reason =>
        rw [address] at read
        cases read
    | ok place =>
        rw [address] at read
        obtain rfl := Except.ok.inj read
        simp only
        split <;> trivial
  · split at read
    · simp only [typeOf] at read
      split at read
      · split at read
        · cases read
        · obtain rfl := Except.ok.inj read
          trivial
      · obtain rfl := Except.ok.inj read
        trivial
    · split at read
      · simp only [subprogramOf] at read
        split at read
        · cases read
        · obtain rfl := Except.ok.inj read
          exact rfl
      · obtain rfl := Except.ok.inj read
        trivial

theorem rows_absorb (byteOrder : Option ByteOrder) (unit : CompilationUnit) (entry : Entry) :
    (BuildContext.absorb byteOrder unit entry).rows = unit.rows := by
  simp only [BuildContext.absorb]
  split
  · exact rows_contribute _ _
  · rfl

theorem rows_foldl_absorb (byteOrder : Option ByteOrder) (entries : List Entry)
    (unit : CompilationUnit) :
    (entries.foldl (BuildContext.absorb byteOrder) unit).rows = unit.rows := by
  induction entries generalizing unit with
  | nil => rfl
  | cons entry rest ih => rw [List.foldl_cons, ih, rows_absorb]

theorem Indexed.absorb {unit : CompilationUnit} (indexed : unit.Indexed)
    (byteOrder : Option ByteOrder) (entry : Entry) :
    (BuildContext.absorb byteOrder unit entry).Indexed := by
  have counted (frames : Nat) : Indexed { unit with frameCount := unit.frameCount + frames } :=
    indexed
  simp only [BuildContext.absorb]
  split
  · exact (counted _).contribute _
  · exact counted _

theorem Sliced.absorb {unit : CompilationUnit} (sliced : unit.Sliced)
    (byteOrder : Option ByteOrder) (entry : Entry) :
    (BuildContext.absorb byteOrder unit entry).Sliced := by
  have counted (frames : Nat) : Sliced { unit with frameCount := unit.frameCount + frames } :=
    sliced
  simp only [BuildContext.absorb]
  split
  case h_1 contributed => exact (counted _).contribute (fitsRows_of_outcomeOf contributed)
  case h_2 => exact counted _

theorem Indexed.foldl_absorb {unit : CompilationUnit} (indexed : unit.Indexed)
    (byteOrder : Option ByteOrder) (entries : List Entry) :
    (entries.foldl (BuildContext.absorb byteOrder) unit).Indexed := by
  induction entries generalizing unit with
  | nil => exact indexed
  | cons entry rest ih => exact ih (indexed.absorb byteOrder entry)

theorem Sliced.foldl_absorb {unit : CompilationUnit} (sliced : unit.Sliced)
    (byteOrder : Option ByteOrder) (entries : List Entry) :
    (entries.foldl (BuildContext.absorb byteOrder) unit).Sliced := by
  induction entries generalizing unit with
  | nil => exact sliced
  | cons entry rest ih => exact ih (sliced.absorb byteOrder entry)

/-! ## Binding the lines -/

theorem slice_map_textRow (unit : CompilationUnit) (rows : List LineRow) (low high : Int) :
    slice (rows.map unit.textRow) low high = (slice rows low high).map unit.textRow := by
  rw [slice, List.filter_map]
  rfl

theorem lineText?_of_untexted {unit : CompilationUnit}
    (untexted : ∀ line ∈ unit.sourceLines, line = none) (line : Int) :
    unit.lineText? line = none := by
  rw [lineText?]
  cases found : nth? unit.sourceLines line with
  | none => rfl
  | some text =>
      simp only [nth?] at found
      split at found
      · cases found
      · exact untexted text (List.mem_of_getElem? found)

theorem textRow_eq_self {unit : CompilationUnit} (untexted : ∀ line ∈ unit.sourceLines, line = none)
    {row : LineRow} (blank : row.text = none) : unit.textRow row = row := by
  simp only [textRow, lineText?_of_untexted untexted row.line, ← blank]

/-- What does not look at the range of a unit looks the same if the rows give the range. -/
theorem field_withRowRange {α : Type} {field : CompilationUnit → α}
    (ignores : ∀ (unit : CompilationUnit) (low high : Int),
      field { unit with low := low, high := high } = field unit)
    (unit : CompilationUnit) : field unit.withRowRange = field unit := by
  simp only [withRowRange]
  split
  · exact ignores unit _ _
  · rfl

/-- What looks the same with lines, with texts of rows and with any range looks the same once
lines are bound. -/
theorem field_bindLines {α : Type} {field : CompilationUnit → α}
    (lined : ∀ (unit : CompilationUnit) (lines : List String),
      field (unit.withLines lines) = field unit)
    (texted : ∀ unit : CompilationUnit, field unit.withRowTexts = field unit)
    (ignores : ∀ (unit : CompilationUnit) (low high : Int),
      field { unit with low := low, high := high } = field unit)
    (unit : CompilationUnit) (lines : List String) :
    field (unit.bindLines lines) = field unit := by
  simp only [bindLines]
  split
  · exact lined unit lines
  · rw [field_withRowRange ignores, texted, lined]

theorem subprograms_withRowRange (unit : CompilationUnit) :
    unit.withRowRange.subprograms = unit.subprograms :=
  field_withRowRange (fun _ _ _ => rfl) unit

theorem ranges_withRowRange (unit : CompilationUnit) :
    unit.withRowRange.ranges = unit.ranges :=
  field_withRowRange (fun _ _ _ => rfl) unit

theorem rows_withRowRange (unit : CompilationUnit) : unit.withRowRange.rows = unit.rows :=
  field_withRowRange (fun _ _ _ => rfl) unit

theorem Indexed.withLines {unit : CompilationUnit} (indexed : unit.Indexed)
    (lines : List String) : (unit.withLines lines).Indexed := by
  simp only [CompilationUnit.withLines]
  split
  · exact indexed
  · exact indexed.map fun _ _ => rfl

theorem Indexed.bindLines {unit : CompilationUnit} (indexed : unit.Indexed)
    (lines : List String) : (unit.bindLines lines).Indexed := by
  have linedIndexed := indexed.withLines lines
  simp only [CompilationUnit.bindLines]
  split
  · exact linedIndexed
  · rw [Indexed, subprograms_withRowRange, ranges_withRowRange]
    exact linedIndexed

theorem map_textRow_eq_self {unit : CompilationUnit}
    (untexted : ∀ line ∈ unit.sourceLines, line = none) {rows : List LineRow}
    (blank : ∀ row ∈ rows, row.text = none) : rows.map unit.textRow = rows := by
  have unchanged : ∀ row ∈ rows, unit.textRow row = id row := fun row member =>
    textRow_eq_self untexted (blank row member)
  rw [List.map_congr_left unchanged, List.map_id]

theorem untexted_withLines_nil (unit : CompilationUnit) :
    ∀ line ∈ (unit.withLines []).sourceLines, line = none :=
  fun _ placeholder => List.eq_of_mem_replicate placeholder

/-- With its source lines a unit's functions hold the rows that the line table is
about to have. -/
theorem rows_of_mem_withLines {unit : CompilationUnit} (sliced : unit.Sliced)
    (blank : ∀ row ∈ unit.rows, row.text = none) {lines : List String}
    {subprogram : Subprogram} (member : subprogram ∈ (unit.withLines lines).subprograms) :
    subprogram.rows =
      slice (unit.rows.map (unit.withLines lines).textRow) subprogram.low subprogram.high := by
  cases lines with
  | nil =>
      rw [map_textRow_eq_self (untexted_withLines_nil unit) blank]
      exact sliced subprogram member
  | cons line lines =>
      obtain ⟨original, originalMember, rfl⟩ := List.mem_map.mp member
      rw [slice_map_textRow]
      exact congrArg (List.map (unit.withLines (line :: lines)).textRow)
        (sliced original originalMember)

theorem rows_withLines (unit : CompilationUnit) (lines : List String) :
    (unit.withLines lines).rows = unit.rows := by
  simp only [withLines]
  split <;> rfl

/-- Binding lines gives the rows of the functions the same texts as the rows of the
line table. -/
theorem Sliced.bindLines {unit : CompilationUnit} (sliced : unit.Sliced)
    (blank : ∀ row ∈ unit.rows, row.text = none) (lines : List String) :
    (unit.bindLines lines).Sliced := by
  have functionRows : ∀ subprogram ∈ (unit.withLines lines).subprograms, subprogram.rows =
      slice (unit.rows.map (unit.withLines lines).textRow) subprogram.low subprogram.high :=
    fun _ member => rows_of_mem_withLines sliced blank member
  simp only [CompilationUnit.bindLines, rows_withLines]
  split
  case isTrue stops =>
    have noTexts : unit.rows.map (unit.withLines lines).textRow = unit.rows := by
      rw [Bool.or_eq_true, List.isEmpty_iff, List.isEmpty_iff] at stops
      rcases stops with noRows | noLines
      · rw [noRows, List.map_nil]
      · exact map_textRow_eq_self (by simp [noLines]) blank
    rw [noTexts] at functionRows
    rw [Sliced, rows_withLines]
    exact functionRows
  case isFalse =>
    rw [Sliced, subprograms_withRowRange, rows_withRowRange]
    simp only [withRowTexts, rows_withLines]
    exact functionRows

/-! ## Built units -/

/-- What does not look at the rows of a unit looks the same with its line table. -/
theorem field_withTable {α : Type} {field : CompilationUnit → α}
    (ignores : ∀ (unit : CompilationUnit) (rows : List LineRow),
      field { unit with rows := rows } = field unit)
    (source : UnitSource) (unit : CompilationUnit) :
    field (BuildContext.withTable source unit) = field unit := by
  simp only [BuildContext.withTable]
  split
  · exact ignores unit _
  · rfl

theorem subprograms_withTable (source : UnitSource) (unit : CompilationUnit) :
    (BuildContext.withTable source unit).subprograms = unit.subprograms :=
  field_withTable (fun _ _ => rfl) source unit

theorem ranges_withTable (source : UnitSource) (unit : CompilationUnit) :
    (BuildContext.withTable source unit).ranges = unit.ranges :=
  field_withTable (fun _ _ => rfl) source unit

theorem blank_of_mem_withTable {source : UnitSource} {unit : CompilationUnit}
    (noRows : unit.rows = []) {row : LineRow}
    (member : row ∈ (BuildContext.withTable source unit).rows) : row.text = none := by
  simp only [BuildContext.withTable] at member
  split at member
  · obtain ⟨pair, -, rfl⟩ := List.mem_map.mp member
    rfl
  · rw [noRows] at member
    cases member

theorem indexed_of_build {context : BuildContext} {source : UnitSource}
    {unit : CompilationUnit} (built : (context.build source).outcome = .ok unit) :
    unit.Indexed := by
  obtain ⟨top, headed, -, described, rfl⟩ := BuildContext.stages_of_build built
  have bare := BuildContext.isBare_of_header described
  have tabled : (BuildContext.withTable source headed.1).Indexed := by
    rw [Indexed, subprograms_withTable, ranges_withTable, bare.subprograms, bare.ranges]
    exact IndexesFunctions.nil
  have filled := tabled.foldl_absorb source.byteOrder top.children.items
  exact (filled.bindLines headed.2).map fun _ _ => rfl

/-- The functions of a built unit hold the rows of its line table between their
addresses. -/
theorem sliced_of_build {context : BuildContext} {source : UnitSource}
    {unit : CompilationUnit} (built : (context.build source).outcome = .ok unit) :
    unit.Sliced := by
  obtain ⟨top, headed, -, described, rfl⟩ := BuildContext.stages_of_build built
  have bare := BuildContext.isBare_of_header described
  have tabled : (BuildContext.withTable source headed.1).Sliced := by
    simp [Sliced, subprograms_withTable, bare.subprograms]
  have filled := tabled.foldl_absorb source.byteOrder top.children.items
  have blank : ∀ row ∈ (top.children.items.foldl (BuildContext.absorb source.byteOrder)
      (BuildContext.withTable source headed.1)).rows, row.text = none := by
    rw [rows_foldl_absorb]
    exact fun _ member => blank_of_mem_withTable bare.rows member
  have lined := filled.bindLines blank headed.2
  intro subprogram member
  obtain ⟨original, originalMember, rfl⟩ := List.mem_map.mp member
  exact lined original originalMember

end CompilationUnit
end DebugIndex
