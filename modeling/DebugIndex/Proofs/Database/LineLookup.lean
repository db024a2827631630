import DebugIndex.Database.Query
import DebugIndex.Proofs.CompilationUnit.Slices
import DebugIndex.Proofs.Database.Ingestion

/-!
# Looking up lines

The line at an address is looked for in the slice of the function at the address, and
then in the whole line table of the unit.  In a built database both steps together
give the first row at the address, else the last row of the function before it, if the
line table is in ascending order.  In whatever order it is, the row that answers is
one of the unit's, and it is not past the address.
-/

namespace DebugIndex

namespace CompilationUnit

theorem mem_and_contains_of_subprogramAt? {unit : CompilationUnit} (indexed : unit.Indexed)
    {address : Int} {subprogram : Subprogram}
    (found : unit.subprogramAt? address = some subprogram) :
    subprogram ∈ unit.subprograms ∧ subprogram.low ≤ address ∧ address < subprogram.high := by
  rw [indexed.subprogramAt?_eq] at found
  have contained := List.find?_some found
  simp only [Subprogram.contains, Bool.and_eq_true, decide_eq_true_eq] at contained
  exact ⟨List.mem_of_find?_eq_some found, contained⟩

/-- In an ascending line table the row of a function at an address is the first one at
the address, else the last one of the function before it. -/
theorem rowAt?_of_ascending {unit : CompilationUnit} (sliced : unit.Sliced)
    (ascending : LineRow.Ascending unit.rows) {subprogram : Subprogram}
    (member : subprogram ∈ unit.subprograms) {address : Int}
    (inside : subprogram.low ≤ address ∧ address < subprogram.high) :
    subprogram.rowAt? address =
      (LineRow.exactlyAt? unit.rows address).or
        (LineRow.lastBetween? unit.rows subprogram.low address) := by
  have below : address ≤ subprogram.high := Int.le_of_lt inside.2
  rw [Subprogram.rowAt?, sliced subprogram member,
    LineRow.nearest?_eq (Extraction.ascending_slice ascending _ _),
    Extraction.exactlyAt?_slice unit.rows ⟨inside.1, below⟩,
    Extraction.lastBefore?_slice unit.rows below]

/-- The row of a function at an address is one of the unit's rows, not before the
function and not past the address. -/
theorem mem_of_rowAt? {unit : CompilationUnit} (sliced : unit.Sliced)
    {subprogram : Subprogram} (member : subprogram ∈ unit.subprograms) {address : Int}
    {row : LineRow} (found : subprogram.rowAt? address = some row) :
    row ∈ unit.rows ∧ subprogram.low ≤ row.address ∧ row.address ≤ address := by
  obtain ⟨inSlice, notPast⟩ := LineRow.mem_of_nearest? found
  rw [sliced subprogram member, Extraction.mem_slice] at inSlice
  exact ⟨inSlice.1, inSlice.2.1, notPast⟩

end CompilationUnit

namespace Database

section Lookup

variable {database : Database} {address : Int} {unit : CompilationUnit}

theorem subprogramAt?_of_unitAt? (owner : database.unitAt? address = some unit) :
    database.subprogramAt? address = unit.subprogramAt? address := by
  rw [Database.subprogramAt?, owner, Option.bind_some]

theorem lookUpLine?_of_some (owner : database.unitAt? address = some unit)
    {subprogram : Subprogram} (found : unit.subprogramAt? address = some subprogram) :
    database.lookUpLine? address none =
      ((subprogram.rowAt? address).or (unit.rowAt? address)).map rowAnswer := by
  rw [lookUpLine?, owner, Option.bind_some, found]
  cases answered : subprogram.rowAt? address <;> simp [answered]

theorem lookUpLine?_of_none (owner : database.unitAt? address = some unit)
    (found : unit.subprogramAt? address = none) :
    database.lookUpLine? address none = (unit.rowAt? address).map rowAnswer := by
  rw [lookUpLine?, owner, Option.bind_some, found]

theorem lineNumber_of_some (indexed : unit.Indexed) (sliced : unit.Sliced)
    (ascending : LineRow.Ascending unit.rows) (owner : database.unitAt? address = some unit)
    {subprogram : Subprogram} (found : unit.subprogramAt? address = some subprogram) :
    database.lineNumber address =
      (((LineRow.exactlyAt? unit.rows address).or
        (LineRow.lastBetween? unit.rows subprogram.low address)).map LineRow.line).getD 0 := by
  obtain ⟨member, inside⟩ := CompilationUnit.mem_and_contains_of_subprogramAt? indexed found
  rw [lineNumber, lookUpLine?_of_some owner found,
    CompilationUnit.rowAt?_of_ascending sliced ascending member inside, CompilationUnit.rowAt?]
  -- The look-up in the whole table adds nothing: its row would be in the slice too.
  cases LineRow.exactlyAt? unit.rows address <;>
    cases LineRow.lastBetween? unit.rows subprogram.low address <;> rfl

theorem lineNumber_of_none (owner : database.unitAt? address = some unit)
    (found : unit.subprogramAt? address = none) :
    database.lineNumber address =
      ((LineRow.exactlyAt? unit.rows address).map LineRow.line).getD 0 := by
  rw [lineNumber, lookUpLine?_of_none owner found, Option.map_map]
  rfl

/-- Whatever the order of the line table, a line that is looked up comes from one of
its rows, out of the slice of the function or else out of the whole table. -/
theorem exists_row_of_lookUpLine? (indexed : unit.Indexed) (sliced : unit.Sliced)
    (owner : database.unitAt? address = some unit) {answer : Int × Option String}
    (answered : database.lookUpLine? address none = some answer) :
    ∃ row ∈ unit.rows, answer = rowAnswer row ∧ row.address ≤ address ∧
      ((∃ subprogram, unit.subprogramAt? address = some subprogram ∧
          subprogram.rowAt? address = some row ∧ subprogram.low ≤ row.address) ∨
        ((∀ subprogram, unit.subprogramAt? address = some subprogram →
          subprogram.rowAt? address = none) ∧ unit.rowAt? address = some row)) := by
  have ofTable : ∀ row, unit.rowAt? address = some row →
      row ∈ unit.rows ∧ row.address ≤ address := by
    intro row found
    exact ⟨List.mem_of_find?_eq_some found,
      Int.le_of_eq (LineRow.address_eq_of_exactlyAt? found)⟩
  cases found : unit.subprogramAt? address with
  | none =>
      rw [lookUpLine?_of_none owner found] at answered
      obtain ⟨row, supplied, rfl⟩ := Option.map_eq_some_iff.mp answered
      obtain ⟨listed, notPast⟩ := ofTable row supplied
      exact ⟨row, listed, rfl, notPast, Or.inr ⟨by simp, supplied⟩⟩
  | some subprogram =>
      have member := (CompilationUnit.mem_and_contains_of_subprogramAt? indexed found).1
      rw [lookUpLine?_of_some owner found] at answered
      obtain ⟨row, supplied, rfl⟩ := Option.map_eq_some_iff.mp answered
      rcases Option.or_eq_some_iff.mp supplied with fromSlice | ⟨noneInSlice, fromTable⟩
      · obtain ⟨listed, notBefore, notPast⟩ :=
          CompilationUnit.mem_of_rowAt? sliced member fromSlice
        exact ⟨row, listed, rfl, notPast, Or.inl ⟨subprogram, rfl, fromSlice, notBefore⟩⟩
      · obtain ⟨listed, notPast⟩ := ofTable row fromTable
        refine ⟨row, listed, rfl, notPast, Or.inr ⟨?_, fromTable⟩⟩
        intro other same
        obtain rfl := Option.some.inj same
        exact noneInSlice

end Lookup

/-- The line at an address of a built database.  In an ascending line table it is that
of the first row at the address, else, inside a function, that of the last row of the
function before it, else zero.  In any line table the row that answers is one of the
unit's, not past the address, and not before the function if its slice gave it. -/
theorem lineNumber_of_ingest {context : BuildContext} {source : Feed UnitSource}
    {elapsed : String} {database : Database}
    (ingested : (ingest context source elapsed).outcome = .ok database)
    {address : Int} {unit : CompilationUnit}
    (owner : database.unitAt? address = some unit) :
    (LineRow.Ascending unit.rows →
      (∀ subprogram, database.subprogramAt? address = some subprogram →
        database.lineNumber address =
          (((LineRow.exactlyAt? unit.rows address).or
            (LineRow.lastBetween? unit.rows subprogram.low address)).map
              LineRow.line).getD 0) ∧
      (database.subprogramAt? address = none →
        database.lineNumber address =
          ((LineRow.exactlyAt? unit.rows address).map LineRow.line).getD 0)) ∧
    ∀ answer, database.lookUpLine? address none = some answer →
      ∃ row ∈ unit.rows, answer = rowAnswer row ∧ row.address ≤ address ∧
        ((∃ subprogram, database.subprogramAt? address = some subprogram ∧
            subprogram.rowAt? address = some row ∧ subprogram.low ≤ row.address) ∨
          ((∀ subprogram, database.subprogramAt? address = some subprogram →
            subprogram.rowAt? address = none) ∧ unit.rowAt? address = some row)) := by
  obtain ⟨item, -, built⟩ :=
    exists_build_of_ingest ingested (List.mem_of_find?_eq_some owner)
  have indexed := CompilationUnit.indexed_of_build built
  have sliced := CompilationUnit.sliced_of_build built
  rw [subprogramAt?_of_unitAt? owner]
  refine ⟨fun ascending => ⟨?_, ?_⟩, ?_⟩
  · intro subprogram found
    exact lineNumber_of_some indexed sliced ascending owner found
  · intro noFunction
    exact lineNumber_of_none owner noFunction
  · intro answer answered
    exact exists_row_of_lookUpLine? indexed sliced owner answered

/-- A unit with a function that begins between two rows, and two rows at one address. -/
def gappedSource : UnitSource where
  top := .ok
    { tag := .other none
      offset := 11
      attributes := []
      children :=
        ⟨[{ tag := .subprogram
            offset := 20
            attributes :=
              [(AttributeName.lowAddress, some (.ofInt "DW_FORM_addr" 0x1004)),
                (AttributeName.highAddress, some (.ofInt "DW_FORM_data4" 0x10))]
            children := ⟨[], none⟩ }], none⟩ }
  rows := ⟨[(0x1000, 7), (0x1008, 10), (0x1008, 11), (0x1014, 20), (0x1020, 21)], none⟩

/-- The function of the unit with its slice of the line table. -/
def gappedFunction : Subprogram where
  low := 0x1004
  high := 0x1014
  rows := [⟨0x1008, 10, none⟩, ⟨0x1008, 11, none⟩, ⟨0x1014, 20, none⟩]

/-- The unit as it is built.  Its range is that of its rows. -/
def gappedUnit : CompilationUnit where
  low := 0x1000
  high := 0x1020
  sourceLines := List.replicate 20 none
  rows := [⟨0x1000, 7, none⟩, ⟨0x1008, 10, none⟩, ⟨0x1008, 11, none⟩, ⟨0x1014, 20, none⟩,
    ⟨0x1020, 21, none⟩]
  rowIndices := [6, 9, 10, 19, 20]
  rowTexts := [none, none, none, none, none]
  subprograms := [gappedFunction]
  ranges := [{ low := 0x1004, high := 0x1014 }]

theorem lineNumber_gappedUnit :
    (ingest { files := {}, settings := {} } ⟨[gappedSource], none⟩ "0.000s").outcome =
        .ok (ofUnits [gappedUnit]) ∧
      (ofUnits [gappedUnit]).unitAt? 0x100c = some gappedUnit ∧
        LineRow.Ascending gappedUnit.rows ∧
          (ofUnits [gappedUnit]).subprogramAt? 0x100c = some gappedFunction ∧
            (ofUnits [gappedUnit]).lineNumber 0x100c = 11 := by
  have ingested : (ingest { files := {}, settings := {} } ⟨[gappedSource], none⟩
      "0.000s").outcome = .ok (ofUnits [gappedUnit]) := rfl
  have owner : (ofUnits [gappedUnit]).unitAt? 0x100c = some gappedUnit := rfl
  have ascending : LineRow.Ascending gappedUnit.rows := by
    unfold LineRow.Ascending
    decide
  have found : (ofUnits [gappedUnit]).subprogramAt? 0x100c = some gappedFunction := rfl
  refine ⟨ingested, owner, ascending, found, ?_⟩
  rw [((lineNumber_of_ingest ingested owner).1 ascending).1 gappedFunction found]
  rfl

end Database
end DebugIndex
