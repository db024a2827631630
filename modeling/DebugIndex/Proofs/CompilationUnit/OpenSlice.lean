import DebugIndex.Proofs.CompilationUnit.Slices

/-!
# Rows at the end of a function

The slice of a function holds the rows at its high address too, where other code begins.
Such a row is past every address of the function, so the search for a row stops at it:
what is found is the nearest row among those of the function that come in front of it.
Nothing is missed as long as the rows of the function that could answer do not come
behind a row at the high address, as they can where the line table is not in ascending
order.
-/

namespace DebugIndex

namespace LineRow

theorem scan_of_past {address : Int} {rows : List LineRow}
    (past : ∀ row ∈ rows, address < row.address) (preceding : Option LineRow) :
    scan address preceding rows = preceding := by
  cases rows with
  | nil => rfl
  | cons row rest =>
      have rowPast := past row List.mem_cons_self
      rw [scan, if_neg (by omega), if_pos rowPast]

theorem scan_append_of_past {address : Int} {later : List LineRow}
    (past : ∀ row ∈ later, address < row.address) (preceding : Option LineRow)
    (earlier : List LineRow) :
    scan address preceding (earlier ++ later) = scan address preceding earlier := by
  induction earlier generalizing preceding with
  | nil => exact scan_of_past past preceding
  | cons row rest ih => simp only [List.cons_append, scan, ih]

end LineRow

namespace Extraction

/-- The rows whose address lies between two addresses, the high one excluded. -/
def openSlice (rows : List LineRow) (low high : Int) : List LineRow :=
  rows.filter fun row => low ≤ row.address ∧ row.address < high

def rowsBefore (rows : List LineRow) (address : Int) : List LineRow :=
  rows.takeWhile fun row => row.address ≠ address

/-- No row of a function that could answer for an address comes behind a row at the high
address of the function. -/
def Undisturbed (rows : List LineRow) (low high address : Int) : Prop :=
  rows.Pairwise fun earlier later =>
    earlier.address = high → low ≤ later.address → address < later.address

theorem openSlice_eq_slice (rows : List LineRow) (low high : Int) :
    openSlice rows low high = slice rows low (high - 1) := by
  simp only [openSlice, slice, Int.le_sub_one_iff]

/-- A function whose slice is ascending is undisturbed at all its addresses. -/
theorem undisturbed_of_ascending {rows : List LineRow} {low high address : Int}
    (ascending : LineRow.Ascending (slice rows low high)) (below : address < high) :
    Undisturbed rows low high address := by
  refine List.Pairwise.imp ?_ (List.pairwise_filter.mp ascending)
  intro earlier later inOrder atHigh notBefore
  by_cases beyond : high < later.address
  · exact Int.lt_trans below beyond
  · have laterInside : low ≤ later.address ∧ later.address ≤ high :=
      ⟨notBefore, Int.not_lt.mp beyond⟩
    have earlierInside : low ≤ earlier.address ∧ earlier.address ≤ high := by omega
    have := inOrder (by simpa using earlierInside) (by simpa using laterInside)
    omega

/-- The search in a slice finds what there is to find in front of the first row at the
high address. -/
theorem scan_slice {low high address : Int} (below : address < high)
    (preceding : Option LineRow) (rows : List LineRow) :
    LineRow.scan address preceding (slice rows low high) =
      LineRow.scan address preceding (openSlice (rowsBefore rows high) low high) := by
  induction rows generalizing preceding with
  | nil => rfl
  | cons row rest ih =>
      by_cases atHigh : row.address = high
      · -- The open slice ends here, and the search in the closed one stops.
        have nothingBefore : rowsBefore (row :: rest) high = [] := by
          simp [rowsBefore, atHigh]
        rw [nothingBefore]
        by_cases atLow : low ≤ row.address
        · have sliced : slice (row :: rest) low high = row :: slice rest low high := by
            rw [slice, List.filter_cons_of_pos (by simp; omega), slice]
          rw [sliced, LineRow.scan, if_neg (by omega), if_pos (by omega)]
          rfl
        · have allPast : ∀ other ∈ slice (row :: rest) low high, address < other.address := by
            intro other member
            have := (mem_slice.mp member).2
            omega
          exact LineRow.scan_of_past allPast preceding
      · have before : rowsBefore (row :: rest) high = row :: rowsBefore rest high := by
          simp [rowsBefore, atHigh]
        rw [before]
        by_cases within : low ≤ row.address ∧ row.address ≤ high
        · have sliced : slice (row :: rest) low high = row :: slice rest low high := by
            rw [slice, List.filter_cons_of_pos (by simpa using within), slice]
          have opened : openSlice (row :: rowsBefore rest high) low high =
              row :: openSlice (rowsBefore rest high) low high := by
            rw [openSlice, List.filter_cons_of_pos (by simp; omega), openSlice]
          simp only [sliced, opened, LineRow.scan, ih]
        · have sliced : slice (row :: rest) low high = slice rest low high := by
            rw [slice, List.filter_cons_of_neg (by simpa using within), slice]
          have opened : openSlice (row :: rowsBefore rest high) low high =
              openSlice (rowsBefore rest high) low high := by
            rw [openSlice, List.filter_cons_of_neg (by simp; omega), openSlice]
          rw [sliced, opened, ih]

/-- Of an undisturbed function the rows behind the first one at its high address are past
the address. -/
theorem past_of_undisturbed {rows : List LineRow} {low high address : Int}
    (undisturbed : Undisturbed rows low high address) :
    ∀ row ∈ openSlice (rows.dropWhile fun row => row.address ≠ high) low high,
      address < row.address := by
  induction rows with
  | nil => simp [openSlice]
  | cons first rest ih =>
      obtain ⟨behindFirst, undisturbedRest⟩ := List.pairwise_cons.mp undisturbed
      by_cases atHigh : first.address = high
      · intro row member
        rw [List.dropWhile_cons_of_neg (by simpa using atHigh), openSlice] at member
        simp only [List.mem_filter, List.mem_cons, decide_eq_true_eq] at member
        obtain ⟨rfl | inRest, notBefore, belowHigh⟩ := member
        · omega
        · exact behindFirst row inRest atHigh notBefore
      · rw [List.dropWhile_cons_of_pos (by simpa using atHigh)]
        exact ih undisturbedRest

theorem nearest?_slice_of_undisturbed {rows : List LineRow} {low high address : Int}
    (below : address < high) (undisturbed : Undisturbed rows low high address) :
    LineRow.nearest? (slice rows low high) address =
      LineRow.nearest? (openSlice rows low high) address := by
  have parted : openSlice rows low high = openSlice (rowsBefore rows high) low high ++
      openSlice (rows.dropWhile fun row => row.address ≠ high) low high := by
    rw [openSlice, openSlice, openSlice, rowsBefore, ← List.filter_append,
      List.takeWhile_append_dropWhile]
  rw [LineRow.nearest?, scan_slice below, LineRow.nearest?, parted,
    LineRow.scan_append_of_past (past_of_undisturbed undisturbed)]

end Extraction

namespace CompilationUnit

open Extraction

/-- The row of a function at an address of a built unit is the nearest one among the rows
of the function, its high address excluded, in front of the first row at that address.
If no row that could answer comes behind, it is the nearest one among all rows of the
function; and if these are in ascending order, that is the first row at the address, else
the last one of the function before it. -/
theorem rowAt?_of_build {context : BuildContext} {source : UnitSource}
    {unit : CompilationUnit} (built : (context.build source).outcome = .ok unit)
    {subprogram : Subprogram} (member : subprogram ∈ unit.subprograms) {address : Int}
    (inside : subprogram.low ≤ address ∧ address < subprogram.high) :
    subprogram.rowAt? address =
        LineRow.nearest? (openSlice (rowsBefore unit.rows subprogram.high) subprogram.low
          subprogram.high) address ∧
      (Undisturbed unit.rows subprogram.low subprogram.high address →
        subprogram.rowAt? address =
            LineRow.nearest? (openSlice unit.rows subprogram.low subprogram.high) address ∧
          (LineRow.Ascending (openSlice unit.rows subprogram.low subprogram.high) →
            subprogram.rowAt? address =
              (LineRow.exactlyAt? unit.rows address).or
                (LineRow.lastBetween? unit.rows subprogram.low address))) := by
  have sliced := sliced_of_build built subprogram member
  refine ⟨?_, ?_⟩
  · rw [Subprogram.rowAt?, sliced, LineRow.nearest?, scan_slice inside.2, LineRow.nearest?]
  · intro undisturbed
    have asOpen : subprogram.rowAt? address =
        LineRow.nearest? (openSlice unit.rows subprogram.low subprogram.high) address := by
      rw [Subprogram.rowAt?, sliced, nearest?_slice_of_undisturbed inside.2 undisturbed]
    refine ⟨asOpen, ?_⟩
    intro ascending
    have upTo : address ≤ subprogram.high - 1 := by omega
    rw [asOpen, LineRow.nearest?_eq ascending, openSlice_eq_slice,
      exactlyAt?_slice unit.rows ⟨inside.1, upTo⟩, lastBefore?_slice unit.rows upTo]

/-- A unit whose line table gives the row at the end of one function, where the next one
begins, in front of the function's own row. -/
def crossedSource : UnitSource where
  top := .ok
    { tag := .other (some "DW_TAG_partial_unit")
      offset := 11
      attributes := []
      children :=
        ⟨[{ tag := .subprogram
            offset := 32
            attributes :=
              [(AttributeName.lowAddress, some (.ofInt "DW_FORM_addr" 0x1000)),
                (AttributeName.highAddress, some (.ofInt "DW_FORM_addr" 0x1010))]
            children := ⟨[], none⟩ },
          { tag := .subprogram
            offset := 48
            attributes :=
              [(AttributeName.lowAddress, some (.ofInt "DW_FORM_addr" 0x1010)),
                (AttributeName.highAddress, some (.ofInt "DW_FORM_addr" 0x1020))]
            children := ⟨[], none⟩ }], none⟩ }
  rows := ⟨[(0xff0, 5), (0x1010, 20), (0x1000, 10), (0x1020, 30)], none⟩

/-- The function whose row comes behind the one at its end. -/
def crossedFunction : Subprogram where
  low := 0x1000
  high := 0x1010
  rows := [⟨0x1010, 20, none⟩, ⟨0x1000, 10, none⟩]

def orderedFunction : Subprogram where
  low := 0x1010
  high := 0x1020
  rows := [⟨0x1010, 20, none⟩, ⟨0x1020, 30, none⟩]

def crossedUnit : CompilationUnit where
  tag := .other (some "DW_TAG_partial_unit")
  low := 0xff0
  high := 0x1020
  sourceLines := List.replicate 30 none
  rows := [⟨0xff0, 5, none⟩, ⟨0x1010, 20, none⟩, ⟨0x1000, 10, none⟩, ⟨0x1020, 30, none⟩]
  rowIndices := [4, 19, 9, 29]
  rowTexts := [none, none, none, none]
  subprograms := [crossedFunction, orderedFunction]
  ranges := [{ low := 0x1000, high := 0x1010 }, { low := 0x1010, high := 0x1020, position := 1 }]

theorem rowAt?_orderedFunction :
    (BuildContext.build { files := {}, settings := {} } crossedSource).outcome =
        .ok crossedUnit ∧
      orderedFunction ∈ crossedUnit.subprograms ∧
        orderedFunction.low ≤ 0x1014 ∧ 0x1014 < orderedFunction.high ∧
          Undisturbed crossedUnit.rows orderedFunction.low orderedFunction.high 0x1014 ∧
            LineRow.Ascending
                (openSlice crossedUnit.rows orderedFunction.low orderedFunction.high) ∧
              orderedFunction.rowAt? 0x1014 = some ⟨0x1010, 20, none⟩ := by
  have built : (BuildContext.build { files := {}, settings := {} } crossedSource).outcome =
      .ok crossedUnit := rfl
  have member : orderedFunction ∈ crossedUnit.subprograms :=
    List.mem_cons_of_mem _ List.mem_cons_self
  have inside : orderedFunction.low ≤ 0x1014 ∧ 0x1014 < orderedFunction.high := by decide
  have undisturbed :
      Undisturbed crossedUnit.rows orderedFunction.low orderedFunction.high 0x1014 := by
    refine undisturbed_of_ascending ?_ inside.2
    unfold LineRow.Ascending
    decide
  have ascending : LineRow.Ascending
      (openSlice crossedUnit.rows orderedFunction.low orderedFunction.high) := by
    unfold LineRow.Ascending
    decide
  refine ⟨built, member, inside.1, inside.2, undisturbed, ascending, ?_⟩
  rw [((rowAt?_of_build built member inside).2 undisturbed).2 ascending]
  rfl

/-- Behind a row at the high address a function's own row is not found, although its own
rows are in ascending order. -/
theorem rowAt?_crossedFunction :
    (BuildContext.build { files := {}, settings := {} } crossedSource).outcome =
        .ok crossedUnit ∧
      crossedFunction ∈ crossedUnit.subprograms ∧
        crossedFunction.low ≤ 0x1004 ∧ 0x1004 < crossedFunction.high ∧
          LineRow.Ascending
              (openSlice crossedUnit.rows crossedFunction.low crossedFunction.high) ∧
            crossedFunction.rowAt? 0x1004 = none ∧
              LineRow.nearest?
                  (openSlice crossedUnit.rows crossedFunction.low crossedFunction.high) 0x1004 =
                some ⟨0x1000, 10, none⟩ := by
  refine ⟨rfl, List.mem_cons_self, by decide, by decide, ?_, rfl, rfl⟩
  unfold LineRow.Ascending
  decide

end CompilationUnit
end DebugIndex
