import DebugIndex.LineRow

/-!
# The nearest row

Looking for the row at an address, or the nearest one before it, stops at the first
row past the address.  Whatever the order of the rows, a row that is found is one of
them and not past the address.  In rows in ascending order nothing is missed: the row
that is found is the first one at the address, else the last one before it.
-/

namespace DebugIndex
namespace LineRow

/-- Rows whose addresses never decrease. -/
def Ascending (rows : List LineRow) : Prop :=
  rows.Pairwise fun earlier later => earlier.address ≤ later.address

/-- The last of the rows that are not before one address, but before another. -/
def lastBetween? (rows : List LineRow) (low address : Int) : Option LineRow :=
  (rows.filter fun row => low ≤ row.address ∧ row.address < address).getLast?

def lastBefore? (rows : List LineRow) (address : Int) : Option LineRow :=
  (rows.filter fun row => row.address < address).getLast?

theorem address_eq_of_exactlyAt? {rows : List LineRow} {address : Int} {row : LineRow}
    (found : exactlyAt? rows address = some row) : row.address = address := by
  simpa using List.find?_some found

theorem eq_or_mem_of_scan {address : Int} {preceding : Option LineRow} {rows : List LineRow}
    {answer : LineRow} (scanned : scan address preceding rows = some answer) :
    preceding = some answer ∨ (answer ∈ rows ∧ answer.address ≤ address) := by
  induction rows generalizing preceding with
  | nil => exact Or.inl scanned
  | cons row rest ih =>
      rw [scan] at scanned
      split at scanned
      case isTrue atAddress =>
        obtain rfl := Option.some.inj scanned
        exact Or.inr ⟨List.mem_cons_self, by omega⟩
      case isFalse =>
        split at scanned
        case isTrue => exact Or.inl scanned
        case isFalse notPast =>
          rcases ih scanned with begun | ⟨member, addressLe⟩
          · obtain rfl := Option.some.inj begun
            exact Or.inr ⟨List.mem_cons_self, by omega⟩
          · exact Or.inr ⟨List.mem_cons_of_mem row member, addressLe⟩

theorem mem_of_nearest? {rows : List LineRow} {address : Int} {answer : LineRow}
    (found : nearest? rows address = some answer) :
    answer ∈ rows ∧ answer.address ≤ address := by
  rcases eq_or_mem_of_scan found with begun | listed
  · cases begun
  · exact listed

/-- In ascending rows no row is at an address that the first one is past, or before it. -/
theorem nothing_upTo_of_past {address : Int} {first : LineRow} {rest : List LineRow}
    (ascending : Ascending (first :: rest)) (past : address < first.address) :
    exactlyAt? (first :: rest) address = none ∧ lastBefore? (first :: rest) address = none := by
  have allPast : ∀ row ∈ first :: rest, address < row.address := by
    intro row member
    rcases List.mem_cons.mp member with rfl | inRest
    · exact past
    · have := (List.pairwise_cons.mp ascending).1 row inRest
      omega
  constructor
  · rw [exactlyAt?, List.find?_eq_none]
    intro row member atAddress
    have := allPast row member
    simp only [decide_eq_true_eq] at atAddress
    omega
  · rw [lastBefore?, List.getLast?_eq_none_iff, List.filter_eq_nil_iff]
    intro row member before
    have := allPast row member
    simp only [decide_eq_true_eq] at before
    omega

theorem lastBefore?_cons_of_lt {address : Int} {row : LineRow} (rest : List LineRow)
    (before : row.address < address) :
    lastBefore? (row :: rest) address = (lastBefore? rest address).or (some row) := by
  simp only [lastBefore?, List.filter_cons, before, decide_true, if_true, List.getLast?_cons]
  cases (rest.filter fun row => row.address < address).getLast? <;> rfl

theorem scan_eq {address : Int} {rows : List LineRow} (ascending : Ascending rows)
    (preceding : Option LineRow) :
    scan address preceding rows =
      ((exactlyAt? rows address).or (lastBefore? rows address)).or preceding := by
  induction rows generalizing preceding with
  | nil => rfl
  | cons row rest ih =>
      rcases Int.lt_trichotomy row.address address with before | atAddress | past
      · have notAt : row.address ≠ address := by omega
        have notPast : ¬ address < row.address := by omega
        have exactlyRest : exactlyAt? (row :: rest) address = exactlyAt? rest address := by
          simp [exactlyAt?, notAt]
        rw [scan, if_neg notAt, if_neg notPast, ih (List.pairwise_cons.mp ascending).2,
          exactlyRest, lastBefore?_cons_of_lt rest before]
        simp
      · simp [scan, exactlyAt?, atAddress]
      · have notAt : row.address ≠ address := by omega
        obtain ⟨noneAt, noneBefore⟩ := nothing_upTo_of_past ascending past
        rw [scan, if_neg notAt, if_pos past, noneAt, noneBefore]
        rfl

/-- In ascending rows the one that is found is the first one at the address, else the
last one before it. -/
theorem nearest?_eq {rows : List LineRow} (ascending : Ascending rows) (address : Int) :
    nearest? rows address = (exactlyAt? rows address).or (lastBefore? rows address) := by
  rw [nearest?, scan_eq ascending, Option.or_none]

end LineRow
end DebugIndex
