import DebugIndex.CodeRange

/-!
# Sorted code ranges

Ranges sorted by their addresses can be scanned for an address and the scan may
stop at the first range that begins past it.  The scan is shown to lose nothing:
it finds the range with the least position of all that contain the address.  What
it needs is only that the ranges are sorted, so any way of inserting ranges that
keeps each of them once and in order will do.
-/

namespace DebugIndex
namespace CodeRange

/-- Ranges in order: none sorts before an earlier one. -/
def Ordered (ranges : List CodeRange) : Prop :=
  ranges.Pairwise fun earlier later => later.before earlier = false

/-- What is asked of a container of sorted ranges: every range that is put into it
is kept once, and in order. -/
structure KeepsSorted (keep : CodeRange → List CodeRange → List CodeRange) : Prop where
  perm : ∀ range ranges, (keep range ranges).Perm (range :: ranges)
  ordered : ∀ range ranges, Ordered ranges → Ordered (keep range ranges)

@[simp]
theorem contains_iff {range : CodeRange} {address : Int} :
    range.contains address = true ↔ range.low ≤ address ∧ address < range.high := by
  simp [contains]

theorem low_le_of_not_before {earlier later : CodeRange}
    (order : later.before earlier = false) : earlier.low ≤ later.low := by
  simp only [before, Bool.or_eq_false_iff, decide_eq_false_iff_not] at order
  omega

theorem before_asymm {left right : CodeRange} (order : left.before right = true) :
    right.before left = false := by
  simp only [before, Bool.or_eq_true, Bool.and_eq_true, decide_eq_true_eq] at order
  simp only [before, Bool.or_eq_false_iff, Bool.and_eq_false_iff, decide_eq_false_iff_not]
  omega

theorem not_before_trans {first second third : CodeRange}
    (left : second.before first = false) (right : third.before second = false) :
    third.before first = false := by
  simp only [before, Bool.or_eq_false_iff, Bool.and_eq_false_iff,
    decide_eq_false_iff_not] at left right ⊢
  omega

/-! ## Insertion -/

theorem insert_perm (range : CodeRange) (ranges : List CodeRange) :
    (insert range ranges).Perm (range :: ranges) := by
  induction ranges with
  | nil => exact List.Perm.refl _
  | cons first rest ih =>
      by_cases order : range.before first
      · simp [insert, order]
      · simp only [insert, order, Bool.false_eq_true, if_false]
        exact (ih.cons first).trans (List.Perm.swap range first rest)

theorem ordered_insert (range : CodeRange) {ranges : List CodeRange}
    (sorted : Ordered ranges) : Ordered (insert range ranges) := by
  induction ranges with
  | nil => exact List.pairwise_singleton _ _
  | cons first rest ih =>
      obtain ⟨firstLeast, restSorted⟩ := List.pairwise_cons.mp sorted
      by_cases order : range.before first
      · simp only [insert, order, if_true]
        apply List.pairwise_cons.mpr
        refine ⟨?_, sorted⟩
        intro later member
        have rangeLeast : first.before range = false := before_asymm order
        rcases List.mem_cons.mp member with rfl | inRest
        · exact rangeLeast
        · exact not_before_trans rangeLeast (firstLeast later inRest)
      · simp only [insert, order, Bool.false_eq_true, if_false]
        apply List.pairwise_cons.mpr
        refine ⟨?_, ih restSorted⟩
        intro later member
        rcases List.mem_cons.mp ((insert_perm range rest).mem_iff.mp member) with rfl | inRest
        · simpa using order
        · exact firstLeast later inRest

theorem keepsSorted_insert : KeepsSorted insert where
  perm := insert_perm
  ordered range _ sorted := ordered_insert range sorted

/-! ## The scan -/

theorem not_contains_of_low_gt {address : Int} {first : CodeRange} {rest : List CodeRange}
    (sorted : Ordered (first :: rest)) (past : address < first.low)
    {range : CodeRange} (member : range ∈ first :: rest) :
    range.contains address = false := by
  have lowLe : first.low ≤ range.low := by
    rcases List.mem_cons.mp member with rfl | inRest
    · exact Int.le_refl _
    · exact low_le_of_not_before ((List.pairwise_cons.mp sorted).1 range inRest)
  rw [← Bool.not_eq_true, contains_iff]
  omega

theorem scan_cons_of_not_past {address : Int} {range : CodeRange} (rest : List CodeRange)
    (found : Option CodeRange) (notPast : ¬ address < range.low) :
    scan address found (range :: rest) =
      scan address
        (if range.contains address && found.all (range.position < ·.position) then some range
          else found) rest := by
  simp only [scan, notPast, if_false]
  split <;> rfl

/-- A scan gives what it was begun with or one of the ranges that contain the address. -/
theorem eq_or_mem_of_scan {address : Int} {found : Option CodeRange} {ranges : List CodeRange}
    {answer : CodeRange} (scanned : scan address found ranges = some answer) :
    found = some answer ∨ (answer ∈ ranges ∧ answer.contains address = true) := by
  induction ranges generalizing found with
  | nil => exact Or.inl scanned
  | cons range rest ih =>
      by_cases past : address < range.low
      · exact Or.inl (by simpa [scan, past] using scanned)
      · rw [scan_cons_of_not_past rest found past] at scanned
        rcases ih scanned with begun | ⟨member, contained⟩
        · split at begun
          case isTrue better =>
            obtain rfl := Option.some.inj begun
            simp only [Bool.and_eq_true] at better
            exact Or.inr ⟨List.mem_cons_self, better.1⟩
          case isFalse => exact Or.inl begun
        · exact Or.inr ⟨List.mem_cons_of_mem range member, contained⟩

/-- After one range the scan holds a range that is no worse than what it held before,
and no worse than the range itself if that contains the address. -/
theorem exists_held_le {address : Int} {range : CodeRange} {found : Option CodeRange}
    {other : CodeRange}
    (candidate : found = some other ∨ (other = range ∧ range.contains address = true)) :
    ∃ held,
      (if range.contains address && found.all (range.position < ·.position) then some range
        else found) = some held ∧ held.position ≤ other.position := by
  by_cases better : (range.contains address && found.all (range.position < ·.position)) = true
  · refine ⟨range, if_pos better, ?_⟩
    rcases candidate with rfl | ⟨rfl, -⟩
    · have lesser : range.position < other.position := by
        simpa using (Bool.and_eq_true_iff.mp better).2
      exact Nat.le_of_lt lesser
    · exact Nat.le_refl _
  · rw [if_neg better]
    rcases candidate with rfl | ⟨rfl, contained⟩
    · exact ⟨other, rfl, Nat.le_refl _⟩
    · cases found with
      | none => simp [contained] at better
      | some held => exact ⟨held, rfl, by simpa [contained] using better⟩

/-- No range that contains the address, and nothing that the scan was begun with, has
a lesser position than what a scan of sorted ranges gives. -/
theorem position_le_of_scan {address : Int} {found : Option CodeRange}
    {ranges : List CodeRange} (sorted : Ordered ranges) {other : CodeRange}
    (candidate : found = some other ∨ (other ∈ ranges ∧ other.contains address = true)) :
    ∃ answer, scan address found ranges = some answer ∧ answer.position ≤ other.position := by
  induction ranges generalizing found other with
  | nil =>
      rcases candidate with begun | ⟨member, -⟩
      · exact ⟨other, begun, Nat.le_refl _⟩
      · cases member
  | cons range rest ih =>
      have restSorted := (List.pairwise_cons.mp sorted).2
      by_cases past : address < range.low
      · rcases candidate with begun | ⟨member, contained⟩
        · exact ⟨other, by simp [scan, past, begun], Nat.le_refl _⟩
        · rw [not_contains_of_low_gt sorted past member] at contained
          cases contained
      · rw [scan_cons_of_not_past rest found past]
        have place : (found = some other ∨ (other = range ∧ range.contains address = true)) ∨
            (other ∈ rest ∧ other.contains address = true) := by
          rcases candidate with begun | ⟨member, contained⟩
          · exact Or.inl (Or.inl begun)
          · rcases List.mem_cons.mp member with rfl | inRest
            · exact Or.inl (Or.inr ⟨rfl, contained⟩)
            · exact Or.inr ⟨inRest, contained⟩
        rcases place with here | later
        · obtain ⟨held, holds, heldLe⟩ := exists_held_le here
          obtain ⟨answer, scanned, answerLe⟩ := ih restSorted (Or.inl holds)
          exact ⟨answer, scanned, Nat.le_trans answerLe heldLe⟩
        · exact ih restSorted (Or.inr later)

theorem mem_of_at? {ranges : List CodeRange} {address : Int} {answer : CodeRange}
    (found : at? ranges address = some answer) :
    answer ∈ ranges ∧ answer.contains address = true := by
  rcases eq_or_mem_of_scan found with begun | contained
  · cases begun
  · exact contained

/-- Of sorted ranges, the one that is found has the least position of all that
contain the address. -/
theorem exists_at?_le {ranges : List CodeRange} (sorted : Ordered ranges) {address : Int}
    {other : CodeRange} (member : other ∈ ranges) (contained : other.contains address = true) :
    ∃ answer, at? ranges address = some answer ∧ answer.position ≤ other.position :=
  position_le_of_scan sorted (Or.inr ⟨member, contained⟩)

end CodeRange
end DebugIndex
