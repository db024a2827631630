import DebugIndex.CompilationUnit.Basic
import DebugIndex.Proofs.CodeRange.Sorted

/-!
# The range index of a unit

The sorted code ranges of a unit are an index of its functions: there is one range
for each function that has code, and it bears the position of the function.  With
such an index the function at an address is the one that a plain search through all
functions comes to first.  Adding a function keeps the index, whatever container the
ranges are kept in, and so does any change of functions that leaves their names and
addresses alone.
-/

namespace DebugIndex
namespace CompilationUnit

/-- Sorted ranges that are exactly those of the functions with code, each at the
position of its function. -/
structure IndexesFunctions (ranges : List CodeRange) (subprograms : List Subprogram) :
    Prop where
  ordered : CodeRange.Ordered ranges
  mem_iff : ∀ range, range ∈ ranges ↔ ∃ position subprogram,
    subprograms[position]? = some subprogram ∧ subprogram.hasCode = true ∧
      range = rangeOf subprogram position

theorem hasCode_of_contains {subprogram : Subprogram} {address : Int}
    (contained : subprogram.contains address = true) : subprogram.hasCode = true := by
  simp only [Subprogram.contains, Subprogram.hasCode, Bool.and_eq_true,
    decide_eq_true_eq] at contained ⊢
  omega

@[simp]
theorem contains_rangeOf (subprogram : Subprogram) (position : Nat) (address : Int) :
    (rangeOf subprogram position).contains address = subprogram.contains address := rfl

namespace IndexesFunctions

theorem nil : IndexesFunctions [] [] where
  ordered := List.Pairwise.nil
  mem_iff range := by simp

/-- An index stays one when a function and its range, if it has one, are added. -/
theorem concat {keep : CodeRange → List CodeRange → List CodeRange}
    (keeps : CodeRange.KeepsSorted keep) {ranges : List CodeRange}
    {subprograms : List Subprogram} (index : IndexesFunctions ranges subprograms)
    (subprogram : Subprogram) :
    IndexesFunctions
      (if subprogram.hasCode then keep (rangeOf subprogram subprograms.length) ranges
        else ranges)
      (subprograms ++ [subprogram]) := by
  have mem_concat : ∀ range, (∃ position other,
      (subprograms ++ [subprogram])[position]? = some other ∧ other.hasCode = true ∧
        range = rangeOf other position) ↔
      range ∈ ranges ∨
        (subprogram.hasCode = true ∧ range = rangeOf subprogram subprograms.length) := by
    intro range
    rw [index.mem_iff]
    constructor
    · rintro ⟨position, other, atPosition, hasCode, rfl⟩
      rcases Nat.lt_trichotomy position subprograms.length with before | rfl | after
      · rw [List.getElem?_append_left before] at atPosition
        exact Or.inl ⟨position, other, atPosition, hasCode, rfl⟩
      · obtain rfl : subprogram = other := by simpa using atPosition
        exact Or.inr ⟨hasCode, rfl⟩
      · rw [List.getElem?_eq_none (by rw [List.length_append]; exact after)] at atPosition
        cases atPosition
    · rintro (⟨position, other, atPosition, hasCode, rfl⟩ | ⟨hasCode, rfl⟩)
      · have before : position < subprograms.length :=
          (List.getElem?_eq_some_iff.mp atPosition).1
        exact ⟨position, other, by rw [List.getElem?_append_left before, atPosition],
          hasCode, rfl⟩
      · exact ⟨subprograms.length, subprogram, by simp, hasCode, rfl⟩
  by_cases hasCode : subprogram.hasCode = true
  · rw [if_pos hasCode]
    refine ⟨keeps.ordered _ _ index.ordered, fun range => ?_⟩
    rw [(keeps.perm _ _).mem_iff, List.mem_cons, mem_concat]
    simp [hasCode, or_comm]
  · rw [if_neg hasCode]
    refine ⟨index.ordered, fun range => ?_⟩
    rw [mem_concat]
    simp [hasCode]

/-- An index stays one when functions change in nothing that their ranges show. -/
theorem map {ranges : List CodeRange} {subprograms : List Subprogram}
    (index : IndexesFunctions ranges subprograms) {change : Subprogram → Subprogram}
    (same : ∀ subprogram position,
      rangeOf (change subprogram) position = rangeOf subprogram position) :
    IndexesFunctions ranges (subprograms.map change) where
  ordered := index.ordered
  mem_iff range := by
    have sameCode : ∀ subprogram, (change subprogram).hasCode = subprogram.hasCode := by
      intro subprogram
      have ranged := same subprogram 0
      simp only [rangeOf, CodeRange.mk.injEq] at ranged
      simp only [Subprogram.hasCode, ranged.1, ranged.2.1]
    rw [index.mem_iff]
    constructor
    · rintro ⟨position, subprogram, atPosition, hasCode, rfl⟩
      exact ⟨position, change subprogram, by simp [atPosition], by rwa [sameCode],
        (same subprogram position).symm⟩
    · rintro ⟨position, changed, atPosition, hasCode, rfl⟩
      simp only [List.getElem?_map, Option.map_eq_some_iff] at atPosition
      obtain ⟨subprogram, atPosition, rfl⟩ := atPosition
      exact ⟨position, subprogram, atPosition, by rwa [← sameCode], same subprogram position⟩

/-- With an index, the range that is found for an address bears the position of the
first function that contains the address. -/
theorem at?_map_position {ranges : List CodeRange} {subprograms : List Subprogram}
    (index : IndexesFunctions ranges subprograms) (address : Int) :
    (CodeRange.at? ranges address).map CodeRange.position =
      subprograms.findIdx? fun subprogram => subprogram.contains address := by
  -- nothing that contains the address stands in front of what is found
  have finds : ∀ position subprogram, subprograms[position]? = some subprogram →
      subprogram.contains address = true →
        ∃ answer, CodeRange.at? ranges address = some answer ∧ answer.position ≤ position := by
    intro position subprogram atPosition contained
    exact CodeRange.exists_at?_le index.ordered
      ((index.mem_iff _).mpr
        ⟨position, subprogram, atPosition, hasCode_of_contains contained, rfl⟩)
      ((contains_rangeOf subprogram position address).trans contained)
  symm
  cases found : CodeRange.at? ranges address with
  | none =>
      rw [Option.map_none, List.findIdx?_eq_none_iff]
      intro subprogram member
      obtain ⟨position, atPosition⟩ := List.mem_iff_getElem?.mp member
      cases contained : subprogram.contains address with
      | false => rfl
      | true =>
          obtain ⟨answer, answered, -⟩ := finds position subprogram atPosition contained
          rw [found] at answered
          cases answered
  | some answer =>
      obtain ⟨member, contained⟩ := CodeRange.mem_of_at? found
      obtain ⟨position, subprogram, atPosition, -, rfl⟩ := (index.mem_iff answer).mp member
      obtain ⟨inside, rfl⟩ := List.getElem?_eq_some_iff.mp atPosition
      rw [Option.map_some, List.findIdx?_eq_some_iff_getElem]
      refine ⟨inside, contained, ?_⟩
      intro earlier before containedEarlier
      have earlierInside : earlier < subprograms.length := Nat.lt_trans before inside
      obtain ⟨least, answered, positionLe⟩ := finds earlier subprograms[earlier]
        (List.getElem?_eq_getElem earlierInside) containedEarlier
      rw [found] at answered
      obtain rfl := Option.some.inj answered
      exact Nat.not_le_of_lt before positionLe

end IndexesFunctions

def Indexed (unit : CompilationUnit) : Prop :=
  IndexesFunctions unit.ranges unit.subprograms

namespace Indexed

theorem addSubprogramWith {keep : CodeRange → List CodeRange → List CodeRange}
    (keeps : CodeRange.KeepsSorted keep) {unit : CompilationUnit} (indexed : unit.Indexed)
    (subprogram : Subprogram) : (unit.addSubprogramWith keep subprogram).Indexed :=
  indexed.concat keeps subprogram

theorem positionAt?_eq {unit : CompilationUnit} (indexed : unit.Indexed) (address : Int) :
    unit.positionAt? address =
      unit.subprograms.findIdx? fun subprogram => subprogram.contains address :=
  indexed.at?_map_position address

/-- The function at an address is the first of all functions that contains it. -/
theorem subprogramAt?_eq {unit : CompilationUnit} (indexed : unit.Indexed) (address : Int) :
    unit.subprogramAt? address =
      unit.subprograms.find? fun subprogram => subprogram.contains address := by
  rw [subprogramAt?, indexed.positionAt?_eq, List.find?_eq_bind_findIdx?_getElem?]

end Indexed
end CompilationUnit
end DebugIndex
