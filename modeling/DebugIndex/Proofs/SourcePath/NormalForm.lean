import DebugIndex.SourcePath

/-!
# Collapsed paths

A path is collapsed when no step to a parent directory is left in it, and with `\` as separator
no step to the current directory and no doubled separator either.  What one round takes out can
bring together what was apart, and so give the next rounds more to do; but every round makes the
path shorter, so the rounds come to an end, and they end with a collapsed path.
-/

namespace DebugIndex
namespace SourcePath

/-! ## The first occurrence -/

section Occurrences

variable {needle text : List Char}

theorem find?_eq_none_iff : find? needle text = none ↔ ¬ needle <:+: text := by
  induction text with
  | nil =>
      cases needle with
      | nil => simp [find?]
      | cons => simp [find?]
  | cons character rest ih =>
      rw [List.infix_cons_iff, not_or, ← ih, find?]
      by_cases starts : needle <+: character :: rest
      · rw [if_pos (List.isPrefixOf_iff_prefix.mpr starts)]
        simp [starts]
      · rw [if_neg (mt List.isPrefixOf_iff_prefix.mp starts), Option.map_eq_none_iff]
        simp [starts]

theorem exists_append_of_find? (filled : needle ≠ []) {index : Nat}
    (found : find? needle text = some index) :
    ∃ front rest, text = front ++ (needle ++ rest) ∧ front.length = index ∧
      ¬ needle <:+: front ++ needle.dropLast := by
  induction text generalizing index with
  | nil => simp [find?, filled] at found
  | cons character rest ih =>
      rw [find?] at found
      split at found
      case isTrue starts =>
        obtain rfl := Option.some.inj found
        obtain ⟨behind, whole⟩ := List.isPrefixOf_iff_prefix.mp starts
        refine ⟨[], behind, whole.symm, rfl, fun early => ?_⟩
        have shorter := early.length_le
        have := List.length_pos_iff.mpr filled
        simp only [List.nil_append, List.length_dropLast] at shorter
        omega
      case isFalse later =>
        obtain ⟨earlier, atEarlier, rfl⟩ := Option.map_eq_some_iff.mp found
        obtain ⟨front, behind, rfl, rfl, first⟩ := ih atEarlier
        refine ⟨character :: front, behind, rfl, rfl, fun early => ?_⟩
        rw [List.cons_append, List.infix_cons_iff] at early
        rcases early with starts | inside
        · refine later (List.isPrefixOf_iff_prefix.mpr (starts.trans ?_))
          rw [List.cons_prefix_cons]
          exact ⟨rfl, (List.prefix_append_right_inj front).mpr
            ((List.dropLast_prefix needle).trans (List.prefix_append needle behind))⟩
        · exact first inside

end Occurrences

/-! ## Rounds -/

/-- A path in which nothing is left to take out or to fold. -/
structure IsCollapsed (separator path : List Char) : Prop where
  noParentStep : ¬ parentStep separator <:+: path
  noCurrentStep : separator = ['\\'] → ¬ currentStep <:+: path
  noDoubleSeparator : separator = ['\\'] → ¬ doubleSeparator <:+: path

/-- The path after a number of rounds; none if there is nothing left to do before that. -/
def rounds? (separator : List Char) : Nat → List Char → Option (List Char)
  | 0, path => some path
  | count + 1, path => (collapseOnce? separator path).bind (rounds? separator count)

variable {separator path shorter : List Char}

theorem fold?_eq_none_iff {mark : List Char} : fold? mark path = none ↔ ¬ mark <:+: path := by
  rw [fold?, Option.map_eq_none_iff, find?_eq_none_iff]

theorem collapseOnce?_eq_none_iff :
    collapseOnce? separator path = none ↔ IsCollapsed separator path := by
  rw [collapseOnce?]
  cases found : find? (parentStep separator) path with
  | some index =>
      have occurs : find? (parentStep separator) path ≠ none := by simp [found]
      simp only [reduceCtorEq, false_iff]
      exact fun collapsed => occurs (find?_eq_none_iff.mpr collapsed.noParentStep)
  | none =>
      have noParentStep := find?_eq_none_iff.mp found
      by_cases backward : separator = ['\\']
      · simp only [if_pos backward, Option.or_eq_none_iff, fold?_eq_none_iff]
        exact ⟨fun ⟨noCurrentStep, noDoubleSeparator⟩ =>
            ⟨noParentStep, fun _ => noCurrentStep, fun _ => noDoubleSeparator⟩,
          fun collapsed => ⟨collapsed.noCurrentStep backward, collapsed.noDoubleSeparator backward⟩⟩
      · simp only [if_neg backward, true_iff]
        exact ⟨noParentStep, fun same => absurd same backward, fun same => absurd same backward⟩

theorem collapse_of_some (round : collapseOnce? separator path = some shorter) :
    collapse separator path = collapse separator shorter := by
  rw [collapse]
  split
  case h_1 other also => rw [Option.some.inj (round.symm.trans also)]
  case h_2 ended => cases round.symm.trans ended

theorem collapse_of_none (ended : collapseOnce? separator path = none) :
    collapse separator path = path := by
  rw [collapse]
  split
  case h_1 other round => cases round.symm.trans ended
  case h_2 => rfl

/-- Collapsing a path comes to an end after at most as many rounds as the path gets shorter. -/
theorem exists_rounds?_eq_collapse (separator path : List Char) :
    ∃ count, count + (collapse separator path).length ≤ path.length ∧
      rounds? separator count path = some (collapse separator path) := by
  induction path using collapse.induct separator with
  | case1 path shorter round ih =>
      obtain ⟨count, bound, ended⟩ := ih
      have := length_lt_of_collapseOnce? round
      rw [collapse_of_some round]
      refine ⟨count + 1, by omega, ?_⟩
      rw [rounds?, round, Option.bind_some, ended]
  | case2 path ended =>
      rw [collapse_of_none ended]
      exact ⟨0, by omega, rfl⟩

theorem isCollapsed_collapse (separator path : List Char) :
    IsCollapsed separator (collapse separator path) := by
  induction path using collapse.induct separator with
  | case1 path shorter round ih =>
      rw [collapse_of_some round]
      exact ih
  | case2 path ended =>
      rw [collapse_of_none ended]
      exact collapseOnce?_eq_none_iff.mp ended

theorem collapse_eq_self_iff : collapse separator path = path ↔ IsCollapsed separator path := by
  constructor
  · intro same
    rw [← same]
    exact isCollapsed_collapse separator path
  · exact fun collapsed => collapse_of_none (collapseOnce?_eq_none_iff.mpr collapsed)

/-- Whatever the separator, collapsing a path ends after finitely many rounds, each of which
makes the path shorter, with a path that is collapsed; a path is left as it is exactly if it is
collapsed, so collapsing twice is collapsing once.  The full path of a source file is collapsed,
wherever the file is looked for. -/
theorem collapse_normalForm (separator path : List Char) :
    (∃ count, count + (collapse separator path).length ≤ path.length ∧
        rounds? separator count path = some (collapse separator path)) ∧
      IsCollapsed separator (collapse separator path) ∧
      (collapse separator path = path ↔ IsCollapsed separator path) ∧
      collapse separator (collapse separator path) = collapse separator path ∧
      ∀ files filename directory searchPaths,
        IsCollapsed separator
          (locate files separator filename directory searchPaths).fullPath.toList := by
  have collapsed := isCollapsed_collapse separator path
  refine ⟨exists_rounds?_eq_collapse separator path, collapsed, collapse_eq_self_iff,
    collapse_eq_self_iff.mpr collapsed, ?_⟩
  intro files filename directory searchPaths
  rw [locate, String.toList_ofList, join]
  exact isCollapsed_collapse separator _

/-- Once the directory `a` is taken out, the separators on both sides of it are folded. -/
example : collapse ['\\'] "c:\\a\\..\\\\b".toList = "c:\\b".toList := by cbv

end SourcePath
end DebugIndex
