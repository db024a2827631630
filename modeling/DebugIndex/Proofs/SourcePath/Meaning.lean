import DebugIndex.Proofs.SourcePath.Segments
import Mathlib.Data.List.Basic

/-!
# What collapsing a path does to its meaning

A path can be read without looking at any tree: empty segments and `.` say nothing, and a parent
step undoes the name in front of it.  At the root there is no parent, so a parent step without a
name in front of it says nothing there; in a relative path it stays.

Collapsing a path takes back whatever segment is in front of a parent step.  A name may be taken
back.  But where an empty segment or `.` is taken back, the name in front of it stays that the
step leaves, a parent step that is taken back leads upwards no longer, and with the empty segment
in front of the first separator the path loses its root.  In a relative path what is lost is never
made up for: the path leads further down than it did.
-/

namespace DebugIndex
namespace SourcePath

def isAbsolute (path : List Char) : Bool :=
  path.head? = some '/'

def isName (segment : List Char) : Bool :=
  segment ≠ [] ∧ segment ≠ ['.'] ∧ segment ≠ parentSegment

/-- Read one segment behind those that are left of the segments before it. -/
def normalStep (absolute : Bool) (left : List (List Char)) (segment : List Char) :
    List (List Char) :=
  if isName segment then left ++ [segment]
  else if segment ≠ parentSegment then left
  else if left.getLast?.any isName then left.dropLast
  else if absolute then left
  else left ++ [segment]

/-- What a path says: whether it starts at the root, and which segments are left of it. -/
structure NormalPath where
  absolute : Bool
  segments : List (List Char)
  deriving DecidableEq

/-- Read a path without looking at any tree. -/
def normalize (path : List Char) : NormalPath :=
  ⟨isAbsolute path, (segments path).foldl (normalStep (isAbsolute path)) []⟩

/-! ## Names that are taken back -/

section Names

variable {path : List Char} {absolute : Bool} {left front rest : List (List Char)}

theorem isName_parentSegment : isName parentSegment = false := by decide

theorem normalStep_normalStep_parentSegment {name : List Char} (named : isName name = true) :
    normalStep absolute (normalStep absolute left name) parentSegment = left := by
  have written : normalStep absolute left name = left ++ [name] := by rw [normalStep, if_pos named]
  rw [written]
  simp [normalStep, isName_parentSegment, named]

/-- As long as only names are taken back, the segments that are kept say what all of them say. -/
theorem foldl_normalStep_retrace
    (names : ∀ segment ∈ (retrace front rest).taken, isName segment = true) :
    (retrace front rest).kept.foldl (normalStep absolute) [] =
      rest.foldl (normalStep absolute) (front.foldl (normalStep absolute) []) := by
  induction rest generalizing front with
  | nil => rfl
  | cons segment rest ih =>
      rcases retrace_cons front segment rest with ⟨others, top, rfl, rfl, taken⟩ | kept
      · rw [taken, List.forall_mem_cons] at names
        rw [taken, ih names.2, List.foldl_cons, List.foldl_append, List.foldl_cons, List.foldl_nil,
          normalStep_normalStep_parentSegment names.1]
      · rw [kept] at names ⊢
        rw [ih names, List.foldl_append, List.foldl_cons, List.foldl_nil, List.foldl_cons]

/-- A path starts at the root if its first segment is empty and not the only one. -/
theorem isAbsolute_eq_true_iff :
    isAbsolute path = true ↔ ∃ others, segments path = [] :: others ∧ others ≠ [] := by
  rw [isAbsolute, decide_eq_true_eq]
  cases path with
  | nil => simp [segments]
  | cons character rest =>
      simp only [List.head?_cons, Option.some.injEq]
      constructor
      · rintro rfl
        exact ⟨segments rest, segments_append_separator [] rest, segments_ne_nil rest⟩
      · rintro ⟨others, parts, -⟩
        refine Decidable.byContradiction fun other => ?_
        obtain ⟨first, more, split⟩ := List.exists_cons_of_ne_nil (segments_ne_nil rest)
        rw [segments] at split parts
        rw [List.splitOn_cons_eq_if_modifyHead, if_neg (by simpa using other), split] at parts
        cases parts

theorem head?_kept_retrace (rooted : front.head? = some [])
    (names : ∀ segment ∈ (retrace front rest).taken, isName segment = true) :
    (retrace front rest).kept.head? = some [] := by
  induction rest generalizing front with
  | nil => exact rooted
  | cons segment rest ih =>
      rcases retrace_cons front segment rest with ⟨others, top, rfl, rfl, taken⟩ | kept
      · rw [taken, List.forall_mem_cons] at names
        rw [taken]
        refine ih ?_ names.2
        cases others with
        | nil =>
            obtain rfl : top = [] := Option.some.inj rooted
            exact absurd names.1 (by decide)
        | cons => exact rooted
      · rw [kept] at names ⊢
        refine ih ?_ names
        rw [List.head?_append, rooted, Option.some_or]

theorem isAbsolute_collapse (absolute : isAbsolute path = true)
    (names : ∀ segment ∈ (retracing path).taken, isName segment = true) :
    isAbsolute (collapse ['/'] path) = true := by
  obtain ⟨others, parts, behind⟩ := isAbsolute_eq_true_iff.mp absolute
  have retraced : retracing path = retrace [[]] others.dropLast := by
    rw [retracing, parts, List.dropLast_cons_of_ne_nil behind, retrace_nil_cons]
  rw [retraced] at names
  obtain ⟨more, kept⟩ := List.head?_eq_some_iff.mp (head?_kept_retrace rfl names)
  refine isAbsolute_eq_true_iff.mpr ⟨more ++ (segments path).getLast?.toList, ?_, ?_⟩
  · rw [segments_collapse, retraced, kept, List.cons_append]
  · simp [List.getLast?_eq_some_getLast (segments_ne_nil path)]

end Names

/-! ## How far down a relative path leads -/

section Depth

variable {path : List Char} {left front rest : List (List Char)}

/-- How many levels lie between the place where a segment leads to and the place that its name
would lead to. -/
def loss (segment : List Char) : Nat :=
  if isName segment then 0 else if segment = parentSegment then 2 else 1

/-- How many levels down segments lead. -/
def depth : List (List Char) → Int
  | [] => 0
  | segment :: rest => 1 - (loss segment : Int) + depth rest

theorem depth_singleton (segment : List Char) : depth [segment] = 1 - (loss segment : Int) :=
  Int.add_zero _

theorem depth_append (front rest : List (List Char)) :
    depth (front ++ rest) = depth front + depth rest := by
  induction front with
  | nil => exact (Int.zero_add _).symm
  | cons segment front ih => rw [List.cons_append, depth, depth, ih, Int.add_assoc]

theorem loss_eq_zero_iff {segment : List Char} : loss segment = 0 ↔ isName segment = true := by
  rw [loss]
  split
  · simp_all
  · split <;> simp_all

theorem depth_le_length (segments : List (List Char)) : depth segments ≤ segments.length := by
  induction segments with
  | nil => exact Int.le_refl 0
  | cons segment rest ih =>
      rw [depth, List.length_cons]
      omega

theorem depth_eq_length_iff {segments : List (List Char)} :
    depth segments = segments.length ↔ ∀ segment ∈ segments, isName segment = true := by
  induction segments with
  | nil => simp [depth]
  | cons segment rest ih =>
      have most := depth_le_length rest
      rw [List.forall_mem_cons, ← ih, ← loss_eq_zero_iff, depth, List.length_cons]
      omega

theorem depth_normalStep (segment : List Char) :
    depth (normalStep false left segment) = depth left + (1 - (loss segment : Int)) := by
  rw [normalStep]
  split
  case isTrue => rw [depth_append, depth_singleton]
  case isFalse unnamed =>
    split
    case isTrue blank =>
      have one : loss segment = 1 := by simp [loss, unnamed, blank]
      omega
    case isFalse step =>
      have two : loss segment = 2 := by simp_all [loss]
      split
      case isTrue inFront =>
        obtain ⟨last, found, named⟩ := (Option.any_eq_true _ _).mp inFront
        obtain ⟨others, rfl⟩ := List.getLast?_eq_some_iff.mp found
        have none := loss_eq_zero_iff.mpr named
        rw [List.dropLast_concat, depth_append, depth_singleton]
        omega
      case isFalse =>
        rw [if_neg (by decide), depth_append, depth_singleton]

theorem depth_normalize (relative : isAbsolute path = false) :
    depth (normalize path).segments = depth (segments path) := by
  have read (segments left : List (List Char)) :
      depth (segments.foldl (normalStep false) left) = depth left + depth segments := by
    induction segments generalizing left with
    | nil => exact (Int.add_zero _).symm
    | cons segment rest ih => rw [List.foldl_cons, ih, depth_normalStep, depth, Int.add_assoc]
  rw [normalize, relative, read]
  exact Int.zero_add _

/-- A name that is taken back goes with a parent step, which costs nothing; what another segment
falls short of a name is gained by those that are kept. -/
theorem depth_retrace (front rest : List (List Char)) :
    depth (retrace front rest).kept + depth (retrace front rest).taken =
      depth front + depth rest + (retrace front rest).taken.length := by
  induction rest generalizing front with
  | nil => simp [retrace, depth]
  | cons segment rest ih =>
      rcases retrace_cons front segment rest with ⟨others, top, rfl, rfl, taken⟩ | kept
      · have two : loss parentSegment = 2 := by decide
        have onward := ih others
        simp only [taken, depth_append, depth, List.length_cons, two]
        omega
      · have onward := ih (front ++ [segment])
        rw [depth_append, depth_singleton] at onward
        rw [kept, depth]
        omega

end Depth

/-- An absolute path still says the same when it is collapsed, if all segments that parent steps
take back are names.  A relative path still says the same exactly if they are and it has not
become absolute. -/
theorem normalize_collapse (path : List Char) :
    (isAbsolute path = true → (∀ segment ∈ (retracing path).taken, isName segment = true) →
        normalize (collapse ['/'] path) = normalize path) ∧
      (isAbsolute path = false →
        (normalize (collapse ['/'] path) = normalize path ↔
          (∀ segment ∈ (retracing path).taken, isName segment = true) ∧
            isAbsolute (collapse ['/'] path) = false)) := by
  have parts : segments path = (segments path).dropLast ++ (segments path).getLast?.toList := by
    rw [List.getLast?_eq_some_getLast (segments_ne_nil path), Option.toList_some,
      List.dropLast_concat_getLast]
  have same (names : ∀ segment ∈ (retracing path).taken, isName segment = true)
      (kind : isAbsolute (collapse ['/'] path) = isAbsolute path) :
      normalize (collapse ['/'] path) = normalize path := by
    rw [normalize, normalize, kind, segments_collapse, List.foldl_append, retracing,
      foldl_normalStep_retrace names, List.foldl_nil, ← List.foldl_append, ← parts]
  refine ⟨fun absolute names => same names ?_, fun relative => ⟨fun equal => ?_, ?_⟩⟩
  · rw [isAbsolute_collapse absolute names, absolute]
  · have still : isAbsolute (collapse ['/'] path) = false :=
      (congrArg NormalPath.absolute equal).trans relative
    have level : depth (segments (collapse ['/'] path)) = depth (segments path) := by
      rw [← depth_normalize still, ← depth_normalize relative, equal]
    -- no depth has been lost, so nothing that was taken back fell short of a name
    have whole := congrArg depth parts
    have lost := depth_retrace [] (segments path).dropLast
    have nothing : depth [] = 0 := rfl
    rw [segments_collapse, depth_append, retracing] at level
    rw [depth_append] at whole
    have full : depth (retracing path).taken = (retracing path).taken.length := by
      rw [retracing]
      omega
    exact ⟨depth_eq_length_iff.mp full, still⟩
  · rintro ⟨names, still⟩
    exact same names (still.trans relative.symm)

theorem normalize_collapse_names :
    isAbsolute "/x/y/z/../../w.c".toList = true ∧
      (retracing "/x/y/z/../../w.c".toList).taken = ["z".toList, "y".toList] ∧
      normalize (collapse ['/'] "/x/y/z/../../w.c".toList) = normalize "/x/y/z/../../w.c".toList ∧
      isAbsolute "a/../../b/../c".toList = false ∧
      (retracing "a/../../b/../c".toList).taken = ["a".toList, "b".toList] ∧
      normalize (collapse ['/'] "a/../../b/../c".toList) = normalize "a/../../b/../c".toList := by
  have absolute : isAbsolute "/x/y/z/../../w.c".toList = true := by cbv
  have taken : (retracing "/x/y/z/../../w.c".toList).taken = ["z".toList, "y".toList] := by
    cbv
  have relative : isAbsolute "a/../../b/../c".toList = false := by cbv
  have takenThere : (retracing "a/../../b/../c".toList).taken = ["a".toList, "b".toList] := by
    cbv
  refine ⟨absolute, taken, (normalize_collapse _).1 absolute ?_, relative, takenThere,
    ((normalize_collapse _).2 relative).mpr ⟨?_, by cbv⟩⟩
  · rw [taken]
    decide
  · rw [takenThere]
    decide

/-- Of these paths the first loses its root, the next three an empty segment, `.` and `..`, and
the last one becomes absolute. -/
theorem not_normalize_collapse :
    normalize (collapse ['/'] "/../a".toList) ≠ normalize "/../a".toList ∧
      normalize (collapse ['/'] "a//../b".toList) ≠ normalize "a//../b".toList ∧
      normalize (collapse ['/'] "./../a".toList) ≠ normalize "./../a".toList ∧
      normalize (collapse ['/'] "../../a".toList) ≠ normalize "../../a".toList ∧
      normalize (collapse ['/'] "a/..//b".toList) ≠ normalize "a/..//b".toList := by
  refine ⟨?_, ?_, ?_, ?_, ?_⟩ <;> (cbv; simp)

end SourcePath
end DebugIndex
