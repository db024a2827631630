import DebugIndex.Proofs.SourcePath.NormalForm

/-!
# Collapsing by segments

Between the `/` of a path stand its segments.  Collapsing reads them from left to right: a
segment is kept until a parent step behind it takes it back, whatever segment it is.  Only the
first segment that is kept can be a parent step itself, for nothing is in front of it to be
taken back, and the last segment of the path is always kept, for no separator ends it.
-/

namespace DebugIndex
namespace SourcePath

/-- What stands between the separators of a path on a `/` host. -/
def segments (path : List Char) : List (List Char) :=
  path.splitOn '/'

def parentSegment : List Char := ['.', '.']

/-- What becomes of segments: those that stay, and those that parent steps take back, in the
order of the steps. -/
structure Retracing where
  kept : List (List Char)
  taken : List (List Char)

/-- Read segments behind those that are kept so far. -/
def retrace (front : List (List Char)) : List (List Char) → Retracing
  | [] => ⟨front, []⟩
  | segment :: rest =>
      if segment = parentSegment ∧ front ≠ [] then
        let onward := retrace front.dropLast rest
        ⟨onward.kept, front.getLast?.toList ++ onward.taken⟩
      else retrace (front ++ [segment]) rest

/-- What becomes of the segments of a path that have a separator behind them. -/
def retracing (path : List Char) : Retracing :=
  retrace [] (segments path).dropLast

/-! ## Segments of a path -/

section Segments

variable {path : List Char} {front rest : List (List Char)}

theorem segments_ne_nil (path : List Char) : segments path ≠ [] :=
  List.splitOn_ne_nil '/' path

theorem segments_append_separator (before behind : List Char) :
    segments (before ++ '/' :: behind) = segments before ++ segments behind :=
  List.splitOn_append_cons_self before behind

theorem segments_of_notMem (single : '/' ∉ path) : segments path = [path] :=
  List.splitOn_eq_singleton single

theorem segments_parentSegment : segments parentSegment = [parentSegment] :=
  segments_of_notMem (by decide)

theorem segments_append_parentStep (before behind : List Char) :
    segments (before ++ (parentStep ['/'] ++ behind)) =
      segments before ++ parentSegment :: segments behind := by
  change segments (before ++ '/' :: (parentSegment ++ '/' :: behind)) = _
  rw [segments_append_separator, segments_append_separator, segments_parentSegment,
    List.singleton_append]

theorem getLast?_segments_append (front : List (List Char)) (path : List Char) :
    (front ++ segments path).getLast? = (segments path).getLast? := by
  rw [List.getLast?_append, List.getLast?_eq_some_getLast (segments_ne_nil path), Option.some_or]

theorem intercalate_append (inFront : front ≠ []) (behind : rest ≠ []) :
    ['/'].intercalate (front ++ rest) =
      ['/'].intercalate front ++ '/' :: ['/'].intercalate rest := by
  induction front with
  | nil => exact absurd rfl inFront
  | cons segment others ih =>
      rw [List.cons_append,
        List.intercalate_cons_of_ne_nil (List.append_ne_nil_of_right_ne_nil _ behind)]
      by_cases alone : others = []
      · simp [alone]
      · simp [ih alone, List.intercalate_cons_of_ne_nil alone]

theorem parentStep_infix_of_segments (inFront : front ≠ []) (behind : rest ≠ [])
    (parts : segments path = front ++ parentSegment :: rest) :
    parentStep ['/'] <:+: path := by
  refine ⟨['/'].intercalate front, ['/'].intercalate rest, ?_⟩
  calc
    ['/'].intercalate front ++ parentStep ['/'] ++ ['/'].intercalate rest =
        ['/'].intercalate front ++ '/' :: ['/'].intercalate (parentSegment :: rest) := by
      simp [List.intercalate_cons_of_ne_nil behind, parentStep, parentSegment]
    _ = ['/'].intercalate (segments path) := by
      rw [parts, intercalate_append inFront (List.cons_ne_nil _ _)]
    _ = path := List.intercalate_splitOn '/'

theorem parentSegment_notMem_of_noParentStep {last : List Char}
    (parts : segments path = front ++ [last]) (none : ¬ parentStep ['/'] <:+: path) :
    parentSegment ∉ front.tail := by
  intro occurs
  obtain ⟨between, behind, split⟩ := List.append_of_mem occurs
  cases front with
  | nil => cases occurs
  | cons first others =>
      rw [List.tail_cons] at split
      refine none (parentStep_infix_of_segments (List.cons_ne_nil first between)
        (List.append_ne_nil_of_right_ne_nil behind (List.cons_ne_nil last [])) ?_)
      rw [parts, split]
      simp

end Segments

/-! ## The directory in front of a parent step -/

theorem findLast?_singleton (mark : Char) (text : List Char) :
    mark ∉ text ∧ findLast? [mark] text = none ∨
      ∃ front last, text = front ++ mark :: last ∧ mark ∉ last ∧
        findLast? [mark] text = some front.length := by
  induction text with
  | nil => exact .inl ⟨List.not_mem_nil, rfl⟩
  | cons character rest ih =>
      rcases ih with ⟨absent, found⟩ | ⟨front, last, split, absent, found⟩
      · by_cases marked : mark = character
        · subst marked
          exact .inr ⟨[], rest, rfl, absent, by simp [findLast?, found]⟩
        · refine .inl ⟨by simp [marked, absent], ?_⟩
          simp [findLast?, found, marked]
      · refine .inr ⟨character :: front, last, by rw [split, List.cons_append], absent, ?_⟩
        simp [findLast?, found]

/-- The last segment of a path can be exchanged, and begins behind the last separator. -/
theorem exists_lastSegment (path : List Char) :
    ∃ before last, path = before ++ last ∧ upTo (findLast? ['/'] path) = before.length ∧
      ∃ front, segments path = front ++ [last] ∧
        ∀ other, segments (before ++ other) = front ++ segments other := by
  rcases findLast?_singleton '/' path with ⟨absent, found⟩ | ⟨before, last, rfl, absent, found⟩
  · exact ⟨[], path, rfl, by rw [found]; rfl, [], segments_of_notMem absent, fun other => rfl⟩
  · refine ⟨before ++ ['/'], last, by simp, by simp [found, upTo], segments before, ?_, ?_⟩
    · rw [segments_append_separator, segments_of_notMem absent]
    · intro other
      rw [List.append_assoc, List.singleton_append, segments_append_separator]

/-! ## Segments taken back -/

section Retracing

variable {path shorter : List Char} {front more rest : List (List Char)}

theorem retrace_parentSegment (top : List Char) :
    retrace (front ++ [top]) (parentSegment :: rest) =
      ⟨(retrace front rest).kept, top :: (retrace front rest).taken⟩ := by
  rw [retrace, if_pos ⟨rfl, List.concat_ne_nil top front⟩, List.dropLast_concat]
  simp

theorem retrace_cons (front : List (List Char)) (segment : List Char) (rest : List (List Char)) :
    (∃ others top, front = others ++ [top] ∧ segment = parentSegment ∧
        retrace front (segment :: rest) =
          ⟨(retrace others rest).kept, top :: (retrace others rest).taken⟩) ∨
      retrace front (segment :: rest) = retrace (front ++ [segment]) rest := by
  by_cases step : segment = parentSegment ∧ front ≠ []
  · obtain ⟨rfl, filled⟩ := step
    rw [← List.dropLast_concat_getLast filled]
    exact .inl ⟨_, _, rfl, rfl, retrace_parentSegment _⟩
  · exact .inr (by rw [retrace, if_neg step])

theorem retrace_of_ne {segment : List Char} (ordinary : segment ≠ parentSegment) :
    retrace front (segment :: rest) = retrace (front ++ [segment]) rest := by
  rw [retrace, if_neg (fun step => ordinary step.1)]

theorem retrace_nil_cons (segment : List Char) :
    retrace [] (segment :: rest) = retrace [segment] rest := by
  rw [retrace, if_neg (fun step => step.2 rfl), List.nil_append]

theorem retrace_append (ordinary : parentSegment ∉ more) :
    retrace front (more ++ rest) = retrace (front ++ more) rest := by
  induction more generalizing front with
  | nil => rw [List.nil_append, List.append_nil]
  | cons segment more ih =>
      rw [List.mem_cons, not_or] at ordinary
      rw [List.cons_append, retrace_of_ne (Ne.symm ordinary.1), ih ordinary.2, List.append_assoc,
        List.singleton_append]

theorem retrace_nil_append (ordinary : parentSegment ∉ front.tail) :
    retrace [] (front ++ rest) = retrace front rest := by
  cases front with
  | nil => rfl
  | cons first others =>
      rw [List.cons_append, retrace_nil_cons, retrace_append (by exact ordinary),
        List.singleton_append]

/-- A round takes out a directory together with the first parent step, which is the one behind
it. -/
theorem exists_directory_of_collapseOnce? (round : collapseOnce? ['/'] path = some shorter) :
    ∃ before directory behind,
      path = before ++ directory ++ (parentStep ['/'] ++ behind) ∧ shorter = before ++ behind ∧
        ¬ parentStep ['/'] <:+: before ++ directory ++ (parentStep ['/']).dropLast ∧
        ∃ front, segments (before ++ directory) = front ++ [directory] ∧
          ∀ other, segments (before ++ other) = front ++ segments other := by
  rw [collapseOnce?] at round
  cases found : find? (parentStep ['/']) path with
  | none => simp [found] at round
  | some index =>
      obtain ⟨front, behind, rfl, rfl, first⟩ := exists_append_of_find? (by decide) found
      obtain ⟨before, directory, split, cut, parts⟩ := exists_lastSegment front
      have keeps : kept ['/'] (front ++ (parentStep ['/'] ++ behind)) front.length =
          before.length := by
        rw [kept, List.take_left, if_neg (by decide), cut]
      simp only [found, keeps, Option.some.injEq] at round
      rw [← List.drop_drop, List.drop_left, List.drop_left, split, List.append_assoc,
        List.take_left] at round
      exact ⟨before, directory, behind, by rw [split], round.symm, by rw [← split]; exact first,
        by rw [← split]; exact parts⟩

/-- The directory that a round takes out is the first segment that a parent step takes back. -/
theorem retracing_of_collapseOnce? (round : collapseOnce? ['/'] path = some shorter) :
    (∃ before directory behind,
      path = before ++ directory ++ (parentStep ['/'] ++ behind) ∧ shorter = before ++ behind ∧
        retracing path =
          ⟨(retracing shorter).kept, directory :: (retracing shorter).taken⟩) ∧
      (segments path).getLast? = (segments shorter).getLast? := by
  obtain ⟨before, directory, behind, rfl, rfl, first, front, parts, exchanged⟩ :=
    exists_directory_of_collapseOnce? round
  have upToStep : segments (before ++ directory ++ (parentStep ['/']).dropLast) =
      front ++ [directory] ++ [parentSegment] := by
    change segments (before ++ directory ++ '/' :: parentSegment) = _
    rw [segments_append_separator, parts, segments_parentSegment]
  have ordinary := parentSegment_notMem_of_noParentStep upToStep first
  have ordinaryFront : parentSegment ∉ front.tail := by
    intro occurs
    cases front with
    | nil => cases occurs
    | cons => exact ordinary (List.mem_append_left _ occurs)
  constructor
  · refine ⟨before, directory, behind, rfl, rfl, ?_⟩
    rw [retracing, retracing, segments_append_parentStep, parts, exchanged,
      List.dropLast_append_of_ne_nil (List.cons_ne_nil _ _),
      List.dropLast_cons_of_ne_nil (segments_ne_nil behind), retrace_nil_append ordinary,
      retrace_parentSegment, List.dropLast_append_of_ne_nil (segments_ne_nil behind),
      retrace_nil_append ordinaryFront]
  · rw [segments_append_parentStep, exchanged behind, List.append_cons, getLast?_segments_append,
      getLast?_segments_append]

theorem retracing_of_isCollapsed (collapsed : IsCollapsed ['/'] path) :
    retracing path = ⟨(segments path).dropLast, []⟩ := by
  have parts := (List.dropLast_concat_getLast (segments_ne_nil path)).symm
  have ordinary := parentSegment_notMem_of_noParentStep parts collapsed.noParentStep
  rw [retracing, ← List.append_nil (segments path).dropLast, retrace_nil_append ordinary]
  simp [retrace]

/-- Collapsing a path keeps the segments that no parent step takes back, and the last one. -/
theorem segments_collapse (path : List Char) :
    segments (collapse ['/'] path) = (retracing path).kept ++ (segments path).getLast?.toList := by
  induction path using collapse.induct ['/'] with
  | case1 path shorter round ih =>
      obtain ⟨⟨before, directory, behind, -, -, retraced⟩, last⟩ :=
        retracing_of_collapseOnce? round
      rw [collapse_of_some round, ih, retraced, last]
  | case2 path ended =>
      rw [collapse_of_none ended, retracing_of_isCollapsed (collapseOnce?_eq_none_iff.mp ended),
        List.getLast?_eq_some_getLast (segments_ne_nil path), Option.toList_some,
        List.dropLast_concat_getLast]

end Retracing

end SourcePath
end DebugIndex
