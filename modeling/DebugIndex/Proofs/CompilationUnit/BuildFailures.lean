import DebugIndex.Proofs.CompilationUnit.InterruptedReading
import DebugIndex.Proofs.Database.LineTexts
import DebugIndex.Proofs.Report.Failures

/-!
# What a build can fail with

Under the settings that hold by default, nearly all that a reader fails with is tolerated:
the build goes on with what it has.  There are two exceptions.  Nothing stands around the
reading of the top entry, so whatever the reader fails with there is what the build fails
with.  And a unit without source text asks for as many lines as the last row of its last
function says, which can be more than there is memory for, or more than can be counted.
-/

namespace DebugIndex

namespace UnitSource

/-- The faults that cut short the rows of a unit, the children of its top entry, and the
children of these. -/
def streamFaults (source : UnitSource) : List Fault :=
  source.faults ++ source.children.filterMap fun entry => entry.children.fault

/-- Whether there is room for as many lines as any row says. -/
def LinesCountable (source : UnitSource) (mostLines : Nat) : Prop :=
  ∀ row ∈ source.rows.items, BuildContext.isIndexCount row.2 = true ∧ row.2 ≤ mostLines

end UnitSource

namespace BuildContext

open CompilationUnit Extraction

/-- What a count of lines that is too large, or too small to be a count, leads to. -/
def IsLineFailure (context : BuildContext) (count : Int) (failure : Failure) : Prop :=
  (isIndexCount count = false ∧ failure = .lineCount count) ∨
    (context.mostLines < count ∧ failure = .reader ⟨.outOfMemory, ""⟩)

variable {context : BuildContext} {source : UnitSource} {allowed : Failure → Prop}

/-! ## The stages in front of the lines -/

theorem failsOnlyWith_tolerate {fault : Option Fault} {event : String → Event}
    (tolerable : ∀ given ∈ fault.toList, given.isFatal = false) :
    (tolerate fault event).FailsOnlyWith allowed := by
  rw [tolerate_of_tolerable tolerable]
  exact .of_ok rfl

theorem isShort_directoryOf {files : FileSystem} {separator : List Char} {filename : String}
    {directory : Option String} {searchPaths : List Value}
    (shown : ∀ path ∈ searchPaths, path.isShort = true) :
    (SourcePath.directoryOf files separator filename directory searchPaths).isShort = true := by
  cases directory with
  | some known => rfl
  | none =>
      simp only [SourcePath.directoryOf]
      cases found : SourcePath.probe? files separator filename searchPaths with
      | none => rfl
      | some path => exact shown path (List.mem_of_find?_eq_some found)

theorem exists_load?_latin1 (codecs : Text.Codecs) (files : FileSystem) (path : String) :
    ∃ loaded, SourceText.load? codecs files path (.text "latin-1") = .ok loaded := by
  simp only [SourceText.load?]
  cases files.read path with
  | error failure => exact ⟨none, rfl⟩
  | ok content =>
      simp only [SourceText.ofBytes, SourceText.codecOf_latin1]
      split <;> exact ⟨_, rfl⟩

theorem failsOnlyWith_header (usual : context.settings = {})
    (shown : ∀ path ∈ context.searchPaths, path.isShort = true) (top : Entry) :
    (context.header source top).FailsOnlyWith allowed := by
  have directoryShort : (context.locationOf top).directory.isShort = true :=
    isShort_directoryOf shown
  simp only [header]
  split
  · simp only [loadSource, directoryShort, Bool.not_true, Bool.false_eq_true, if_false, usual]
    split
    · obtain ⟨loaded, read⟩ :=
        exists_load?_latin1 context.codecs context.files (context.locationOf top).fullPath
      rw [read]
      cases loaded <;> exact .of_ok rfl
    · exact .of_ok rfl
  · exact .of_ok rfl

theorem failsOnlyWith_readRows
    (tolerable : ∀ fault ∈ source.rows.fault.toList, fault.isFatal = false)
    (unit : CompilationUnit) : (readRows source unit).FailsOnlyWith allowed := by
  rw [readRows_of_tolerable tolerable]
  exact .map (.of_ok rfl) _

/-- An entry that can not be read because of its children has children that can not be
read. -/
theorem fault_of_malformation? {byteOrder : Option ByteOrder} {entry : Entry} {fault : Fault}
    (malformed : malformation? byteOrder entry = some (.children fault)) :
    entry.children.fault = some fault := by
  simp only [malformation?] at malformed
  split at malformed
  · split at malformed <;> cases malformed
  · split at malformed
    · obtain ⟨given, faulty, same⟩ := Option.map_eq_some_iff.mp malformed
      obtain rfl := EntryError.children.inj same
      exact faulty
    · cases malformed

theorem failsOnlyWith_addEntry {byteOrder : Option ByteOrder} {entry : Entry}
    (tolerable : ∀ fault, entry.children.fault = some fault → fault.isFatal = false)
    (unit : CompilationUnit) : (addEntry byteOrder unit entry).FailsOnlyWith allowed := by
  rw [addEntry_eq]
  refine .map ?_ _
  simp only [remark]
  cases contributed :
      (outcomeOf byteOrder unit.offset unit.rows entry).contribution with
  | ok contribution => cases contribution <;> exact .of_ok rfl
  | error reason =>
      cases reason with
      | unknownByteOrder => exact .of_ok rfl
      | children fault =>
          have faulty := fault_of_malformation?
            (contribution_outcomeOf_eq_error_iff.mp contributed)
          refine failsOnlyWith_tolerate fun given member => ?_
          obtain rfl := Option.some.inj (Option.mem_toList.mp member)
          exact tolerable _ faulty

theorem failsOnlyWith_addEntries {byteOrder : Option ByteOrder} {entries : List Entry}
    (tolerable : ∀ entry ∈ entries, ∀ fault, entry.children.fault = some fault →
      fault.isFatal = false) (unit : CompilationUnit) :
    (addEntries byteOrder unit entries).FailsOnlyWith allowed := by
  induction entries generalizing unit with
  | nil => exact .of_ok rfl
  | cons entry rest ih =>
      obtain ⟨first, others⟩ := List.forall_mem_cons.mp tolerable
      exact .bind (failsOnlyWith_addEntry first unit) fun added _ => ih others added

/-! ## The lines -/

/-- A unit without source text asks for as many lines as some row of its line table says,
or for none. -/
theorem placeholderCount_of_sliced {unit : CompilationUnit} (sliced : unit.Sliced) :
    unit.placeholderCount = 0 ∨ ∃ row ∈ unit.rows, row.line = unit.placeholderCount := by
  simp only [placeholderCount]
  cases lastRow : unit.subprograms.getLast?.bind fun subprogram => subprogram.rows.getLast? with
  | none => exact Or.inl rfl
  | some row =>
      obtain ⟨subprogram, last, ends⟩ := Option.bind_eq_some_iff.mp lastRow
      have inFunction : row ∈ subprogram.rows := List.mem_of_getLast? ends
      rw [sliced subprogram (List.mem_of_getLast? last)] at inFunction
      exact Or.inr ⟨row, (mem_slice.mp inFunction).1, rfl⟩

theorem failsOnlyWith_bindLines {unit : CompilationUnit} (sliced : unit.Sliced)
    (lines : List String) :
    (context.bindLines unit lines).FailsOnlyWith fun failure =>
      ∃ row ∈ unit.rows, context.IsLineFailure row.line failure := by
  have counted : ∀ {failure}, context.IsLineFailure unit.placeholderCount failure →
      ∃ row ∈ unit.rows, context.IsLineFailure row.line failure := by
    intro failure fails
    rcases placeholderCount_of_sliced sliced with none | ⟨row, member, called⟩
    · rw [none] at fails
      rcases fails with ⟨uncounted, -⟩ | ⟨many, -⟩
      · cases uncounted
      · omega
    · exact ⟨row, member, called ▸ fails⟩
  intro failure failed
  simp only [bindLines] at failed
  split at failed
  · cases failed
  · split at failed
    case isTrue uncounted =>
      obtain rfl := Except.error.inj failed
      exact counted (Or.inl ⟨by simpa using uncounted, rfl⟩)
    case isFalse =>
      split at failed
      case isTrue many =>
        obtain rfl := Except.error.inj failed
        exact counted (Or.inr ⟨many, rfl⟩)
      case isFalse => cases failed

/-! ## The types -/

/-- Under the usual settings there is a bound for everything that needs one. -/
theorem missingBound?_of_usual (usual : context.settings = {}) (types : TypeTable)
    (item : Variable) : context.missingBound? types item = none := by
  have stepsBounded : ¬ Bound.ofValue context.settings.maxSteps = .notNumber := by
    rw [usual]
    decide
  have depthBounded : ¬ Bound.ofValue context.settings.maxDepth = .notNumber := by
    rw [usual]
    decide
  simp only [missingBound?, stepsBounded, depthBounded, false_and, if_false]
  split <;> rfl

theorem failsOnlyWith_resolveVariable (usual : context.settings = {}) (types : TypeTable)
    (item : Variable) : (context.resolveVariable types item).FailsOnlyWith allowed := by
  have stepsShort : context.settings.maxSteps.isShort = true := by
    rw [usual]
    decide +kernel
  simp only [resolveVariable, missingBound?_of_usual usual]
  refine .bind (.each ?_) fun _ _ => .of_ok rfl
  intro notice _
  cases notice with
  | truncated name typeOffset typeName =>
      simp only [tell, stepsShort, if_true]
      exact .of_ok rfl
  | collapsed name depth => exact .of_ok rfl

theorem failsOnlyWith_resolveTypes (usual : context.settings = {}) (unit : CompilationUnit) :
    (context.resolveTypes unit).FailsOnlyWith allowed := by
  refine .bind (.each fun item _ => failsOnlyWith_resolveVariable usual _ item) fun _ _ => ?_
  refine .bind (.each fun subprogram _ => ?_) fun _ _ => .of_ok rfl
  exact .bind (.each fun item _ => failsOnlyWith_resolveVariable usual _ item) fun _ _ => .of_ok rfl

/-! ## The whole build -/

theorem exists_of_mem_withTable {unit : CompilationUnit} (noRows : unit.rows = [])
    {row : LineRow} (member : row ∈ (withTable source unit).rows) :
    ∃ pair ∈ source.rows.items, row.line = pair.2 := by
  simp only [withTable] at member
  split at member
  · obtain ⟨pair, listed, rfl⟩ := List.mem_map.mp member
    exact ⟨pair, listed, rfl⟩
  · rw [noRows] at member
    cases member

/-- A build whose reader fails in streams only, and with nothing but what is tolerated
there, can only fail with a count of lines. -/
theorem failsOnlyWith_build (usual : context.settings = {})
    (shown : ∀ path ∈ context.searchPaths, path.isShort = true) {top : Entry}
    (fetched : source.top = .ok top)
    (tolerable : ∀ fault ∈ source.streamFaults, fault.isFatal = false) :
    (context.build source).FailsOnlyWith fun failure =>
      ∃ row ∈ source.rows.items, context.IsLineFailure row.2 failure := by
  have streams : ∀ fault ∈ source.faults, fault.isFatal = false :=
    fun fault member => tolerable fault (List.mem_append_left _ member)
  have rowsTolerable : ∀ fault ∈ source.rows.fault.toList, fault.isFatal = false :=
    fun fault member => streams fault (List.mem_append_left _ member)
  have childrenTolerable : ∀ fault ∈ top.children.fault.toList, fault.isFatal = false := by
    intro fault member
    refine streams fault (List.mem_append_right _ ?_)
    rwa [UnitSource.childrenFault?, fetched]
  have entriesTolerable : ∀ entry ∈ top.children.items, ∀ fault,
      entry.children.fault = some fault → fault.isFatal = false := by
    intro entry member fault faulty
    refine tolerable fault (List.mem_append_right _ (List.mem_filterMap.mpr ⟨entry, ?_, faulty⟩))
    rwa [UnitSource.children, fetched]
  simp only [build, fetched, Report.ofExcept_ok, Report.bind_pure]
  refine .bind (failsOnlyWith_header usual shown top) fun headed described => ?_
  refine .bind (failsOnlyWith_readRows rowsTolerable _) fun tabled read => ?_
  refine .bind (.bind (failsOnlyWith_addEntries entriesTolerable _) fun _ _ =>
    .bind (failsOnlyWith_tolerate childrenTolerable) fun _ _ => .of_ok rfl)
      fun filled absorbed => ?_
  refine .bind ?_ fun lined _ =>
    .bind (failsOnlyWith_resolveTypes usual lined) fun _ _ => .of_ok rfl
  -- only the lines are left, and they are counted by rows that have been read
  have bare := isBare_of_header described
  obtain rfl := eq_of_readRows read
  obtain rfl := eq_of_readEntries absorbed
  have tabledSliced : (withTable source headed.1).Sliced := by
    simp [Sliced, subprograms_withTable, bare.subprograms]
  intro failure failed
  obtain ⟨row, member, fails⟩ :=
    failsOnlyWith_bindLines (tabledSliced.foldl_absorb source.byteOrder _) _ failure failed
  rw [rows_foldl_absorb] at member
  obtain ⟨pair, listed, called⟩ := exists_of_mem_withTable bare.rows member
  exact ⟨pair, listed, called ▸ fails⟩

/-- Whatever the reader fails with when the top entry is fetched, the build fails with. -/
theorem outcome_build_of_top_error {fault : Fault} (failed : source.top = .error fault) :
    (context.build source).outcome = .error (.reader fault) := by
  simp only [build, failed, Report.ofExcept_error, Report.bind_fail]
  rfl

theorem not_isLineFailure_of_countable (countable : source.LinesCountable context.mostLines)
    {failure : Failure} : ¬ ∃ row ∈ source.rows.items, context.IsLineFailure row.2 failure := by
  rintro ⟨row, member, ⟨uncounted, -⟩ | ⟨many, -⟩⟩
  · rw [(countable row member).1] at uncounted
    cases uncounted
  · exact Int.not_le.mpr many (countable row member).2

theorem exists_build_iff (usual : context.settings = {})
    (shown : ∀ path ∈ context.searchPaths, path.isShort = true)
    (tolerable : ∀ fault ∈ source.streamFaults, fault.isFatal = false)
    (countable : source.LinesCountable context.mostLines) :
    (∃ unit, (context.build source).outcome = .ok unit) ↔ ∃ top, source.top = .ok top := by
  constructor
  · rintro ⟨unit, built⟩
    obtain ⟨top, -, fetched, -⟩ := stages_of_build built
    exact ⟨top, fetched⟩
  · rintro ⟨top, fetched⟩
    rcases (failsOnlyWith_build usual shown fetched tolerable).exists_ok_or_error with
      succeeds | ⟨failure, fails, -⟩
    · exact succeeds
    · exact absurd fails (not_isLineFailure_of_countable countable)

end BuildContext
end DebugIndex
