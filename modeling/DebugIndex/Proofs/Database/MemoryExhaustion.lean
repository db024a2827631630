import DebugIndex.Proofs.CompilationUnit.MemoryExhaustion
import DebugIndex.Proofs.Database.UnreadableUnits
import DebugIndex.Session

/-!
# Running out of memory while a source is ingested

If the reader runs out of memory where the build of a unit gets to, a session can not be
started, and the failure names the unit.  Nothing else leads to such a failure, as long as
there is memory for the lines that units without source text call for.
-/

namespace DebugIndex

namespace BuildContext

/-- The reader runs out of memory in a unit of a source that is gotten to: the one at an
offset, behind units that are built. -/
def RunsOut (context : BuildContext) (source : Feed UnitSource) (offset : Int) (fault : Fault) :
    Prop :=
  fault.isFatal = true ∧ ∃ front item back, source.items = front ++ item :: back ∧
    (∀ earlier ∈ front, ∃ unit, (context.build earlier).outcome = .ok unit) ∧
      item.offset = offset ∧ context.Exhausts item fault

end BuildContext

namespace Database

open BuildContext

variable {context : BuildContext} {source : Feed UnitSource} {elapsed : String} {offset : Int}
  {fault : Fault}

/-- The failure of a build is told with the offset of the unit exactly if memory has run
out. -/
theorem outcome_buildUnit_eq_outOfMemory_iff {item : UnitSource} :
    (buildUnit context item).outcome = .error (.outOfMemory offset fault) ↔
      item.offset = offset ∧ fault.isFatal = true ∧
        (context.build item).outcome = .error (.reader fault) := by
  simp only [buildUnit, Report.outcome_mapFailure_eq_error_iff]
  constructor
  · rintro ⟨given, failed, named⟩
    rcases failsOnlyWith_isOverValue_build given failed with overValue | ⟨fault, rfl⟩
    · cases given <;> first | exact overValue.elim | cases named
    · simp only [unitFailure] at named
      split at named
      case isTrue fatal =>
        obtain ⟨rfl, rfl⟩ := Failure.outOfMemory.inj named
        exact ⟨rfl, fatal, failed⟩
      case isFalse => cases named
  · rintro ⟨rfl, fatal, failed⟩
    exact ⟨.reader fault, failed, by simp only [unitFailure, fatal, if_true]⟩

/-- A source fails to be ingested with the first unit that is not built, or with the fault that
cuts it short behind units that all are. -/
theorem outcome_ingest_eq_error_iff {failure : Failure} :
    (ingest context source elapsed).outcome = .error failure ↔
      (∃ front item back, source.items = front ++ item :: back ∧
        (∀ earlier ∈ front, ∃ unit, (context.build earlier).outcome = .ok unit) ∧
          (buildUnit context item).outcome = .error failure) ∨
      ((∀ item ∈ source.items, ∃ unit, (context.build item).outcome = .ok unit) ∧
        ∃ fault, source.fault = some fault ∧ failure = .reader fault) := by
  simp only [ingest, Report.outcome_bind_eq_error_iff, Report.outcome_each_eq_error_iff,
    ← @outcome_buildUnit_eq_ok_iff context, ← Report.exists_each_iff]
  refine or_congr_right ?_
  cases source.fault with
  | none => simp
  | some fault => simp [eq_comm]

/-- A source fails to be ingested for lack of memory in the first unit that is not built. -/
theorem outcome_ingest_eq_outOfMemory_iff :
    (ingest context source elapsed).outcome = .error (.outOfMemory offset fault) ↔
      ∃ front item back, source.items = front ++ item :: back ∧
        (∀ earlier ∈ front, ∃ unit, (context.build earlier).outcome = .ok unit) ∧
          item.offset = offset ∧ fault.isFatal = true ∧
            (context.build item).outcome = .error (.reader fault) := by
  simp [outcome_ingest_eq_error_iff, outcome_buildUnit_eq_outOfMemory_iff]

/-- Where the reader runs out of memory in a unit that is gotten to, a source fails to be
ingested. -/
theorem outcome_ingest_of_runsOut (exhausted : context.RunsOut source offset fault) :
    (ingest context source elapsed).outcome = .error (.outOfMemory offset fault) := by
  obtain ⟨fatal, front, item, back, listed, earlier, named, reached⟩ := exhausted
  exact outcome_ingest_eq_outOfMemory_iff.mpr ⟨front, item, back, listed, earlier, named, fatal,
    outcome_build_of_exhausts fatal reached⟩

/-- If there is memory for the lines of all units, a source fails to be ingested for lack of
memory only where the reader runs out of it. -/
theorem runsOut_of_ingest (spacious : ∀ item ∈ source.items, ¬ context.Overfills item)
    (failed : (ingest context source elapsed).outcome = .error (.outOfMemory offset fault)) :
    context.RunsOut source offset fault := by
  obtain ⟨front, item, back, listed, earlier, named, fatal, broken⟩ :=
    outcome_ingest_eq_outOfMemory_iff.mp failed
  have roomy : ¬ context.Overfills item := spacious item (by simp [listed])
  have reached : context.Exhausts item fault :=
    (exhausts_or_overfills_of_build broken).resolve_right roomy
  exact ⟨fatal, front, item, back, listed, earlier, named, reached⟩

end Database

namespace Session

variable {request : Request} {source : Feed UnitSource} {offset : Int} {fault : Fault}

/-- A session fails to be started for the search paths, or with what its source fails to be
ingested with. -/
theorem outcome_start_eq_error_iff {failure : Failure} :
    (start request source).outcome = .error failure ↔
      (∃ value, searchPathsOf request = .error value ∧ failure = .searchPaths value) ∨
        ∃ searchPaths, searchPathsOf request = .ok searchPaths ∧
          (Database.ingest (contextOf request searchPaths) source request.elapsed).outcome =
            .error failure := by
  simp [start, @eq_comm Failure failure]

/-- If the reader runs out of memory in a unit that is gotten to, whatever has been read by
then, no session is started, and the failure has the offset of the unit and the fault of the
reader.  As long as there is memory for the lines that units call for, the failure comes from
nothing else. -/
theorem outcome_start_eq_outOfMemory_of_runsOut (request : Request) (source : Feed UnitSource)
    (offset : Int) (fault : Fault) :
    (∀ searchPaths, searchPathsOf request = .ok searchPaths →
      (contextOf request searchPaths).RunsOut source offset fault →
        (start request source).outcome = .error (.outOfMemory offset fault)) ∧
      ((∀ searchPaths, searchPathsOf request = .ok searchPaths → ∀ item ∈ source.items,
          ¬ (contextOf request searchPaths).Overfills item) →
        (start request source).outcome = .error (.outOfMemory offset fault) →
          ∃ searchPaths, searchPathsOf request = .ok searchPaths ∧
            (contextOf request searchPaths).RunsOut source offset fault) := by
  constructor
  · intro searchPaths settled exhausted
    exact outcome_start_eq_error_iff.mpr
      (Or.inr ⟨searchPaths, settled, Database.outcome_ingest_of_runsOut exhausted⟩)
  · intro spacious failed
    rcases outcome_start_eq_error_iff.mp failed with
      ⟨value, -, unsettled⟩ | ⟨searchPaths, settled, broken⟩
    · cases unsettled
    · exact ⟨searchPaths, settled,
        Database.runsOut_of_ingest (spacious searchPaths settled) broken⟩

/-- A unit that breaks off without lack of memory. -/
def interruptedSource : UnitSource where
  top := .ok
    { tag := .other (some "DW_TAG_partial_unit")
      offset := 11
      attributes := []
      children := ⟨[], some ⟨.badValue, "truncated"⟩⟩ }

/-- A unit with a struct whose members can not all be read for lack of memory. -/
def exhaustedSource : UnitSource where
  offset := 0x40
  top := .ok
    { tag := .other (some "DW_TAG_partial_unit")
      offset := 0x4b
      attributes := []
      children :=
        ⟨[{ tag := .baseType, offset := 0x50, attributes := [], children := ⟨[], none⟩ },
          { tag := .structureType
            offset := 0x54
            attributes := []
            children :=
              ⟨[{ tag := .member, offset := 0x58, attributes := [], children := ⟨[], none⟩ }],
                some ⟨.outOfMemory, "heap"⟩⟩ }],
          none⟩ }

/-- What a session with both units is started from. -/
def scarceRequest : Request where
  files := {}
  store := { path := ".dwarf_symdb.conf" }

/-- The second unit runs out of memory behind the first member of its struct: the failure
names it, and comes from nothing else. -/
theorem outcome_start_exhaustedSource :
    (start scarceRequest ⟨[interruptedSource, exhaustedSource], none⟩).outcome =
        .error (.outOfMemory 0x40 ⟨.outOfMemory, "heap"⟩) ∧
      ∃ searchPaths, searchPathsOf scarceRequest = .ok searchPaths ∧
        (contextOf scarceRequest searchPaths).RunsOut
          ⟨[interruptedSource, exhaustedSource], none⟩ 0x40 ⟨.outOfMemory, "heap"⟩ := by
  have settled : searchPathsOf scarceRequest = .ok [] := rfl
  have interrupted : ∃ unit,
      ((contextOf scarceRequest []).build interruptedSource).outcome = .ok unit := ⟨_, rfl⟩
  have exhausted : (contextOf scarceRequest []).Exhausts exhaustedSource
      ⟨.outOfMemory, "heap"⟩ := by
    have listed : exhaustedSource.children =
        exhaustedSource.children.take 1 ++ exhaustedSource.children.drop 1 := rfl
    refine .child rfl rfl listed ?_ ⟨Or.inl rfl, rfl, rfl⟩
    simp [exhaustedSource, UnitSource.children, Entry.IsExhausting]
  have started := (outcome_start_eq_outOfMemory_of_runsOut scarceRequest
    ⟨[interruptedSource, exhaustedSource], none⟩ 0x40 ⟨.outOfMemory, "heap"⟩).1 [] settled
      ⟨rfl, [interruptedSource], exhaustedSource, [], rfl, by simpa using interrupted, rfl,
        exhausted⟩
  refine ⟨started, (outcome_start_eq_outOfMemory_of_runsOut _ _ _ _).2 ?_ started⟩
  intro searchPaths found item listed overfilled
  obtain rfl : [] = searchPaths := Except.ok.inj (settled.symm.trans found)
  have lacking := BuildContext.outcome_build_of_overfills overfilled
  rcases (by simpa using listed : item = interruptedSource ∨ item = exhaustedSource) with
    rfl | rfl
  · obtain ⟨unit, built⟩ := interrupted
    rw [built] at lacking
    cases lacking
  · rw [BuildContext.outcome_build_of_exhausts rfl exhausted] at lacking
    simp at lacking

end Session
end DebugIndex
