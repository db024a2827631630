import DebugIndex.Proofs.CompilationUnit.BuildFailures
import DebugIndex.Proofs.Database.Ingestion

/-!
# Units that can not be read

Whether a source can be ingested is decided by the top entries of its units.  Faults in
what lies below them cost no unit, but a single top entry that can not be fetched costs the
whole database.
-/

namespace DebugIndex

namespace Report

variable {α β : Type} {next : α → Report β} {items : List α}

/-- There are reports about all items, as many as items, exactly if there is a result about
each of them. -/
theorem exists_each_iff :
    (∃ results, (each next items).outcome = .ok results) ↔
      ∀ item ∈ items, ∃ result, (next item).outcome = .ok result := by
  constructor
  · rintro ⟨results, reported⟩ item member
    rw [outcome_each_eq_ok_iff] at reported
    have listed : (next item).outcome ∈ results.map Except.ok := by
      rw [← reported]
      exact List.mem_map_of_mem member
    obtain ⟨result, -, same⟩ := List.mem_map.mp listed
    exact ⟨result, same.symm⟩
  · intro succeeds
    have never : (each next items).FailsOnlyWith fun _ => False :=
      .each fun item member => .of_ok (succeeds item member).choose_spec
    rcases never.exists_ok_or_error with reported | ⟨failure, impossible, -⟩
    · exact reported
    · exact impossible.elim

theorem length_of_outcome_each {results : List β}
    (reported : (each next items).outcome = .ok results) : results.length = items.length := by
  rw [outcome_each_eq_ok_iff] at reported
  simpa using (congrArg List.length reported).symm

end Report

namespace Database

open BuildContext

variable {context : BuildContext} {source : Feed UnitSource} {elapsed : String}

/-- A source that ends without a fault is ingested exactly if each of its units is built,
and the database has as many units as the source. -/
theorem exists_ingest_iff_exists_build (ended : source.fault = none) :
    (∃ database, (ingest context source elapsed).outcome = .ok database ∧
        database.size = source.items.length) ↔
      ∀ item ∈ source.items, ∃ unit, (context.build item).outcome = .ok unit := by
  simp only [← @outcome_buildUnit_eq_ok_iff context, ← Report.exists_each_iff]
  constructor
  · rintro ⟨database, ingested, -⟩
    obtain ⟨-, units, -, builtAll⟩ := outcome_ingest_eq_ok_iff.mp ingested
    exact ⟨units, builtAll⟩
  · rintro ⟨units, builtAll⟩
    exact ⟨ofUnits units, outcome_ingest_eq_ok_iff.mpr ⟨ended, units, rfl, builtAll⟩,
      Report.length_of_outcome_each builtAll⟩

/-- Under the usual settings, and with a reader that never runs out of memory: a unit whose
top entry can not be fetched fails with what the reader failed with, and any other unit is
built or fails with a count of lines that one of its rows calls for.  So with line numbers
that can be counted a source is ingested, with all of its units, exactly if every top entry
can be fetched, whatever becomes of the rows, the children of the top entries and the
children of these. -/
theorem exists_ingest_iff (usual : context.settings = {})
    (shown : ∀ path ∈ context.searchPaths, path.isShort = true)
    (tolerable : ∀ item ∈ source.items, ∀ fault ∈ item.streamFaults, fault.isFatal = false)
    (ended : source.fault = none) (elapsed : String) :
    (∀ item ∈ source.items,
        (∀ fault, item.top = .error fault →
          (context.build item).outcome = .error (.reader fault)) ∧
        ∀ top, item.top = .ok top →
          (∃ unit, (context.build item).outcome = .ok unit) ∨
            ∃ row ∈ item.rows.items, ∃ failure, context.IsLineFailure row.2 failure ∧
              (context.build item).outcome = .error failure) ∧
      ((∀ item ∈ source.items, item.LinesCountable context.mostLines) →
        ((∃ database, (ingest context source elapsed).outcome = .ok database ∧
            database.size = source.items.length) ↔
          ∀ item ∈ source.items, ∃ top, item.top = .ok top)) := by
  constructor
  · intro item listed
    refine ⟨fun fault failed => outcome_build_of_top_error failed, fun top fetched => ?_⟩
    rcases (failsOnlyWith_build usual shown fetched
      (tolerable item listed)).exists_ok_or_error with
      built | ⟨failure, ⟨row, member, fails⟩, failed⟩
    · exact Or.inl built
    · exact Or.inr ⟨row, member, failure, fails, failed⟩
  · intro countable
    rw [exists_ingest_iff_exists_build ended]
    exact forall₂_congr fun item listed =>
      exists_build_iff usual shown (tolerable item listed) (countable item listed)

/-- A unit in which every stream breaks off: the rows, the children of the top entry, and
the variables of a function. -/
def damagedSource : UnitSource where
  top := .ok
    { tag := .other (some "DW_TAG_partial_unit")
      offset := 11
      attributes := []
      children :=
        ⟨[{ tag := .subprogram
            offset := 0x20
            attributes :=
              [(AttributeName.lowAddress, some (.ofInt "DW_FORM_addr" 0x1000)),
                (AttributeName.highAddress, some (.ofInt "DW_FORM_data4" 0x10))]
            children := ⟨[], none⟩ },
          { tag := .subprogram
            offset := 0x30
            attributes := []
            children := ⟨[], some ⟨.badValue, "truncated"⟩⟩ }],
          some ⟨.missingKey, "abbrev"⟩⟩ }
  rows := ⟨[(0x1000, 1), (0x1010, 2)], some ⟨.malformedDebugInfo, "bad opcode"⟩⟩

/-- A unit of which not even the top entry can be read. -/
def headlessSource : UnitSource where
  top := .error ⟨.badValue, "truncated"⟩

/-- Broken streams cost no unit, but a missing top entry costs all of them. -/
theorem exists_ingest_damagedSource :
    (∃ database,
        (ingest { files := {}, settings := {} } ⟨[damagedSource, damagedSource], none⟩
            "0.000s").outcome = .ok database ∧ database.size = 2) ∧
      ¬ ∃ database,
        (ingest { files := {}, settings := {} } ⟨[damagedSource, headlessSource], none⟩
            "0.000s").outcome = .ok database ∧ database.size = 2 := by
  have damagedTolerable : ∀ fault ∈ damagedSource.streamFaults, fault.isFatal = false := by
    decide
  have damagedCountable : damagedSource.LinesCountable 4294967296 := by
    simp [UnitSource.LinesCountable, damagedSource, isIndexCount]
  have headlessCountable : headlessSource.LinesCountable 4294967296 := by
    simp [UnitSource.LinesCountable, headlessSource]
  constructor
  · refine ((exists_ingest_iff rfl (by simp) (by simpa using damagedTolerable) rfl
      "0.000s").2 (by simpa using damagedCountable)).mpr ?_
    intro item listed
    obtain rfl : item = damagedSource := by simpa using listed
    exact ⟨_, rfl⟩
  · intro ingested
    have fetched := ((exists_ingest_iff rfl (by simp)
      (by simpa using ⟨damagedTolerable, by decide⟩) rfl "0.000s").2
        (by simpa using ⟨damagedCountable, headlessCountable⟩)).mp ingested
    obtain ⟨top, missing⟩ := fetched headlessSource (by simp)
    cases missing

/-- A fault other than exhausted memory keeps a unit from being built, and the units behind
it from being ingested. -/
theorem outcome_ingest_headlessSource :
    (⟨.badValue, "truncated"⟩ : Fault).isFatal = false ∧
      (build { files := {}, settings := {} } headlessSource).outcome =
        .error (.reader ⟨.badValue, "truncated"⟩) ∧
      (build { files := {}, settings := {} } damagedSource).outcome.isOk = true ∧
      (ingest { files := {}, settings := {} } ⟨[headlessSource, damagedSource], none⟩
        "0.000s").outcome = .error (.reader ⟨.badValue, "truncated"⟩) :=
  ⟨rfl, rfl, rfl, rfl⟩

end Database
end DebugIndex
