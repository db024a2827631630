import DebugIndex.Database.Ingest

/-!
# Ingested databases

A source is ingested exactly if no fault cuts it short and each of its units is built.
The database is then that of these units, in their order.
-/

namespace DebugIndex
namespace Database

variable {context : BuildContext} {elapsed : String}

theorem outcome_buildUnit_eq_ok_iff {source : UnitSource} {unit : CompilationUnit} :
    (buildUnit context source).outcome = .ok unit ↔
      (context.build source).outcome = .ok unit :=
  Report.outcome_mapFailure_eq_ok_iff

variable {source : Feed UnitSource} {database : Database}

theorem outcome_ingest_eq_ok_iff :
    (ingest context source elapsed).outcome = .ok database ↔
      source.fault = none ∧ ∃ units, database = ofUnits units ∧
        (Report.each (buildUnit context) source.items).outcome = .ok units := by
  rw [ingest, Report.outcome_bind_eq_ok_iff]
  cases source.fault with
  | none => simp only [Except.ok.injEq, true_and, eq_comm, and_comm]
  | some fault => simp

/-- Every unit of a database that was ingested has been built from one of the sources. -/
theorem exists_build_of_ingest
    (ingested : (ingest context source elapsed).outcome = .ok database)
    {unit : CompilationUnit} (member : unit ∈ database.units) :
    ∃ item ∈ source.items, (context.build item).outcome = .ok unit := by
  obtain ⟨-, units, rfl, builtAll⟩ := outcome_ingest_eq_ok_iff.mp ingested
  obtain ⟨item, listed, built⟩ := Report.exists_of_mem_each builtAll member
  exact ⟨item, listed, outcome_buildUnit_eq_ok_iff.mp built⟩

/-- An answer that can be had of what a source is ingested to is one of a database. -/
theorem exists_ingest_of_answer {α : Type} {ask : Database → α} {answer : α}
    (answered : (ingest context source elapsed).outcome.toOption.map ask = some answer) :
    ∃ database, (ingest context source elapsed).outcome = .ok database ∧
      ask database = answer :=
  Report.exists_ok_of_answer answered

end Database
end DebugIndex
