import DebugIndex.Report

/-!
# What reports can fail with

Where every part of a report can only fail with some failures, the whole report can only
fail with these; and a report that can not fail with anything leads to a result.
-/

namespace DebugIndex
namespace Report

/-! ## Where a report fails -/

section Place

variable {ε α β : Type} {failure : Failure}

@[simp]
theorem outcome_bind_eq_error_iff {report : Report α} {next : α → Report β} :
    (report.bind next).outcome = .error failure ↔
      report.outcome = .error failure ∨
        ∃ result, report.outcome = .ok result ∧ (next result).outcome = .error failure := by
  simp only [bind]
  cases report.outcome with
  | error early => simp
  | ok result => simp

@[simp]
theorem outcome_ofExcept_eq_error_iff {replace : ε → Failure} {attempt : Except ε α} :
    (ofExcept replace attempt).outcome = .error failure ↔
      ∃ error, attempt = .error error ∧ replace error = failure := by
  cases attempt with
  | error error => simp
  | ok found => simp

@[simp]
theorem outcome_map_eq_error_iff {report : Report α} {change : α → β} :
    (report.map change).outcome = .error failure ↔ report.outcome = .error failure := by
  obtain ⟨events, outcome⟩ := report
  cases outcome <;> simp [map, Except.map]

@[simp]
theorem outcome_mapFailure_eq_error_iff {report : Report α} {replace : Failure → Failure} :
    (report.mapFailure replace).outcome = .error failure ↔
      ∃ given, report.outcome = .error given ∧ replace given = failure := by
  obtain ⟨events, outcome⟩ := report
  cases outcome with
  | ok result =>
      constructor
      · intro failed
        cases failed
      · rintro ⟨given, failed, -⟩
        cases failed
  | error early =>
      constructor
      · intro failed
        exact ⟨early, rfl, Except.error.inj failed⟩
      · rintro ⟨given, failed, rfl⟩
        obtain rfl := Except.error.inj failed
        rfl

/-- Reports about all items fail with what the first of them fails with that does not lead to
a result. -/
theorem outcome_each_eq_error_iff {next : α → Report β} {items : List α} :
    (each next items).outcome = .error failure ↔
      ∃ front item back, items = front ++ item :: back ∧
        (∀ earlier ∈ front, ∃ result, (next earlier).outcome = .ok result) ∧
          (next item).outcome = .error failure := by
  induction items with
  | nil => simp [each]
  | cons first rest ih =>
      simp only [each, outcome_bind_eq_error_iff, outcome_pure, reduceCtorEq, and_false,
        exists_false, or_false, ih]
      constructor
      · rintro (failed | ⟨result, reached, front, item, back, rfl, earlier, failed⟩)
        · exact ⟨[], first, rest, rfl, by simp, failed⟩
        · refine ⟨first :: front, item, back, rfl, ?_, failed⟩
          exact List.forall_mem_cons.mpr ⟨⟨result, reached⟩, earlier⟩
      · rintro ⟨front, item, back, split, earlier, failed⟩
        cases front with
        | nil =>
            obtain ⟨rfl, rfl⟩ := List.cons.inj split
            exact Or.inl failed
        | cons head front =>
            obtain ⟨rfl, rfl⟩ := List.cons.inj split
            obtain ⟨⟨result, reached⟩, others⟩ := List.forall_mem_cons.mp earlier
            exact Or.inr ⟨result, reached, front, item, back, rfl, others, failed⟩

end Place

/-! ## What a report fails with -/

def FailsOnlyWith {α : Type} (allowed : Failure → Prop) (report : Report α) : Prop :=
  ∀ failure, report.outcome = .error failure → allowed failure

namespace FailsOnlyWith

variable {α β : Type} {allowed : Failure → Prop} {report : Report α}

theorem of_ok {result : α} (reached : report.outcome = .ok result) :
    report.FailsOnlyWith allowed := by
  intro failure failed
  rw [reached] at failed
  cases failed

theorem of_fail {failure : Failure} (given : allowed failure) :
    (fail failure : Report α).FailsOnlyWith allowed := by
  intro found failed
  obtain rfl := Except.error.inj failed
  exact given

theorem map (failsOnly : report.FailsOnlyWith allowed) (change : α → β) :
    (report.map change).FailsOnlyWith allowed := by
  obtain ⟨events, outcome⟩ := report
  cases outcome with
  | ok result => exact of_ok rfl
  | error failure => exact of_fail (failsOnly failure rfl)

theorem bind {next : α → Report β} (failsOnly : report.FailsOnlyWith allowed)
    (onward : ∀ result, report.outcome = .ok result → (next result).FailsOnlyWith allowed) :
    (report.bind next).FailsOnlyWith allowed := by
  intro failure failed
  simp only [Report.bind] at failed
  cases reached : report.outcome with
  | error early =>
      rw [reached] at failed
      obtain rfl := Except.error.inj failed
      exact failsOnly early reached
  | ok result =>
      rw [reached] at failed
      exact onward result reached failure failed

theorem each {next : α → Report β} {items : List α}
    (failsOnly : ∀ item ∈ items, (next item).FailsOnlyWith allowed) :
    (Report.each next items).FailsOnlyWith allowed := by
  induction items with
  | nil => exact of_ok rfl
  | cons item rest ih =>
      obtain ⟨first, others⟩ := List.forall_mem_cons.mp failsOnly
      refine bind first fun result _ => bind (ih others) fun results _ => of_ok rfl

/-- A report leads to a result or to one of the failures that it can fail with. -/
theorem exists_ok_or_error (failsOnly : report.FailsOnlyWith allowed) :
    (∃ result, report.outcome = .ok result) ∨
      ∃ failure, allowed failure ∧ report.outcome = .error failure := by
  cases reached : report.outcome with
  | ok result => exact Or.inl ⟨result, rfl⟩
  | error failure => exact Or.inr ⟨failure, failsOnly failure reached, rfl⟩

end FailsOnlyWith
end Report
end DebugIndex
