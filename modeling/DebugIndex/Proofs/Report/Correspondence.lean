import DebugIndex.Report

/-!
# Reports that correspond

What two reports lead to can be the same up to a change of the result.  Where their parts
correspond like this, so do the wholes; what is told on the way does not matter.
-/

namespace DebugIndex
namespace Report

variable {α β γ δ : Type} {report : Report α} {other : Report γ} {next : α → Report β}
  {again : γ → Report δ} {change : α → γ} {after : β → δ}

/-- Where two reports lead to the same up to a change, and so do the reports that go on from
there, the whole of both does. -/
theorem outcome_bind_eq_map (begun : other.outcome = report.outcome.map change)
    (onward : ∀ result, report.outcome = .ok result →
      (again (change result)).outcome = (next result).outcome.map after) :
    (other.bind again).outcome = (report.bind next).outcome.map after := by
  simp only [bind, begun]
  cases reached : report.outcome with
  | error failure => rfl
  | ok result => exact onward result reached

/-- Where two reports lead to the same, their wholes differ by as much as what follows. -/
theorem outcome_bind_eq_map_of_eq {like : Report α} {further : α → Report δ}
    (begun : like.outcome = report.outcome)
    (onward : ∀ result, report.outcome = .ok result →
      (further result).outcome = (next result).outcome.map after) :
    (like.bind further).outcome = (report.bind next).outcome.map after := by
  have unchanged : like.outcome = report.outcome.map id := by
    rw [Except.map_id]
    exact begun
  exact outcome_bind_eq_map unchanged onward

theorem outcome_each_eq_map {items : List α}
    (alike : ∀ item ∈ items, (again (change item)).outcome = (next item).outcome.map after) :
    (each again (items.map change)).outcome = (each next items).outcome.map (List.map after) := by
  induction items with
  | nil => rfl
  | cons item rest ih =>
      obtain ⟨first, others⟩ := List.forall_mem_cons.mp alike
      exact outcome_bind_eq_map first fun _ _ =>
        outcome_bind_eq_map (ih others) fun _ _ => rfl

theorem outcome_each_eq_of_eq {items : List α} {further : γ → Report β}
    (alike : ∀ item ∈ items, (further (change item)).outcome = (next item).outcome) :
    (each further (items.map change)).outcome = (each next items).outcome := by
  have unchanged : (each further (items.map change)).outcome =
      (each next items).outcome.map (List.map id) := by
    refine outcome_each_eq_map fun item listed => ?_
    rw [alike item listed, Except.map_id]
    rfl
  rw [unchanged, List.map_id_fun, Except.map_id]
  rfl

theorem outcome_map (report : Report α) (change : α → γ) :
    (report.map change).outcome = report.outcome.map change := rfl

end Report
end DebugIndex
