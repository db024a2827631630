import DebugIndex.Failure
import DebugIndex.Message.Event

/-!
# Reports

The outcome of building something, together with the events on the way.  What
happened before a failure stays in the report.
-/

namespace DebugIndex

/-- Events, and the result or the failure that they led to. -/
structure Report (α : Type) where
  events : List Event
  outcome : Except Failure α

namespace Report

/-- A result without events. -/
def pure {α : Type} (result : α) : Report α :=
  ⟨[], .ok result⟩

def bind {α β : Type} (report : Report α) (next : α → Report β) : Report β :=
  match report.outcome with
  | .error failure => ⟨report.events, .error failure⟩
  | .ok result =>
      let onward := next result
      ⟨report.events ++ onward.events, onward.outcome⟩

def emit (event : Event) : Report Unit :=
  ⟨[event], .ok ()⟩

def fail {α : Type} (failure : Failure) : Report α :=
  ⟨[], .error failure⟩

def ofExcept {ε α : Type} (failure : ε → Failure) : Except ε α → Report α
  | .ok result => pure result
  | .error error => fail (failure error)

/-- The report with its failure replaced. -/
def mapFailure {α : Type} (replace : Failure → Failure) (report : Report α) : Report α :=
  { report with outcome := report.outcome.mapError replace }

def map {α β : Type} (change : α → β) (report : Report α) : Report β :=
  ⟨report.events, report.outcome.map change⟩

/-- Reports about the items of a list, one after the other, up to the first failure. -/
def each {α β : Type} (next : α → Report β) : List α → Report (List β)
  | [] => pure []
  | item :: rest =>
      (next item).bind fun result => (each next rest).bind fun results => pure (result :: results)

@[simp]
theorem outcome_pure {α : Type} (result : α) : (pure result).outcome = .ok result := rfl

@[simp]
theorem outcome_fail {α : Type} (failure : Failure) :
    (fail failure : Report α).outcome = .error failure := rfl

@[simp]
theorem outcome_emit (event : Event) : (emit event).outcome = .ok () := rfl

@[simp]
theorem ofExcept_ok {ε α : Type} (failure : ε → Failure) (result : α) :
    ofExcept failure (.ok result) = pure result := rfl

@[simp]
theorem ofExcept_error {ε α : Type} (failure : ε → Failure) (error : ε) :
    (ofExcept failure (.error error) : Report α) = fail (failure error) := rfl

@[simp]
theorem bind_pure {α β : Type} (result : α) (next : α → Report β) :
    (pure result).bind next = next result := by
  simp [pure, bind]

@[simp]
theorem bind_fail {α β : Type} (failure : Failure) (next : α → Report β) :
    (fail failure).bind next = fail failure := rfl

@[simp]
theorem bind_assoc {α β γ : Type} (report : Report α) (next : α → Report β)
    (after : β → Report γ) :
    (report.bind next).bind after = report.bind fun result => (next result).bind after := by
  cases report with
  | mk events outcome =>
      cases outcome with
      | error failure => rfl
      | ok result =>
          simp only [bind]
          cases (next result).outcome with
          | error failure => rfl
          | ok _ => simp [List.append_assoc]

@[simp]
theorem map_pure {α β : Type} (change : α → β) (result : α) :
    (pure result).map change = pure (change result) := rfl

@[simp]
theorem map_map {α β γ : Type} (report : Report α) (change : α → β) (again : β → γ) :
    (report.map change).map again = report.map fun result => again (change result) := by
  obtain ⟨events, outcome⟩ := report
  cases outcome <;> rfl

@[simp]
theorem map_bind {α β γ : Type} (report : Report α) (next : α → Report β) (change : β → γ) :
    (report.bind next).map change = report.bind fun result => (next result).map change := by
  obtain ⟨events, outcome⟩ := report
  cases outcome <;> rfl

@[simp]
theorem bind_map {α β γ : Type} (report : Report α) (change : α → β) (next : β → Report γ) :
    (report.map change).bind next = report.bind fun result => next (change result) := by
  obtain ⟨events, outcome⟩ := report
  cases outcome <;> rfl

@[simp]
theorem outcome_bind_eq_ok_iff {α β : Type} {report : Report α} {next : α → Report β}
    {result : β} :
    (report.bind next).outcome = .ok result ↔
      ∃ middle, report.outcome = .ok middle ∧ (next middle).outcome = .ok result := by
  simp only [bind]
  cases report.outcome with
  | error failure => simp
  | ok middle => simp

/-- An answer that can be had of a result is one of a result that was reached. -/
theorem exists_ok_of_answer {α β : Type} {report : Report α} {ask : α → β} {answer : β}
    (answered : report.outcome.toOption.map ask = some answer) :
    ∃ result, report.outcome = .ok result ∧ ask result = answer := by
  cases reached : report.outcome with
  | error failure =>
      rw [reached] at answered
      cases answered
  | ok result =>
      rw [reached] at answered
      exact ⟨result, rfl, Option.some.inj answered⟩

@[simp]
theorem outcome_ofExcept_eq_ok_iff {ε α : Type} {failure : ε → Failure} {attempt : Except ε α}
    {result : α} : (ofExcept failure attempt).outcome = .ok result ↔ attempt = .ok result := by
  cases attempt with
  | error error => simp
  | ok found => simp

/-- There are reports about all items exactly if there is one about each of them. -/
theorem outcome_each_eq_ok_iff {α β : Type} {next : α → Report β} {items : List α}
    {results : List β} :
    (each next items).outcome = .ok results ↔
      items.map (fun item => (next item).outcome) = results.map Except.ok := by
  induction items generalizing results with
  | nil => cases results <;> simp [each]
  | cons item rest ih =>
      simp only [each, outcome_bind_eq_ok_iff, ih, outcome_pure, Except.ok.injEq, List.map_cons]
      cases results with
      | nil => simp
      | cons result results =>
          simp only [List.map_cons, List.cons.injEq]
          constructor
          · rintro ⟨first, reported, others, reportedRest, rfl, rfl⟩
            exact ⟨reported, reportedRest⟩
          · rintro ⟨reported, reportedRest⟩
            exact ⟨result, reported, results, reportedRest, rfl, rfl⟩

/-- Where a report about an item settles how its result looks, reports about all items
settle that of all results. -/
theorem map_eq_map_of_outcome_each {α β γ : Type} {next : α → Report β} {view : β → γ}
    {convert : α → γ}
    (settles : ∀ item result, (next item).outcome = .ok result → view result = convert item)
    {items : List α} {results : List β} (reported : (each next items).outcome = .ok results) :
    results.map view = items.map convert := by
  rw [outcome_each_eq_ok_iff] at reported
  induction items generalizing results with
  | nil => cases results <;> simp_all
  | cons item rest ih =>
      cases results with
      | nil => simp at reported
      | cons result results =>
          simp only [List.map_cons, List.cons.injEq] at reported
          rw [List.map_cons, settles item result reported.1, ih reported.2, List.map_cons]

/-- Where a report can only give one thing about an item, reports about all items
give that thing about each of them. -/
theorem eq_map_of_outcome_each {α β : Type} {next : α → Report β} {convert : α → β}
    (only : ∀ item result, (next item).outcome = .ok result → result = convert item)
    {items : List α} {results : List β} (reported : (each next items).outcome = .ok results) :
    results = items.map convert := by
  have looks : results.map id = items.map convert := map_eq_map_of_outcome_each only reported
  rwa [List.map_id] at looks

/-- Where two reports about each of some items settle that their results look alike, the
results of both about all items do. -/
theorem map_eq_map_of_outcomes_each {α β γ : Type} {next again : α → Report β} {view : β → γ}
    {items : List α}
    (alike : ∀ item ∈ items, ∀ result other, (next item).outcome = .ok result →
      (again item).outcome = .ok other → view other = view result)
    {results others : List β} (reported : (each next items).outcome = .ok results)
    (repeated : (each again items).outcome = .ok others) :
    others.map view = results.map view := by
  rw [outcome_each_eq_ok_iff] at reported repeated
  induction items generalizing results others with
  | nil =>
      obtain rfl := List.map_eq_nil_iff.mp reported.symm
      obtain rfl := List.map_eq_nil_iff.mp repeated.symm
      rfl
  | cons item rest ih =>
      obtain ⟨result, results, rfl, first, reportedRest⟩ := List.map_eq_cons_iff.mp reported.symm
      obtain ⟨other, others, rfl, firstAgain, repeatedRest⟩ :=
        List.map_eq_cons_iff.mp repeated.symm
      have sameFirst : view other = view result :=
        alike item List.mem_cons_self result other first.symm firstAgain.symm
      have sameRest : others.map view = results.map view :=
        ih (fun entry member => alike entry (List.mem_cons_of_mem item member))
          reportedRest.symm repeatedRest.symm
      rw [List.map_cons, List.map_cons, sameFirst, sameRest]

/-- What is among the results of reports about items is the result about one of them. -/
theorem exists_of_mem_each {α β : Type} {next : α → Report β} {items : List α}
    {results : List β} (reported : (each next items).outcome = .ok results) {result : β}
    (member : result ∈ results) : ∃ item ∈ items, (next item).outcome = .ok result := by
  rw [outcome_each_eq_ok_iff] at reported
  have listed : Except.ok result ∈ items.map fun item => (next item).outcome := by
    rw [reported]
    exact List.mem_map_of_mem member
  simpa only [List.mem_map] using listed

@[simp]
theorem outcome_mapFailure_eq_ok_iff {α : Type} {replace : Failure → Failure}
    {report : Report α} {result : α} :
    (report.mapFailure replace).outcome = .ok result ↔ report.outcome = .ok result := by
  obtain ⟨events, outcome⟩ := report
  cases outcome with
  | ok value => exact Iff.rfl
  | error failure =>
      constructor
      · intro failed
        cases failed
      · intro failed
        cases failed

end Report
end DebugIndex
