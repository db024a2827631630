import DebugIndex.Report

/-!
# Interjections

One report can tell the same as another with a single event put in between: what it
leads to is, up to a change that the event announces, what the other leads to.  An
interjection at the beginning of a part stays one when something comes first.
-/

namespace DebugIndex
namespace Report

/-- The longer report leads to the changed result of the plain one, and where there is
a result its events are those of the plain one with one event put in between. -/
structure Interjects {α β : Type} (event : Event) (change : α → β) (plain : Report α)
    (longer : Report β) : Prop where
  outcome : longer.outcome = plain.outcome.map change
  events : ∀ result, plain.outcome = .ok result →
    ∃ earlier later, plain.events = earlier ++ later ∧
      longer.events = earlier ++ event :: later

namespace Interjects

variable {α β γ : Type} {event : Event} {change : α → β}

theorem emit_bind (event : Event) (change : α → β) (report : Report α) :
    Interjects event change report ((emit event).bind fun _ => report.map change) where
  outcome := rfl
  events _ _ := ⟨[], report.events, rfl, rfl⟩

theorem bind_left {plain : γ → Report α} {longer : γ → Report β}
    (interjects : ∀ result, Interjects event change (plain result) (longer result))
    (first : Report γ) : Interjects event change (first.bind plain) (first.bind longer) := by
  obtain ⟨begun, outcome⟩ := first
  cases outcome with
  | error failure =>
      refine ⟨rfl, ?_⟩
      intro result impossible
      cases impossible
  | ok middle =>
      refine ⟨(interjects middle).outcome, ?_⟩
      intro result reached
      obtain ⟨earlier, later, plainEvents, longerEvents⟩ :=
        (interjects middle).events result reached
      refine ⟨begun ++ earlier, later, ?_, ?_⟩
      · change begun ++ (plain middle).events = _
        rw [plainEvents, List.append_assoc]
      · change begun ++ (longer middle).events = _
        rw [longerEvents, List.append_assoc]

/-- An event that warns is one more message, whether progress is traced or not. -/
theorem messages {plain : Report α} {longer : Report β}
    (interjects : Interjects event change plain longer) (warns : event.isTrace = false)
    (tracing : Bool) {result : α} (reached : plain.outcome = .ok result) :
    ∃ earlier later, Event.messages tracing plain.events = earlier ++ later ∧
      Event.messages tracing longer.events =
        earlier ++ .ofLevel .warn event.text :: later := by
  obtain ⟨earlier, later, plainEvents, longerEvents⟩ := interjects.events result reached
  refine ⟨Event.messages tracing earlier, Event.messages tracing later, ?_, ?_⟩
  · rw [plainEvents, Event.messages_append]
  · rw [longerEvents, Event.messages_append]
    congr 1
    exact List.filterMap_cons_some (Event.message?_of_warns warns tracing)

end Interjects
end Report
end DebugIndex
