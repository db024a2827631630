import DebugIndex.Proofs.CompilationUnit.MalformedEntries

/-!
# Readings that are cut short

A reader can fail behind any number of rows and of children of the top entry.  What it has
delivered by then counts, and nothing else is lost: the unit is built as if both streams had
simply ended there, and each failure that is come upon is one warning more.
-/

namespace DebugIndex

namespace Report

variable {α β : Type} {report : Report α} {next again : α → Report β}

def emitAll (events : List Event) : Report Unit :=
  ⟨events, .ok ()⟩

@[simp]
theorem outcome_emitAll_bind (events : List Event) (next : Unit → Report β) :
    ((emitAll events).bind next).outcome = (next ()).outcome := rfl

theorem outcome_bind_congr (alike : ∀ result, (next result).outcome = (again result).outcome) :
    (report.bind next).outcome = (report.bind again).outcome := by
  obtain ⟨events, outcome⟩ := report
  cases outcome with
  | error failure => rfl
  | ok result => exact alike result

theorem events_bind_of_ok {result : α} (reached : report.outcome = .ok result) :
    (report.bind next).events = report.events ++ (next result).events := by
  simp only [bind, reached]

end Report

namespace Event

/-- The warnings that events give, whether progress is traced or not. -/
def warnings (events : List Event) : List Message :=
  events.map fun event => .ofLevel .warn event.text

theorem messages_eq_warnings {events : List Event}
    (warn : ∀ event ∈ events, event.isTrace = false) (tracing : Bool) :
    messages tracing events = warnings events := by
  induction events with
  | nil => rfl
  | cons event rest ih =>
      obtain ⟨first, others⟩ := List.forall_mem_cons.mp warn
      rw [messages, List.filterMap_cons_some (message?_of_warns first tracing)]
      exact congrArg _ (ih others)

end Event

/-! ## Sources that end where they fail -/

/-- An entry whose children end where they become unreadable. -/
def Entry.untilFault (top : Entry) : Entry :=
  { top with children := ⟨top.children.items, none⟩ }

namespace UnitSource

/-- The source whose children and rows end where they become unreadable. -/
def untilFaults (source : UnitSource) : UnitSource :=
  { source with
    top := source.top.map Entry.untilFault
    rows := ⟨source.rows.items, none⟩ }

/-- The fault that ends the children of the top entry early. -/
def childrenFault? (source : UnitSource) : Option Fault :=
  source.top.toOption.bind fun top => top.children.fault

/-- The faults that end the streams of a unit early. -/
def faults (source : UnitSource) : List Fault :=
  source.rows.fault.toList ++ source.childrenFault?.toList

/-- What is said about the fault in the line table of a unit, which is read only if the
source file is usable. -/
def tableEvents (source : UnitSource) (unit : CompilationUnit) : List Event :=
  if unit.status = .ok then
    (source.rows.fault.map fun fault => .lineTableUnreadable unit.sourceName fault.text).toList
  else []

/-- What is said about the fault in the children of the top entry of a unit. -/
def childrenEvents (source : UnitSource) (unit : CompilationUnit) : List Event :=
  (source.childrenFault?.map fun fault =>
    .entriesUnreadable unit.sourceName unit.offset fault.text).toList

theorem isTrace_of_mem_tableEvents {source : UnitSource} {unit : CompilationUnit} :
    ∀ event ∈ source.tableEvents unit, event.isTrace = false := by
  intro event member
  simp only [tableEvents] at member
  split at member
  · obtain ⟨fault, -, rfl⟩ := Option.map_eq_some_iff.mp (Option.mem_toList.mp member)
    rfl
  · cases member

theorem isTrace_of_mem_childrenEvents {source : UnitSource} {unit : CompilationUnit} :
    ∀ event ∈ source.childrenEvents unit, event.isTrace = false := by
  intro event member
  obtain ⟨fault, -, rfl⟩ := Option.map_eq_some_iff.mp (Option.mem_toList.mp member)
  rfl

end UnitSource

/-- The rows of a line program are those of its states, up to its failure, that do not end a
sequence. -/
theorem ImageUnit.rows_untilFaults {image : ImageUnit} {states : Feed (Option LineState)}
    (programmed : image.program = .ok (some states)) (byteOrder : ByteOrder) :
    (image.source byteOrder).untilFaults.rows =
      ⟨((states.items.filterMap id).filter fun state => !state.endSequence).map fun state =>
        (state.address, state.line), none⟩ := by
  have rows_eq : (image.source byteOrder).rows.items = states.items.filterMap rowOf? := by
    simp only [source, rows, programmed]
  have sameRows : states.items.filterMap rowOf? =
      ((states.items.filterMap id).filter fun state => !state.endSequence).map fun state =>
        (state.address, state.line) := by
    rw [← List.filterMap_eq_map, ← List.filterMap_eq_filter, List.filterMap_filterMap,
      List.filterMap_filterMap]
    congr 1
    funext state
    cases state with
    | none => rfl
    | some reached => cases ends : reached.endSequence <;> simp [rowOf?, ends, Option.guard]
  simp only [UnitSource.untilFaults, rows_eq, sameRows]

namespace CompilationUnit

/-- What the warnings about a unit tell it by: its offset, and the name and the status of
its source file. -/
def heading (unit : CompilationUnit) : Int × Option String × SourceStatus :=
  (unit.offset, unit.sourceName, unit.status)

theorem heading_withLines (unit : CompilationUnit) (lines : List String) :
    (unit.withLines lines).heading = unit.heading := by
  simp only [withLines]
  split <;> rfl

theorem heading_bindLines (unit : CompilationUnit) (lines : List String) :
    (unit.bindLines lines).heading = unit.heading :=
  field_bindLines heading_withLines (fun _ => rfl) (fun _ _ _ => rfl) unit lines

@[simp]
theorem heading_foldl_absorb (byteOrder : Option ByteOrder) (entries : List Entry)
    (unit : CompilationUnit) :
    (entries.foldl (BuildContext.absorb byteOrder) unit).heading = unit.heading := by
  refine BuildContext.kept_foldl_absorb ?_ (fun _ _ => rfl) byteOrder entries unit
  intro unit contribution
  cases contribution <;> rfl

theorem events_eq_of_heading {unit other : CompilationUnit} (same : unit.heading = other.heading)
    (source : UnitSource) :
    source.tableEvents unit = source.tableEvents other ∧
      source.childrenEvents unit = source.childrenEvents other := by
  obtain ⟨sameOffset, sameRest⟩ := Prod.mk.inj same
  obtain ⟨sameName, sameStatus⟩ := Prod.mk.inj sameRest
  simp only [UnitSource.tableEvents, UnitSource.childrenEvents, sameOffset, sameName, sameStatus,
    and_self]

end CompilationUnit

namespace BuildContext

open CompilationUnit

variable {context : BuildContext} {source : UnitSource} {top : Entry}

/-! ## The stages with and without the faults -/

theorem tolerate_of_tolerable {fault : Option Fault} {event : String → Event}
    (tolerable : ∀ given ∈ fault.toList, given.isFatal = false) :
    tolerate fault event = .emitAll (fault.map fun given => event given.text).toList := by
  cases fault with
  | none => rfl
  | some given =>
      have tolerated : given.isFatal = false := tolerable given (by simp)
      simp only [tolerate, tolerated, Bool.false_eq_true, if_false]
      rfl

theorem readRows_of_tolerable
    (tolerable : ∀ fault ∈ source.rows.fault.toList, fault.isFatal = false)
    (unit : CompilationUnit) :
    readRows source unit =
      (Report.emitAll (source.tableEvents (withTable source unit))).map fun _ =>
        withTable source unit := by
  simp only [readRows, withTable, UnitSource.tableEvents]
  by_cases usable : unit.status = .ok
  · simp only [usable, if_true, tolerate_of_tolerable tolerable, Report.emitAll, Report.bind,
      Report.pure, List.append_nil]
    rfl
  · simp only [usable, if_false]
    rfl

/-- In front of the entries a fault in the line table only adds what is said about it. -/
theorem prepare_of_tolerable
    (tolerable : ∀ fault ∈ source.rows.fault.toList, fault.isFatal = false) :
    context.prepare source top =
      (context.prepare source.untilFaults top.untilFault).bind fun prepared =>
        (Report.emitAll (source.tableEvents prepared.1)).map fun _ => prepared := by
  -- the source file is found by attributes of the top entry, not by its children
  have sameHeader : context.header source.untilFaults top.untilFault =
      context.header source top := rfl
  have ending : ∀ fault ∈ source.untilFaults.rows.fault.toList, fault.isFatal = false := by
    intro fault member
    cases member
  have silent : ∀ unit, source.untilFaults.tableEvents unit = [] := by
    intro unit
    simp only [UnitSource.tableEvents, UnitSource.untilFaults, Option.map_none,
      Option.toList_none, ite_self]
  have sameTable : ∀ unit, withTable source.untilFaults unit = withTable source unit :=
    fun _ => rfl
  simp only [prepare, sameHeader, Report.bind_assoc, Report.bind_map,
    readRows_of_tolerable tolerable, readRows_of_tolerable ending, silent, sameTable]
  rfl

theorem complete_of_tolerable {fault : Option Fault}
    (tolerable : ∀ given ∈ fault.toList, given.isFatal = false)
    (prepared : CompilationUnit × List String) (filled : CompilationUnit) :
    context.complete fault prepared filled =
      (Report.emitAll (fault.map fun given =>
        .entriesUnreadable prepared.1.sourceName prepared.1.offset given.text).toList).bind
          fun _ => context.complete none prepared filled := by
  simp only [complete, tolerate_of_tolerable tolerable]
  rfl

/-- A build whose streams are cut short is the build on what they have delivered, with what
is said about the faults put in between. -/
theorem build_of_tolerable (fetched : source.top = .ok top)
    (tolerable : ∀ fault ∈ source.faults, fault.isFatal = false) :
    context.build source =
      (context.prepare source.untilFaults top.untilFault).bind fun prepared =>
        (Report.emitAll (source.tableEvents prepared.1)).bind fun _ =>
          (addEntries source.byteOrder prepared.1 top.children.items).bind fun filled =>
            (Report.emitAll (source.childrenEvents prepared.1)).bind fun _ =>
              context.complete none prepared filled := by
  have sameFault : source.childrenFault? = top.children.fault := by
    rw [UnitSource.childrenFault?, fetched]
    rfl
  have tableTolerable : ∀ fault ∈ source.rows.fault.toList, fault.isFatal = false :=
    fun fault member => tolerable fault (List.mem_append_left _ member)
  have childrenTolerable : ∀ fault ∈ top.children.fault.toList, fault.isFatal = false := by
    rw [← sameFault]
    exact fun fault member => tolerable fault (List.mem_append_right _ member)
  have completed : ∀ prepared, context.complete top.children.fault prepared = fun filled =>
      (Report.emitAll (source.childrenEvents prepared.1)).bind fun _ =>
        context.complete none prepared filled := by
    intro prepared
    funext filled
    rw [complete_of_tolerable childrenTolerable, UnitSource.childrenEvents, sameFault]
  rw [build_eq fetched, prepare_of_tolerable tableTolerable]
  simp [completed]

theorem build_untilFaults_eq (fetched : source.top = .ok top) :
    context.build source.untilFaults =
      (context.prepare source.untilFaults top.untilFault).bind fun prepared =>
        (addEntries source.byteOrder prepared.1 top.children.items).bind fun filled =>
          context.complete none prepared filled := by
  have fetchedRest : source.untilFaults.top = .ok top.untilFault := by
    rw [UnitSource.untilFaults, fetched]
    rfl
  rw [build_eq fetchedRest]
  rfl

theorem heading_of_complete {prepared : CompilationUnit × List String}
    {filled unit : CompilationUnit}
    (completed : (context.complete none prepared filled).outcome = .ok unit) :
    unit.heading = filled.heading := by
  obtain ⟨_, -, afterFault⟩ := Report.outcome_bind_eq_ok_iff.mp completed
  obtain ⟨lined, bound, afterLines⟩ := Report.outcome_bind_eq_ok_iff.mp afterFault
  obtain ⟨typed, told, given⟩ := Report.outcome_bind_eq_ok_iff.mp afterLines
  obtain rfl := Except.ok.inj given
  obtain rfl := eq_of_bindLines bound
  obtain rfl := eq_of_resolveTypes told
  exact heading_bindLines filled prepared.2

/-- Up to reader faults that are tolerated a build comes to the same outcome as on what was
delivered before them. -/
theorem outcome_build_untilFaults (tolerable : ∀ fault ∈ source.faults, fault.isFatal = false) :
    (context.build source).outcome = (context.build source.untilFaults).outcome := by
  cases fetched : source.top with
  | error fault =>
      have fetchedRest : source.untilFaults.top = .error fault := by
        rw [UnitSource.untilFaults, fetched]
        rfl
      simp [build, fetched, fetchedRest]
  | ok top =>
      rw [build_of_tolerable fetched tolerable, build_untilFaults_eq fetched]
      apply Report.outcome_bind_congr
      intro prepared
      rw [Report.outcome_emitAll_bind]
      apply Report.outcome_bind_congr
      intro filled
      rw [Report.outcome_emitAll_bind]

/-- Where a unit is built, the events differ by what is said about the faults only. -/
theorem events_build_untilFaults (tolerable : ∀ fault ∈ source.faults, fault.isFatal = false)
    {unit : CompilationUnit}
    (built : (context.build source.untilFaults).outcome = .ok unit) :
    ∃ earlier between later,
      (context.build source.untilFaults).events = earlier ++ between ++ later ∧
        (context.build source).events =
          earlier ++ source.tableEvents unit ++ between ++ source.childrenEvents unit ++
            later := by
  obtain ⟨top, fetched⟩ : ∃ top, source.top = .ok top := by
    obtain ⟨top, -, fetchedRest, -⟩ := stages_of_build built
    cases fetched : source.top with
    | ok top => exact ⟨top, rfl⟩
    | error fault =>
        rw [UnitSource.untilFaults, fetched] at fetchedRest
        cases fetchedRest
  -- the three parts are told apart by where the two streams end
  rw [build_untilFaults_eq fetched] at built
  obtain ⟨prepared, toldPrepared, afterTable⟩ := Report.outcome_bind_eq_ok_iff.mp built
  obtain ⟨filled, toldFilled, completed⟩ := Report.outcome_bind_eq_ok_iff.mp afterTable
  have sameHeading : prepared.1.heading = unit.heading := by
    rw [heading_of_complete completed, eq_of_addEntries toldFilled, heading_foldl_absorb]
  obtain ⟨sameTable, sameChildren⟩ := events_eq_of_heading sameHeading source
  refine ⟨(context.prepare source.untilFaults top.untilFault).events,
    (addEntries source.byteOrder prepared.1 top.children.items).events,
    (context.complete none prepared filled).events, ?_, ?_⟩
  · rw [build_untilFaults_eq fetched, Report.events_bind_of_ok toldPrepared,
      Report.events_bind_of_ok toldFilled, List.append_assoc]
  · rw [build_of_tolerable fetched tolerable, Report.events_bind_of_ok toldPrepared, sameTable,
      sameChildren]
    have afterChildren : ((addEntries source.byteOrder prepared.1 top.children.items).bind
        fun filled => (Report.emitAll (source.childrenEvents unit)).bind fun _ =>
          context.complete none prepared filled).events = _ :=
      Report.events_bind_of_ok toldFilled
    change _ ++ (source.tableEvents unit ++ _) = _
    rw [afterChildren]
    simp only [Report.emitAll, Report.bind, List.append_assoc]

/-- Where the children of the top entry, the rows or both are cut short by other than
exhausted memory, the build comes to the same outcome as on a source that delivers the same
children and rows and ends there; and where a unit is built, each fault that is come upon is
one more message that warns: that in the rows behind what is said about the top entry, if
the source file is usable, and that in the children behind what is said about them.  In an
executable the rows are those of the states that do not end a sequence, up to the fault. -/
theorem build_untilFaults (context : BuildContext) {source : UnitSource}
    (tolerable : ∀ fault ∈ source.faults, fault.isFatal = false) :
    (context.build source).outcome = (context.build source.untilFaults).outcome ∧
      (∀ unit tracing, (context.build source.untilFaults).outcome = .ok unit →
        ∃ earlier between later,
          Event.messages tracing (context.build source.untilFaults).events =
              earlier ++ between ++ later ∧
            Event.messages tracing (context.build source).events =
              earlier ++ Event.warnings (source.tableEvents unit) ++ between ++
                Event.warnings (source.childrenEvents unit) ++ later) ∧
      ∀ (image : ImageUnit) byteOrder states, image.program = .ok (some states) →
        image.source byteOrder = source →
          source.untilFaults.rows =
            ⟨((states.items.filterMap id).filter fun state => !state.endSequence).map
              fun state => (state.address, state.line), none⟩ := by
  refine ⟨outcome_build_untilFaults tolerable, ?_, ?_⟩
  · intro unit tracing built
    obtain ⟨earlier, between, later, plain, longer⟩ :=
      events_build_untilFaults tolerable built
    refine ⟨Event.messages tracing earlier, Event.messages tracing between,
      Event.messages tracing later, ?_, ?_⟩
    · simp only [plain, Event.messages_append]
    · simp only [longer, Event.messages_append,
        Event.messages_eq_warnings UnitSource.isTrace_of_mem_tableEvents,
        Event.messages_eq_warnings UnitSource.isTrace_of_mem_childrenEvents]
  · rintro image byteOrder states programmed rfl
    exact ImageUnit.rows_untilFaults programmed byteOrder

/-- A unit of an executable with a function, whose entries and whose line program become
unreadable behind it. -/
def interruptedImage : ImageUnit where
  top := .ok
    { tag := .other (some "DW_TAG_partial_unit")
      offset := 11
      attributes := []
      children :=
        ⟨[{ tag := .subprogram
            offset := 0x20
            attributes :=
              [(AttributeName.lowAddress, some (.ofInt "DW_FORM_addr" 0x1000)),
                (AttributeName.highAddress, some (.ofInt "DW_FORM_data4" 0x10))]
            children := ⟨[], none⟩ }], some ⟨.badValue, "truncated"⟩⟩ }
  program := .ok <| some
    ⟨[some ⟨0x1000, 1, false⟩, none, some ⟨0x1010, 2, false⟩, some ⟨0x1010, 2, true⟩],
      some ⟨.malformedDebugInfo, "bad opcode"⟩⟩

def interruptedUnit : CompilationUnit where
  tag := .other (some "DW_TAG_partial_unit")
  low := 0x1000
  high := 0x1010
  sourceLines := [none, none]
  rows := [⟨0x1000, 1, none⟩, ⟨0x1010, 2, none⟩]
  rowIndices := [0, 1]
  rowTexts := [none, none]
  subprograms :=
    [{ low := 0x1000, high := 0x1010, rows := [⟨0x1000, 1, none⟩, ⟨0x1010, 2, none⟩] }]
  ranges := [{ low := 0x1000, high := 0x1010 }]

theorem build_interruptedImage :
    (∀ fault ∈ (interruptedImage.source .little).faults, fault.isFatal = false) ∧
      (build { files := {}, settings := {} } (interruptedImage.source .little)).outcome =
        .ok interruptedUnit ∧
      (∃ earlier between later,
        Event.messages true
            (build { files := {}, settings := {} }
              (interruptedImage.source .little).untilFaults).events =
            earlier ++ between ++ later ∧
          Event.messages true
              (build { files := {}, settings := {} } (interruptedImage.source .little)).events =
            earlier ++
              [.ofLevel .warn "Error reading line table for None: bad opcode"] ++ between ++
                [.ofLevel .warn "Error reading DIE tree of None at offset 0x0: truncated"] ++
                  later) ∧
      (interruptedImage.source .little).untilFaults.rows =
        ⟨[(0x1000, 1), (0x1010, 2)], none⟩ := by
  have tolerable : ∀ fault ∈ (interruptedImage.source .little).faults,
      fault.isFatal = false := by decide
  have built : (build { files := {}, settings := {} }
      (interruptedImage.source .little).untilFaults).outcome = .ok interruptedUnit := rfl
  obtain ⟨sameOutcome, warned, delivered⟩ :=
    build_untilFaults { files := {}, settings := {} } tolerable
  exact ⟨tolerable, sameOutcome.trans built, warned interruptedUnit true built,
    delivered interruptedImage .little _ rfl rfl⟩

end BuildContext
end DebugIndex
