import DebugIndex.Proofs.CompilationUnit.BuildFailures

/-!
# Running out of memory in a unit

The reader can run out of memory wherever it is asked for something: for the top entry, for
the line table, for the children of a struct, union or function, and for the children of the
top entry.  Every other fault in the streams is tolerated, and this one never is: the build
fails with it as soon as it is come upon.  The build itself can run out of memory in one
place only, where a unit without source text calls for too many lines.
-/

namespace DebugIndex

/-- A failure over a setting or another value that nothing can be done with, whatever the
reader does. -/
def Failure.IsOverValue : Failure → Prop
  | .encoding _ | .limit _ | .tooLong _ | .lineCount _ => True
  | _ => False

/-- Whether the children of an entry in a unit are read: members of aggregates, variables of
functions. -/
def Entry.IsOpened (entry : Entry) : Prop :=
  entry.tag.isAggregate = true ∨ entry.tag = .subprogram

/-- Whether the reader runs out of memory among the children of an entry that are read. -/
def Entry.IsExhausting (entry : Entry) (fault : Fault) : Prop :=
  entry.IsOpened ∧ entry.children.fault = some fault ∧ fault.isFatal = true

namespace BuildContext

open CompilationUnit Extraction

/-- The reader runs out of memory where the build of a unit gets to: when the top entry is
fetched, in the line table of a unit whose source can be used, among the children of a child
of the top entry, or among those of the top entry itself. -/
inductive Exhausts (context : BuildContext) (source : UnitSource) (fault : Fault) : Prop
  | top (failed : source.top = .error fault)
  | rows {top : Entry} {headed : CompilationUnit × List String}
      (fetched : source.top = .ok top)
      (described : (context.header source top).outcome = .ok headed)
      (usable : headed.1.status = .ok) (failed : source.rows.fault = some fault)
  | child {top : Entry} {prepared : CompilationUnit × List String} {front back : List Entry}
      {entry : Entry} (fetched : source.top = .ok top)
      (begun : (context.prepare source top).outcome = .ok prepared)
      (listed : top.children.items = front ++ entry :: back)
      (earlier : ∀ other ∈ front, ∀ given, ¬ other.IsExhausting given)
      (failed : entry.IsExhausting fault)
  | children {top : Entry} {prepared : CompilationUnit × List String}
      (fetched : source.top = .ok top)
      (begun : (context.prepare source top).outcome = .ok prepared)
      (earlier : ∀ other ∈ top.children.items, ∀ given, ¬ other.IsExhausting given)
      (failed : top.children.fault = some fault)

/-- A unit that is read to the end calls for more lines than there is memory for. -/
def Overfills (context : BuildContext) (source : UnitSource) : Prop :=
  ∃ top prepared filled, source.top = .ok top ∧
    (context.prepare source top).outcome = .ok prepared ∧
      (readEntries source top prepared.1).outcome = .ok filled ∧ prepared.2 = [] ∧
        isIndexCount filled.placeholderCount = true ∧
          context.mostLines < filled.placeholderCount

variable {context : BuildContext} {source : UnitSource} {fault : Fault} {failure : Failure}

/-! ## Faults of the reader in single stages -/

theorem outcome_tolerate_eq_error_iff {given : Option Fault} {event : String → Event} :
    (tolerate given event).outcome = .error failure ↔
      ∃ fault, given = some fault ∧ fault.isFatal = true ∧ failure = .reader fault := by
  cases given with
  | none => simp [tolerate]
  | some fault =>
      simp only [tolerate, Option.some.injEq, exists_eq_left']
      cases fault.isFatal with
      | true => simp [eq_comm]
      | false => simp

/-- The rows fail a unit only if they are read, and only for lack of memory. -/
theorem outcome_readRows_eq_error_iff {unit : CompilationUnit} :
    (readRows source unit).outcome = .error failure ↔
      unit.status = .ok ∧ ∃ fault, source.rows.fault = some fault ∧ fault.isFatal = true ∧
        failure = .reader fault := by
  simp only [readRows]
  split
  case isTrue usable =>
    simp [outcome_tolerate_eq_error_iff, usable]
  case isFalse unusable => simp [unusable]

theorem malformation?_eq_children_iff {byteOrder : Option ByteOrder} {entry : Entry} :
    malformation? byteOrder entry = some (.children fault) ↔
      entry.IsOpened ∧ entry.children.fault = some fault := by
  simp only [malformation?, Entry.IsOpened]
  by_cases isVariable : entry.tag = .variableObject
  · simp [isVariable, Tag.isAggregate]
  · simp only [isVariable, if_false]
    split
    case isTrue opened => simp [opened]
    case isFalse closed => simp [closed]

theorem outcome_addEntry_eq_error_iff {byteOrder : Option ByteOrder} {unit : CompilationUnit}
    {entry : Entry} :
    (addEntry byteOrder unit entry).outcome = .error failure ↔
      ∃ fault, entry.IsExhausting fault ∧ failure = .reader fault := by
  have failed (fault : Fault) := @contribution_outcomeOf_eq_error_iff byteOrder unit.offset
    unit.rows entry (.children fault)
  simp only [malformation?_eq_children_iff] at failed
  rw [addEntry_eq, Report.outcome_map_eq_error_iff, remark]
  simp only [Entry.IsExhausting, ← and_assoc, ← failed]
  cases (outcomeOf byteOrder unit.offset unit.rows entry).contribution with
  | ok contribution => cases contribution <;> simp
  | error reason =>
      cases reason with
      | children fault => simp [outcome_tolerate_eq_error_iff, and_assoc]
      | unknownByteOrder => simp

/-- Entries fail their unit with the first of them that there is not enough memory for. -/
theorem outcome_addEntries_eq_error_iff {byteOrder : Option ByteOrder} {entries : List Entry}
    {unit : CompilationUnit} :
    (addEntries byteOrder unit entries).outcome = .error failure ↔
      ∃ front entry back fault, entries = front ++ entry :: back ∧
        (∀ other ∈ front, ∀ given, ¬ other.IsExhausting given) ∧ entry.IsExhausting fault ∧
          failure = .reader fault := by
  induction entries generalizing unit with
  | nil => simp [addEntries]
  | cons first rest ih =>
      simp only [addEntries, Report.outcome_bind_eq_error_iff, outcome_addEntry_eq_error_iff, ih]
      constructor
      · rintro (⟨fault, failed, told⟩ |
          ⟨added, read, front, entry, back, fault, rfl, earlier, failed, told⟩)
        · exact ⟨[], first, rest, fault, rfl, by simp, failed, told⟩
        · refine ⟨first :: front, entry, back, fault, rfl, ?_, failed, told⟩
          refine List.forall_mem_cons.mpr ⟨fun given exhausting => ?_, earlier⟩
          have broken : (addEntry byteOrder unit first).outcome = .error (.reader given) :=
            outcome_addEntry_eq_error_iff.mpr ⟨given, exhausting, rfl⟩
          rw [read] at broken
          cases broken
      · rintro ⟨front, entry, back, fault, split, earlier, failed, told⟩
        cases front with
        | nil =>
            obtain ⟨rfl, rfl⟩ := List.cons.inj split
            exact Or.inl ⟨fault, failed, told⟩
        | cons head front =>
            obtain ⟨rfl, rfl⟩ := List.cons.inj split
            obtain ⟨passable, others⟩ := List.forall_mem_cons.mp earlier
            cases read : (addEntry byteOrder unit first).outcome with
            | error early =>
                obtain ⟨given, exhausting, -⟩ := outcome_addEntry_eq_error_iff.mp read
                exact absurd exhausting (passable given)
            | ok added =>
                exact Or.inr ⟨added, rfl, front, entry, back, fault, rfl, others, failed, told⟩

/-- Entries can be gone through exactly if there is enough memory for each of them. -/
theorem exists_addEntries_iff {byteOrder : Option ByteOrder} {entries : List Entry}
    {unit : CompilationUnit} :
    (∃ added, (addEntries byteOrder unit entries).outcome = .ok added) ↔
      ∀ entry ∈ entries, ∀ fault, ¬ entry.IsExhausting fault := by
  constructor
  · rintro ⟨added, read⟩
    induction entries generalizing unit with
    | nil => simp
    | cons first rest ih =>
        obtain ⟨middle, readFirst, readRest⟩ := Report.outcome_bind_eq_ok_iff.mp read
        refine List.forall_mem_cons.mpr ⟨fun fault exhausting => ?_, ih readRest⟩
        rw [outcome_addEntry_eq_error_iff.mpr ⟨fault, exhausting, rfl⟩] at readFirst
        cases readFirst
  · intro passable
    cases read : (addEntries byteOrder unit entries).outcome with
    | ok added => exact ⟨added, rfl⟩
    | error failure =>
        obtain ⟨front, entry, back, fault, rfl, -, exhausting, -⟩ :=
          outcome_addEntries_eq_error_iff.mp read
        exact absurd exhausting (passable entry (by simp) fault)

/-- The children of the top entry fail a unit with the first of them that there is not enough
memory for, or for lack of memory behind all of them. -/
theorem outcome_readEntries_eq_error_iff {top : Entry} {unit : CompilationUnit} :
    (readEntries source top unit).outcome = .error failure ↔
      (∃ front entry back fault, top.children.items = front ++ entry :: back ∧
        (∀ other ∈ front, ∀ given, ¬ other.IsExhausting given) ∧ entry.IsExhausting fault ∧
          failure = .reader fault) ∨
      ((∀ entry ∈ top.children.items, ∀ given, ¬ entry.IsExhausting given) ∧
        ∃ fault, top.children.fault = some fault ∧ fault.isFatal = true ∧
          failure = .reader fault) := by
  simp only [readEntries, Report.outcome_bind_eq_error_iff, outcome_addEntries_eq_error_iff,
    outcome_tolerate_eq_error_iff, Report.outcome_pure, reduceCtorEq, and_false, exists_false,
    or_false, exists_and_right, exists_addEntries_iff]

/-! ## The other stages -/

theorem failsOnlyWith_isOverValue_header (top : Entry) :
    (context.header source top).FailsOnlyWith Failure.IsOverValue := by
  simp only [header, loadSource]
  split
  · split
    · exact .of_fail trivial
    · split
      · refine .bind ?_ fun loaded _ => by cases loaded <;> exact .of_ok rfl
        intro failure failed
        obtain ⟨error, -, rfl⟩ := Report.outcome_ofExcept_eq_error_iff.mp failed
        trivial
      · exact .of_ok rfl
  · exact .of_ok rfl

theorem failsOnlyWith_isOverValue_resolveVariable (types : TypeTable) (item : Variable) :
    (context.resolveVariable types item).FailsOnlyWith Failure.IsOverValue := by
  simp only [resolveVariable]
  split
  · exact .of_fail trivial
  · refine .bind (.each fun notice _ => ?_) fun _ _ => .of_ok rfl
    cases notice with
    | collapsed name depth => exact .of_ok rfl
    | truncated name typeOffset typeName =>
        simp only [tell]
        split
        · exact .of_ok rfl
        · exact .of_fail trivial

theorem failsOnlyWith_isOverValue_resolveTypes (unit : CompilationUnit) :
    (context.resolveTypes unit).FailsOnlyWith Failure.IsOverValue := by
  have resolves (types : TypeTable) (items : List Variable) :
      (Report.each (context.resolveVariable types) items).FailsOnlyWith Failure.IsOverValue :=
    .each fun item _ => failsOnlyWith_isOverValue_resolveVariable types item
  refine .bind (resolves _ _) fun _ _ => .bind (.each fun subprogram _ => ?_) fun _ _ => .of_ok rfl
  exact .bind (resolves _ _) fun _ _ => .of_ok rfl

theorem failsOnlyWith_isOverValue_bindLines (unit : CompilationUnit) (lines : List String) :
    (context.bindLines unit lines).FailsOnlyWith fun failure =>
      failure.IsOverValue ∨ ∃ fault, failure = .reader fault := by
  simp only [bindLines]
  split
  · exact .of_ok rfl
  · split
    · exact .of_fail (Or.inl trivial)
    · split
      · exact .of_fail (Or.inr ⟨_, rfl⟩)
      · exact .of_ok rfl

theorem outcome_bindLines_eq_reader_iff {unit : CompilationUnit} {lines : List String} :
    (context.bindLines unit lines).outcome = .error (.reader fault) ↔
      lines = [] ∧ isIndexCount unit.placeholderCount = true ∧
        context.mostLines < unit.placeholderCount ∧ fault = ⟨.outOfMemory, ""⟩ := by
  simp only [bindLines]
  cases lines with
  | cons line rest => simp
  | nil =>
      cases isIndexCount unit.placeholderCount with
      | false => simp
      | true =>
          by_cases many : context.mostLines < unit.placeholderCount
          · simp [many, eq_comm]
          · simp [many]

/-- The stages in front of the entries fail with a fault of the reader only in the rows. -/
theorem outcome_prepare_eq_reader_iff {top : Entry} :
    (context.prepare source top).outcome = .error (.reader fault) ↔
      ∃ headed, (context.header source top).outcome = .ok headed ∧ headed.1.status = .ok ∧
        source.rows.fault = some fault ∧ fault.isFatal = true := by
  have unread : (context.header source top).outcome ≠ .error (.reader fault) :=
    fun failed => failsOnlyWith_isOverValue_header top _ failed
  simp [prepare, outcome_readRows_eq_error_iff, unread]

/-! ## The whole build -/

theorem build_eq_readEntries {top : Entry} (fetched : source.top = .ok top) :
    context.build source = (context.prepare source top).bind fun prepared =>
      (readEntries source top prepared.1).bind fun filled =>
        (context.bindLines filled prepared.2).bind fun lined =>
          (context.resolveTypes lined).bind fun built => ⟨[builtEvent built], .ok built⟩ := by
  simp [build, fetched, prepare]

/-- A build behind a fetched top entry fails with a fault of the reader in the stages in front
of the entries, in the entries, or over the lines. -/
theorem outcome_build_eq_reader_iff_of_fetched {top : Entry} (fetched : source.top = .ok top) :
    (context.build source).outcome = .error (.reader fault) ↔
      (context.prepare source top).outcome = .error (.reader fault) ∨
        ∃ prepared, (context.prepare source top).outcome = .ok prepared ∧
          ((readEntries source top prepared.1).outcome = .error (.reader fault) ∨
            ∃ filled, (readEntries source top prepared.1).outcome = .ok filled ∧
              (context.bindLines filled prepared.2).outcome = .error (.reader fault)) := by
  have unresolved (lined : CompilationUnit) :
      (context.resolveTypes lined).outcome ≠ .error (.reader fault) :=
    fun failed => failsOnlyWith_isOverValue_resolveTypes lined _ failed
  have never (built : CompilationUnit) :
      ¬ (⟨[builtEvent built], .ok built⟩ : Report CompilationUnit).outcome =
        .error (.reader fault) := nofun
  simp only [build_eq_readEntries fetched, Report.outcome_bind_eq_error_iff, unresolved, never,
    and_false, exists_false, or_false]

theorem outcome_build_of_exhausts (fatal : fault.isFatal = true)
    (exhausted : context.Exhausts source fault) :
    (context.build source).outcome = .error (.reader fault) := by
  cases exhausted with
  | top failed => exact outcome_build_of_top_error failed
  | rows fetched described usable failed =>
      refine (outcome_build_eq_reader_iff_of_fetched fetched).mpr (Or.inl ?_)
      exact outcome_prepare_eq_reader_iff.mpr ⟨_, described, usable, failed, fatal⟩
  | child fetched begun listed earlier failed =>
      refine (outcome_build_eq_reader_iff_of_fetched fetched).mpr (Or.inr ⟨_, begun, Or.inl ?_⟩)
      exact outcome_readEntries_eq_error_iff.mpr
        (Or.inl ⟨_, _, _, _, listed, earlier, failed, rfl⟩)
  | children fetched begun earlier failed =>
      refine (outcome_build_eq_reader_iff_of_fetched fetched).mpr (Or.inr ⟨_, begun, Or.inl ?_⟩)
      exact outcome_readEntries_eq_error_iff.mpr (Or.inr ⟨earlier, _, failed, fatal, rfl⟩)

/-- Where there are too many lines, the build fails for lack of memory of its own. -/
theorem outcome_build_of_overfills (overfilled : context.Overfills source) :
    (context.build source).outcome = .error (.reader ⟨.outOfMemory, ""⟩) := by
  obtain ⟨top, prepared, filled, fetched, begun, read, none, counted, many⟩ := overfilled
  refine (outcome_build_eq_reader_iff_of_fetched fetched).mpr (Or.inr ⟨prepared, begun, Or.inr ?_⟩)
  exact ⟨filled, read, outcome_bindLines_eq_reader_iff.mpr ⟨none, counted, many, rfl⟩⟩

/-- A build that fails with a fault of the reader has come upon a point where the reader fails
with it, or calls for too many lines. -/
theorem exhausts_or_overfills_of_build
    (failed : (context.build source).outcome = .error (.reader fault)) :
    context.Exhausts source fault ∨ context.Overfills source := by
  cases fetched : source.top with
  | error given =>
      rw [outcome_build_of_top_error fetched] at failed
      obtain rfl := Failure.reader.inj (Except.error.inj failed)
      exact Or.inl (.top fetched)
  | ok top =>
      rcases (outcome_build_eq_reader_iff_of_fetched fetched).mp failed with
        unprepared | ⟨prepared, begun, unread | ⟨filled, read, unbound⟩⟩
      · obtain ⟨headed, described, usable, broken, -⟩ :=
          outcome_prepare_eq_reader_iff.mp unprepared
        exact Or.inl (.rows fetched described usable broken)
      · rcases outcome_readEntries_eq_error_iff.mp unread with
          ⟨front, entry, back, given, listed, earlier, exhausting, told⟩ |
            ⟨earlier, given, broken, -, told⟩
        · obtain rfl := Failure.reader.inj told
          exact Or.inl (.child fetched begun listed earlier exhausting)
        · obtain rfl := Failure.reader.inj told
          exact Or.inl (.children fetched begun earlier broken)
      · obtain ⟨none, counted, many, -⟩ := outcome_bindLines_eq_reader_iff.mp unbound
        exact Or.inr ⟨top, prepared, filled, fetched, begun, read, none, counted, many⟩

/-- A build that fails with a fault of the reader other than lack of memory has not got beyond
the top entry. -/
theorem outcome_build_eq_tolerable_iff (tolerable : fault.isFatal = false) :
    (context.build source).outcome = .error (.reader fault) ↔ source.top = .error fault := by
  refine ⟨fun failed => ?_, outcome_build_of_top_error⟩
  have never : ¬ fault.isFatal = true := by simp [tolerable]
  cases fetched : source.top with
  | error given =>
      rw [outcome_build_of_top_error fetched] at failed
      obtain rfl := Failure.reader.inj (Except.error.inj failed)
      rfl
  | ok top =>
      rcases (outcome_build_eq_reader_iff_of_fetched fetched).mp failed with
        unprepared | ⟨prepared, -, unread | ⟨filled, -, unbound⟩⟩
      · obtain ⟨headed, -, -, -, fatal⟩ := outcome_prepare_eq_reader_iff.mp unprepared
        exact absurd fatal never
      · rcases outcome_readEntries_eq_error_iff.mp unread with
          ⟨-, -, -, given, -, -, ⟨-, -, fatal⟩, told⟩ | ⟨-, given, -, fatal, told⟩ <;>
        · obtain rfl := Failure.reader.inj told
          exact absurd fatal never
      · obtain ⟨-, -, -, rfl⟩ := outcome_bindLines_eq_reader_iff.mp unbound
        exact absurd rfl never

/-- Whatever a build fails with is a fault of the reader or over some value: it is for others
to tell which unit was being built. -/
theorem failsOnlyWith_isOverValue_build :
    (context.build source).FailsOnlyWith fun failure =>
      failure.IsOverValue ∨ ∃ fault, failure = .reader fault := by
  simp only [build]
  refine .bind (fun failure failed => ?_) fun top _ => ?_
  · obtain ⟨fault, -, rfl⟩ := Report.outcome_ofExcept_eq_error_iff.mp failed
    exact Or.inr ⟨fault, rfl⟩
  · refine .bind (fun failure failed => Or.inl (failsOnlyWith_isOverValue_header top _ failed))
      fun headed _ => ?_
    refine .bind (fun failure failed => ?_) fun tabled _ => ?_
    · obtain ⟨-, fault, -, -, rfl⟩ := outcome_readRows_eq_error_iff.mp failed
      exact Or.inr ⟨fault, rfl⟩
    · refine .bind (fun failure failed => ?_) fun filled _ => ?_
      · rcases outcome_readEntries_eq_error_iff.mp failed with
          ⟨-, -, -, fault, -, -, -, rfl⟩ | ⟨-, fault, -, -, rfl⟩ <;> exact Or.inr ⟨fault, rfl⟩
      · refine .bind (failsOnlyWith_isOverValue_bindLines _ _) fun lined _ => ?_
        refine .bind (fun failure failed => Or.inl ?_) fun _ _ => .of_ok rfl
        exact failsOnlyWith_isOverValue_resolveTypes lined _ failed

end BuildContext
end DebugIndex
