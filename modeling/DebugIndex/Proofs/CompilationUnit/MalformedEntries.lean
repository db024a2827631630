import DebugIndex.Proofs.CompilationUnit.Contributions
import DebugIndex.Proofs.Report.Interjection

/-!
# Malformed entries

An entry that can not be read is left out of its unit, and one event warns of it.  It
leaves a single trace: a function with a frame base is counted before its children are
read, and the count stays when they turn out to be unreadable.  In all else the unit is
the one that is built without the entry.

The count is the only thing that is carried past the entry, and every later stage of the
build commutes with counting.
-/

namespace DebugIndex

namespace Extraction

/-- Whether the reason is exhausted memory, which nothing tolerates. -/
def EntryError.isFatal : EntryError → Bool
  | .children fault => fault.isFatal
  | .unknownByteOrder => false

def EntryError.warning (reason : EntryError) (entry : Entry) : Event :=
  .entryMalformed entry.tag entry.offset reason.text

end Extraction

namespace UnitSource

def withChildren (source : UnitSource) (entries : List Entry) : UnitSource :=
  { source with
    top := source.top.map fun top => { top with children := ⟨entries, top.children.fault⟩ } }

/-- The same unit without the child of its top entry at a position. -/
def withoutChild (source : UnitSource) (position : Nat) : UnitSource :=
  source.withChildren (source.children.eraseIdx position)

end UnitSource

/-! ## Counting frame bases -/

namespace CompilationUnit

theorem countFrames_zero : countFrames 0 = id := rfl

theorem countFrames_comm (first second : Nat) (unit : CompilationUnit) :
    (unit.countFrames first).countFrames second =
      (unit.countFrames second).countFrames first := by
  simp only [countFrames, Nat.add_right_comm]

section Fields

variable (frames : Nat) (unit : CompilationUnit)

@[simp]
theorem offset_countFrames : (unit.countFrames frames).offset = unit.offset := rfl

@[simp]
theorem rows_countFrames : (unit.countFrames frames).rows = unit.rows := rfl

@[simp]
theorem isUnbounded_countFrames : (unit.countFrames frames).isUnbounded = unit.isUnbounded := rfl

@[simp]
theorem placeholderCount_countFrames :
    (unit.countFrames frames).placeholderCount = unit.placeholderCount := rfl

end Fields

@[simp]
theorem contribute_countFrames (frames : Nat) (unit : CompilationUnit)
    (contribution : Extraction.Contribution) :
    Extraction.contribute (unit.countFrames frames) contribution =
      (Extraction.contribute unit contribution).countFrames frames := by
  cases contribution <;> rfl

@[simp]
theorem withLines_countFrames (frames : Nat) (unit : CompilationUnit) (lines : List String) :
    (unit.countFrames frames).withLines lines = (unit.withLines lines).countFrames frames := by
  simp only [withLines]
  split <;> rfl

@[simp]
theorem withRowRange_countFrames (frames : Nat) (unit : CompilationUnit) :
    (unit.countFrames frames).withRowRange = unit.withRowRange.countFrames frames := by
  simp only [withRowRange, isUnbounded_countFrames, rows_countFrames]
  cases unit.isUnbounded <;> cases unit.rows.head? <;> cases unit.rows.getLast? <;> rfl

@[simp]
theorem bindLines_countFrames (frames : Nat) (unit : CompilationUnit) (lines : List String) :
    (unit.countFrames frames).bindLines lines = (unit.bindLines lines).countFrames frames := by
  simp only [bindLines, withLines_countFrames]
  rw [apply_ite (countFrames frames)]
  congr 1
  exact withRowRange_countFrames frames (unit.withLines lines).withRowTexts

end CompilationUnit

namespace BuildContext

open CompilationUnit Extraction

variable {context : BuildContext} {byteOrder : Option ByteOrder}

@[simp]
theorem absorb_countFrames (frames : Nat) (unit : CompilationUnit) (entry : Entry) :
    absorb byteOrder (unit.countFrames frames) entry =
      (absorb byteOrder unit entry).countFrames frames := by
  rw [absorb_eq, absorb_eq, countFrames_comm]
  simp

/-- What is said about an entry of a unit while it is read. -/
def remark (byteOrder : Option ByteOrder) (unit : CompilationUnit) (entry : Entry) :
    Report Unit :=
  match (outcomeOf byteOrder unit.offset unit.rows entry).contribution with
  | .ok (.dropped name) => .emit (.globalDropped name)
  | .ok _ => .pure ()
  | .error (.children fault) => tolerate (some fault) (.entryMalformed entry.tag entry.offset)
  | .error reason => .emit (reason.warning entry)

/-- Reading an entry is saying something about it and absorbing what it contributes. -/
theorem addEntry_eq (unit : CompilationUnit) (entry : Entry) :
    addEntry byteOrder unit entry =
      (remark byteOrder unit entry).map fun _ => absorb byteOrder unit entry := by
  simp only [addEntry, remark, absorb]
  cases (outcomeOf byteOrder unit.offset unit.rows entry).contribution with
  | ok contribution => cases contribution <;> rfl
  | error reason =>
      cases reason with
      | children fault =>
          simp only [tolerate]
          split <;> rfl
      | unknownByteOrder => rfl

@[simp]
theorem addEntry_countFrames (frames : Nat) (unit : CompilationUnit) (entry : Entry) :
    addEntry byteOrder (unit.countFrames frames) entry =
      (addEntry byteOrder unit entry).map (countFrames frames) := by
  rw [addEntry_eq, addEntry_eq]
  simp [remark]

@[simp]
theorem addEntries_countFrames (frames : Nat) (entries : List Entry) (unit : CompilationUnit) :
    addEntries byteOrder (unit.countFrames frames) entries =
      (addEntries byteOrder unit entries).map (countFrames frames) := by
  induction entries generalizing unit with
  | nil => rfl
  | cons entry rest ih => simp [addEntries, ih]

@[simp]
theorem bindLines_countFrames (frames : Nat) (unit : CompilationUnit) (lines : List String) :
    context.bindLines (unit.countFrames frames) lines =
      (context.bindLines unit lines).map (countFrames frames) := by
  simp only [bindLines, placeholderCount_countFrames, CompilationUnit.bindLines_countFrames]
  split
  · rfl
  · split
    · rfl
    · split <;> rfl

@[simp]
theorem resolveTypes_countFrames (frames : Nat) (unit : CompilationUnit) :
    context.resolveTypes (unit.countFrames frames) =
      (context.resolveTypes unit).map (countFrames frames) := by
  simp only [resolveTypes, Report.map_bind, Report.map_pure]
  rfl

/-! ## The build around its entries -/

/-- The stages in front of the entries: the unit with its line table, and its source
lines. -/
def prepare (context : BuildContext) (source : UnitSource) (top : Entry) :
    Report (CompilationUnit × List String) :=
  (context.header source top).bind fun headed =>
    (readRows source headed.1).map fun tabled => (tabled, headed.2)

/-- The stages behind the entries of a prepared unit. -/
def complete (context : BuildContext) (fault : Option Fault)
    (prepared : CompilationUnit × List String) (filled : CompilationUnit) :
    Report CompilationUnit :=
  (tolerate fault (.entriesUnreadable prepared.1.sourceName prepared.1.offset)).bind fun _ =>
    (context.bindLines filled prepared.2).bind fun lined =>
      (context.resolveTypes lined).bind fun built => ⟨[builtEvent built], .ok built⟩

theorem build_eq {source : UnitSource} {top : Entry} (fetched : source.top = .ok top) :
    context.build source = (context.prepare source top).bind fun prepared =>
      (addEntries source.byteOrder prepared.1 top.children.items).bind
        (context.complete top.children.fault prepared) := by
  simp only [build, fetched, Report.ofExcept_ok, Report.bind_pure, prepare, readEntries,
    Report.bind_assoc, Report.bind_map]
  rfl

@[simp]
theorem complete_countFrames (frames : Nat) (fault : Option Fault)
    (prepared : CompilationUnit × List String) (filled : CompilationUnit) :
    context.complete fault prepared (filled.countFrames frames) =
      (context.complete fault prepared filled).map (countFrames frames) := by
  simp only [complete, bindLines_countFrames, resolveTypes_countFrames, Report.bind_map,
    Report.map_bind]
  rfl

/-! ## Leaving out an entry -/

theorem addEntries_append (front back : List Entry) (unit : CompilationUnit) :
    addEntries byteOrder unit (front ++ back) =
      (addEntries byteOrder unit front).bind fun added => addEntries byteOrder added back := by
  induction front generalizing unit with
  | nil => simp [addEntries]
  | cons entry rest ih => simp [addEntries, ih]

theorem addEntry_of_malformation? {entry : Entry} {reason : EntryError}
    (malformed : malformation? byteOrder entry = some reason)
    (tolerable : reason.isFatal = false) (unit : CompilationUnit) :
    addEntry byteOrder unit entry =
      (Report.emit (reason.warning entry)).map fun _ =>
        unit.countFrames (frameBases entry) := by
  have failed : (outcomeOf byteOrder unit.offset unit.rows entry).contribution = .error reason :=
    contribution_outcomeOf_eq_error_iff.mpr malformed
  have remarked : remark byteOrder unit entry = .emit (reason.warning entry) := by
    simp only [remark, failed]
    cases reason with
    | children fault =>
        have tolerated : fault.isFatal = false := tolerable
        simp only [tolerate, tolerated, Bool.false_eq_true, if_false]
        rfl
    | unknownByteOrder => rfl
  have nothing : contributionOf byteOrder unit.offset unit.rows entry = .nothing := by
    rw [contributionOf, failed, orNothing]
  rw [addEntry_eq, remarked, absorb_eq, nothing]
  rfl

theorem addEntries_cons_of_malformation? {entry : Entry} {reason : EntryError}
    (malformed : malformation? byteOrder entry = some reason)
    (tolerable : reason.isFatal = false) (unit : CompilationUnit) (rest : List Entry) :
    addEntries byteOrder unit (entry :: rest) =
      (Report.emit (reason.warning entry)).bind fun _ =>
        (addEntries byteOrder unit rest).map (countFrames (frameBases entry)) := by
  rw [addEntries, addEntry_of_malformation? malformed tolerable]
  simp

theorem prepare_withChildren (source : UnitSource) (top : Entry) (entries : List Entry) :
    context.prepare (source.withChildren entries)
        { top with children := ⟨entries, top.children.fault⟩ } =
      context.prepare source top := rfl

/-- An item of a list parts it into what is in front of it and what is behind it. -/
theorem exists_front_back {α : Type} {items : List α} {position : Nat} {item : α}
    (found : items[position]? = some item) :
    ∃ front back, items = front ++ item :: back ∧ items.eraseIdx position = front ++ back := by
  obtain ⟨inside, rfl⟩ := List.getElem?_eq_some_iff.mp found
  refine ⟨items.take position, items.drop (position + 1), ?_, ?_⟩
  · rw [List.getElem_cons_drop, List.take_append_drop]
  · exact List.eraseIdx_eq_take_drop_succ items position

/-- A build with a malformed child of the top entry warns of it and counts its frame base,
and does all else as the build without the child. -/
theorem interjects_build (context : BuildContext) {source : UnitSource} {position : Nat}
    {entry : Entry} {reason : EntryError} (child : source.children[position]? = some entry)
    (malformed : malformation? source.byteOrder entry = some reason)
    (tolerable : reason.isFatal = false) :
    Report.Interjects (reason.warning entry) (countFrames (frameBases entry))
      (context.build (source.withoutChild position)) (context.build source) := by
  obtain ⟨front, back, children_eq, rest_eq⟩ := exists_front_back child
  cases fetched : source.top with
  | error fault =>
      rw [UnitSource.children, fetched] at child
      cases child
  | ok top =>
      have items_eq : top.children.items = front ++ entry :: back := by
        rw [← children_eq, UnitSource.children, fetched]
      have fetchedRest : (source.withoutChild position).top =
          .ok { top with children := ⟨front ++ back, top.children.fault⟩ } := by
        rw [UnitSource.withoutChild, rest_eq, UnitSource.withChildren, fetched]
        rfl
      have preparedRest : context.prepare (source.withoutChild position)
          { top with children := ⟨front ++ back, top.children.fault⟩ } =
            context.prepare source top := by
        rw [UnitSource.withoutChild, rest_eq, prepare_withChildren]
      rw [build_eq fetched, build_eq fetchedRest, preparedRest, items_eq]
      apply Report.Interjects.bind_left
      intro prepared
      rw [addEntries_append, addEntries_append, Report.bind_assoc, Report.bind_assoc]
      apply Report.Interjects.bind_left
      intro added
      rw [addEntries_cons_of_malformation? malformed tolerable, Report.bind_assoc]
      simp only [Report.bind_map, complete_countFrames, ← Report.map_bind]
      exact Report.Interjects.emit_bind ..

/-- A malformed child of the top entry, other than for exhausted memory, is left out: the
build comes to the same outcome as without the child, up to the frame base that the child
counts for, and where a unit is built one more message warns of the child.  A child that
counts for no frame base leaves no trace in the unit. -/
theorem build_withoutChild (context : BuildContext) {source : UnitSource} {position : Nat}
    {entry : Entry} {reason : EntryError}
    (child : source.children[position]? = some entry)
    (malformed : malformation? source.byteOrder entry = some reason)
    (tolerable : reason.isFatal = false) :
    (context.build source).outcome =
        (context.build (source.withoutChild position)).outcome.map
          (countFrames (frameBases entry)) ∧
      (¬ (entry.tag = .subprogram ∧ entry.has AttributeName.frameBase = true) →
        (context.build source).outcome =
          (context.build (source.withoutChild position)).outcome) ∧
      ∀ unit tracing, (context.build (source.withoutChild position)).outcome = .ok unit →
        ∃ earlier later,
          Event.messages tracing (context.build (source.withoutChild position)).events =
              earlier ++ later ∧
            Event.messages tracing (context.build source).events =
              earlier ++ .ofLevel .warn
                (Event.entryMalformed entry.tag entry.offset reason.text).text :: later := by
  have interjects := interjects_build context child malformed tolerable
  refine ⟨interjects.outcome, ?_, ?_⟩
  · intro countless
    have noFrames : frameBases entry = 0 := if_neg countless
    rw [interjects.outcome, noFrames, countFrames_zero, Except.map_id]
    rfl
  · intro unit tracing reached
    exact interjects.messages rfl tracing reached

/-- A struct that becomes unreadable behind its first member. -/
def truncatedStruct : Entry where
  tag := .structureType
  offset := 0x20
  attributes := [(AttributeName.name, some (.ofText "DW_FORM_string" "pair"))]
  children :=
    ⟨[{ tag := .member
        offset := 0x24
        attributes := [(AttributeName.name, some (.ofText "DW_FORM_string" "first"))]
        children := ⟨[], none⟩ }], some ⟨.badValue, "truncated"⟩⟩

/-- A function with a frame base whose variables are unreadable. -/
def truncatedFunction : Entry where
  tag := .subprogram
  offset := 0x30
  attributes :=
    [(AttributeName.name, some (.ofText "DW_FORM_string" "f")),
      (AttributeName.frameBase, some ⟨some "DW_FORM_exprloc", .list [.int 0x9c], rfl⟩)]
  children := ⟨[], some ⟨.badValue, "truncated"⟩⟩

/-- A unit in which nothing else is to be read. -/
def truncatedSource : UnitSource where
  top := .ok
    { tag := .other (some "DW_TAG_partial_unit")
      offset := 11
      attributes := []
      children := ⟨[truncatedStruct, truncatedFunction], none⟩ }

theorem build_truncatedStruct :
    truncatedSource.children[0]? = some truncatedStruct ∧
      malformation? truncatedSource.byteOrder truncatedStruct =
        some (.children ⟨.badValue, "truncated"⟩) ∧
        (build { files := {}, settings := {} } truncatedSource).outcome =
          (build { files := {}, settings := {} } (truncatedSource.withoutChild 0)).outcome := by
  have child : truncatedSource.children[0]? = some truncatedStruct := rfl
  have malformed : malformation? truncatedSource.byteOrder truncatedStruct =
      some (.children ⟨.badValue, "truncated"⟩) := rfl
  refine ⟨child, malformed, ?_⟩
  have leftOut := build_withoutChild { files := {}, settings := {} } child malformed rfl
  exact leftOut.2.1 (by decide)

/-- The frame base of an unreadable function stays counted. -/
theorem frameCount_truncatedFunction :
    truncatedSource.children[1]? = some truncatedFunction ∧
      malformation? truncatedSource.byteOrder truncatedFunction =
        some (.children ⟨.badValue, "truncated"⟩) ∧
        ((build { files := {}, settings := {} } truncatedSource).outcome.map
            CompilationUnit.frameCount).toOption = some 1 ∧
          ((build { files := {}, settings := {} }
              (truncatedSource.withoutChild 1)).outcome.map
                CompilationUnit.frameCount).toOption = some 0 :=
  ⟨rfl, rfl, rfl, rfl⟩

end BuildContext
end DebugIndex
