import DebugIndex.Proofs.CompilationUnit.EntryRelocation
import DebugIndex.Proofs.CompilationUnit.MalformedEntries
import DebugIndex.Proofs.Database.Globals
import DebugIndex.Proofs.Report.Correspondence

/-!
# Moving a unit

The types of a unit are found relative to the unit: when its offset and those of all its
entries are moved by the same distance, the unit is built with the types and references
moved, and with nothing else changed.
-/

namespace DebugIndex

/-- A unit at an offset that is moved, with its types and the references to them. -/
def CompilationUnit.moved (distance : Int) (unit : CompilationUnit) : CompilationUnit :=
  { unit with
    offset := unit.offset + distance
    types := unit.types.moved distance
    globals := unit.globals.map (Variable.moved distance)
    subprograms := unit.subprograms.map (Subprogram.moved distance) }

namespace CompilationUnit

open Extraction

variable {distance : Int} {unit : CompilationUnit}

/-- No reference of a unit is negative. -/
structure RefersForward (unit : CompilationUnit) : Prop where
  types : unit.types.RefersForward
  globals : ∀ item ∈ unit.globals, 0 ≤ item.typeOffset
  locals : ∀ subprogram ∈ unit.subprograms, ∀ item ∈ subprogram.locals, 0 ≤ item.typeOffset

theorem refersForward_of_isBare (bare : BuildContext.IsBare unit) : unit.RefersForward where
  types := by
    rw [bare.types]
    intro entry listed
    cases listed
  globals := by
    rw [bare.globals]
    intro item listed
    cases listed
  locals := by
    rw [bare.subprograms]
    intro subprogram listed
    cases listed

theorem refersForward_withTable (forward : unit.RefersForward) (source : UnitSource) :
    (BuildContext.withTable source unit).RefersForward := by
  simp only [BuildContext.withTable]
  split
  · exact ⟨forward.types, forward.globals, forward.locals⟩
  · exact forward

theorem refersForward_contribute (forward : unit.RefersForward) {contribution : Contribution}
    (added : contribution.RefersForward) : (contribute unit contribution).RefersForward := by
  obtain ⟨types, globals, locals⟩ := forward
  cases contribution with
  | nothing | dropped => exact ⟨types, globals, locals⟩
  | global item =>
      exact ⟨types, List.forall_mem_append.mpr ⟨globals, List.forall_mem_singleton.mpr added⟩,
        locals⟩
  | type entry =>
      exact ⟨List.forall_mem_append.mpr ⟨types, List.forall_mem_singleton.mpr added⟩, globals,
        locals⟩
  | subprogram subprogram =>
      exact ⟨types, globals,
        List.forall_mem_append.mpr ⟨locals, List.forall_mem_singleton.mpr added⟩⟩

theorem refersForward_absorb (forward : unit.RefersForward) (start : 0 ≤ unit.offset)
    {entry : Entry} (within : entry.RefersWithin) (byteOrder : Option ByteOrder) :
    (BuildContext.absorb byteOrder unit entry).RefersForward := by
  have countedForward : (unit.countFrames (frameBases entry)).RefersForward :=
    ⟨forward.types, forward.globals, forward.locals⟩
  rw [BuildContext.absorb_eq]
  exact refersForward_contribute countedForward (refersForward_contributionOf within start)

@[simp]
theorem contribute_moved (unit : CompilationUnit) (contribution : Contribution) :
    contribute (unit.moved distance) (contribution.moved distance) =
      (contribute unit contribution).moved distance := by
  cases contribution with
  | nothing | dropped => rfl
  | global item =>
      simp only [contribute, Contribution.moved, moved, addGlobal, List.map_append,
        List.map_singleton]
  | type entry =>
      simp only [contribute, Contribution.moved, moved, addType, TypeTable.add, TypeTable.moved,
        List.map_append, List.map_singleton]
  | subprogram added =>
      simp only [contribute, Contribution.moved, moved, addSubprogram, addSubprogramWith,
        List.map_append, List.map_singleton, List.length_map]
      rfl

/-- A moved entry adds to a moved unit what the entry adds to the unit, moved. -/
theorem absorb_moved (start : 0 ≤ unit.offset) {entry : Entry} (within : entry.RefersWithin)
    (byteOrder : Option ByteOrder) :
    BuildContext.absorb byteOrder (unit.moved distance) (entry.moved distance) =
      (BuildContext.absorb byteOrder unit entry).moved distance := by
  rw [BuildContext.absorb_eq, BuildContext.absorb_eq, ← contribute_moved, frameBases_moved,
    ← contributionOf_moved within start]
  rfl

@[simp]
theorem placeholderCount_moved : (unit.moved distance).placeholderCount =
    unit.placeholderCount := by
  simp only [placeholderCount, moved, List.getLast?_map, Option.bind_map]
  rfl

@[simp]
theorem withLines_moved (lines : List String) :
    (unit.moved distance).withLines lines = (unit.withLines lines).moved distance := by
  simp only [withLines, placeholderLines, placeholderCount_moved]
  split
  · rfl
  · simp only [moved, List.map_map]
    rfl

@[simp]
theorem withRowRange_moved : (unit.moved distance).withRowRange =
    unit.withRowRange.moved distance := by
  have sameRange : (unit.moved distance).isUnbounded = unit.isUnbounded := rfl
  have sameRows : (unit.moved distance).rows = unit.rows := rfl
  simp only [withRowRange, sameRange, sameRows]
  cases unit.isUnbounded <;> cases unit.rows.head? <;> cases unit.rows.getLast? <;> rfl

theorem bindLines_moved (lines : List String) :
    (unit.moved distance).bindLines lines = (unit.bindLines lines).moved distance := by
  simp only [bindLines, withLines_moved]
  rw [apply_ite (moved distance), ← withRowRange_moved]
  rfl

theorem types_bindLines (unit : CompilationUnit) (lines : List String) :
    (unit.bindLines lines).types = unit.types := by
  refine field_bindLines (fun unit lines => ?_) (fun _ => rfl) (fun _ _ _ => rfl) unit lines
  simp only [withLines]
  split <;> rfl

theorem locals_bindLines (unit : CompilationUnit) (lines : List String) :
    (unit.bindLines lines).subprograms.map Subprogram.locals =
      unit.subprograms.map Subprogram.locals := by
  refine @field_bindLines (List (List Variable))
    (fun unit => unit.subprograms.map Subprogram.locals)
    (fun unit lines => ?_) (fun _ => rfl) (fun _ _ _ => rfl) unit lines
  simp only [withLines]
  split
  · rfl
  · rw [List.map_map]
    rfl

theorem refersForward_bindLines (forward : unit.RefersForward) (lines : List String) :
    (unit.bindLines lines).RefersForward where
  types := types_bindLines unit lines ▸ forward.types
  globals := globals_bindLines unit lines ▸ forward.globals
  locals := by
    have sameLocals := locals_bindLines unit lines
    intro subprogram listed
    have known : subprogram.locals ∈ unit.subprograms.map Subprogram.locals :=
      sameLocals ▸ List.mem_map_of_mem listed
    obtain ⟨before, listedBefore, same⟩ := List.mem_map.mp known
    exact same ▸ forward.locals before listedBefore

end CompilationUnit

namespace BuildContext

open Extraction

variable {context : BuildContext} {source : UnitSource} {unit : CompilationUnit} {top : Entry}
  {distance : Int}

/-! ## The stages -/

theorem loadSource_moved :
    (context.loadSource (unit.moved distance) (top.moved distance)).outcome =
      (context.loadSource unit top).outcome.map fun headed =>
        (headed.1.moved distance, headed.2) := by
  have samePlace : context.locationOf (top.moved distance) = context.locationOf top := by
    rw [Entry.moved_eq]
    rfl
  have placed : context.place (unit.moved distance) (context.locationOf top) =
      (context.place unit (context.locationOf top)).moved distance := rfl
  have sameStatus : ((context.place unit (context.locationOf top)).moved distance).status =
      (context.place unit (context.locationOf top)).status := rfl
  simp only [loadSource, samePlace, placed, sameStatus]
  split
  · rfl
  · split
    · cases loaded : (Report.ofExcept Failure.encoding (SourceText.load? context.codecs
          context.files (context.locationOf top).fullPath context.settings.encoding)).outcome with
      | error failure => simp only [Report.bind, loaded, Except.map]
      | ok content =>
          simp only [Report.bind, loaded]
          cases content <;> rfl
    · rfl

theorem header_moved :
    (context.header (source.moved distance) (top.moved distance)).outcome =
      (context.header source top).outcome.map fun headed =>
        (headed.1.moved distance, headed.2) := by
  let bare : CompilationUnit := { offset := source.offset, tag := top.tag }
  have described : describe (bare.moved distance) (top.moved distance) =
      (describe bare top).moved distance := by
    rw [Entry.moved_eq]
    rfl
  simp only [header, tag_moved]
  split
  · calc (context.loadSource (describe (bare.moved distance) (top.moved distance))
            (top.moved distance)).outcome
        = (context.loadSource ((describe bare top).moved distance)
            (top.moved distance)).outcome := by rw [described]
      _ = _ := loadSource_moved
  · rfl

theorem readRows_moved :
    (readRows (source.moved distance) (unit.moved distance)).outcome =
      (readRows source unit).outcome.map (CompilationUnit.moved distance) := by
  have sameStatus : (unit.moved distance).status = unit.status := rfl
  simp only [readRows, sameStatus]
  split
  · exact Report.outcome_bind_eq_map_of_eq rfl fun _ _ => rfl
  · rfl

theorem outcome_tolerate (fault : Option Fault) (event other : String → Event) :
    (tolerate fault event).outcome = (tolerate fault other).outcome := by
  cases fault with
  | none => rfl
  | some fault =>
      simp only [tolerate]
      split <;> rfl

theorem remark_moved {byteOrder : Option ByteOrder} (start : 0 ≤ unit.offset) {entry : Entry}
    (within : entry.RefersWithin) :
    (remark byteOrder (unit.moved distance) (entry.moved distance)).outcome =
      (remark byteOrder unit entry).outcome := by
  have read : (outcomeOf byteOrder (unit.offset + distance) unit.rows
      (entry.moved distance)).contribution =
        (outcomeOf byteOrder unit.offset unit.rows entry).contribution.map
          (Contribution.moved distance) :=
    outcomeOf_moved within start
  simp only [remark, CompilationUnit.moved, read]
  cases (outcomeOf byteOrder unit.offset unit.rows entry).contribution with
  | ok contribution => cases contribution <;> rfl
  | error reason =>
      cases reason with
      | children fault => exact outcome_tolerate (some fault) _ _
      | unknownByteOrder => rfl

theorem addEntry_moved {byteOrder : Option ByteOrder} (start : 0 ≤ unit.offset) {entry : Entry}
    (within : entry.RefersWithin) :
    (addEntry byteOrder (unit.moved distance) (entry.moved distance)).outcome =
      (addEntry byteOrder unit entry).outcome.map (CompilationUnit.moved distance) := by
  rw [addEntry_eq, addEntry_eq, Report.outcome_map, Report.outcome_map,
    remark_moved start within, CompilationUnit.absorb_moved start within]
  cases (remark byteOrder unit entry).outcome <;> rfl

theorem addEntries_moved {byteOrder : Option ByteOrder} (start : 0 ≤ unit.offset)
    {entries : List Entry} (within : ∀ entry ∈ entries, entry.RefersWithin) :
    (addEntries byteOrder (unit.moved distance) (entries.map (Entry.moved distance))).outcome =
      (addEntries byteOrder unit entries).outcome.map (CompilationUnit.moved distance) := by
  induction entries generalizing unit with
  | nil => rfl
  | cons entry rest ih =>
      obtain ⟨entryWithin, restWithin⟩ := List.forall_mem_cons.mp within
      refine Report.outcome_bind_eq_map (addEntry_moved start entryWithin)
        fun added read => ih ?_ restWithin
      rw [eq_of_addEntry read, offset_absorb]
      exact start

theorem refersForward_foldl_absorb {byteOrder : Option ByteOrder} (start : 0 ≤ unit.offset)
    (forward : unit.RefersForward) {entries : List Entry}
    (within : ∀ entry ∈ entries, entry.RefersWithin) :
    (entries.foldl (absorb byteOrder) unit).RefersForward := by
  induction entries generalizing unit with
  | nil => exact forward
  | cons entry rest ih =>
      obtain ⟨entryWithin, restWithin⟩ := List.forall_mem_cons.mp within
      refine ih ?_ ?_ restWithin
      · rw [offset_absorb]
        exact start
      · exact CompilationUnit.refersForward_absorb forward start entryWithin byteOrder

theorem readEntries_moved (start : 0 ≤ unit.offset)
    (within : ∀ entry ∈ top.children.items, entry.RefersWithin) :
    (readEntries (source.moved distance) (top.moved distance) (unit.moved distance)).outcome =
      (readEntries source top unit).outcome.map (CompilationUnit.moved distance) := by
  have children : (top.moved distance).children =
      ⟨top.children.items.map (Entry.moved distance), top.children.fault⟩ := by
    rw [Entry.moved_eq]
  simp only [readEntries, children]
  exact Report.outcome_bind_eq_map (addEntries_moved start within) fun _ _ =>
    Report.outcome_bind_eq_map_of_eq (outcome_tolerate _ _ _) fun _ _ => rfl

theorem bindLines_moved (lines : List String) :
    (context.bindLines (unit.moved distance) lines).outcome =
      (context.bindLines unit lines).outcome.map (CompilationUnit.moved distance) := by
  simp only [bindLines, CompilationUnit.placeholderCount_moved, CompilationUnit.bindLines_moved]
  split
  · rfl
  · split
    · rfl
    · split <;> rfl

/-! ## The types of the variables -/

@[simp]
theorem limits_moved (types : TypeTable) :
    context.limits (types.moved distance) = context.limits types := by
  simp [limits]

@[simp]
theorem tell_moved (notice : Resolution.Notice) :
    (context.tell (notice.moved distance)).outcome = (context.tell notice).outcome := by
  cases notice with
  | truncated name typeOffset typeName =>
      simp only [tell, Resolution.Notice.moved]
      split <;> rfl
  | collapsed name depth => rfl

section Types

variable {types : TypeTable} (forth : 0 ≤ distance) (forward : types.RefersForward)
include forth forward

theorem missingBound?_moved {item : Variable} (begins : 0 ≤ item.typeOffset) :
    context.missingBound? (types.moved distance) (item.moved distance) =
      context.missingBound? types item := by
  have sameReference : ((types.moved distance).target? (item.moved distance).typeOffset).isSome =
      (types.target? item.typeOffset).isSome := by
    rw [Variable.moved_eq, TypeTable.target?_moved forth begins, Option.isSome_map]
  have sameOpcode : (item.moved distance).opcode = item.opcode := by rw [Variable.moved_eq]
  simp only [missingBound?, limits_moved, sameReference, sameOpcode,
    Resolution.walkOf_moved forth forward _ begins, Resolution.Walk.moved]
  cases (Resolution.walkOf types (context.limits types) item).ending <;> rfl

theorem resolveVariable_moved {item : Variable} (begins : 0 ≤ item.typeOffset) :
    (context.resolveVariable (types.moved distance) (item.moved distance)).outcome =
      (context.resolveVariable types item).outcome.map (Variable.moved distance) := by
  simp only [resolveVariable, missingBound?_moved forth forward begins, limits_moved,
    Resolution.resolve_moved forth forward _ _ begins]
  split
  · rfl
  · exact Report.outcome_bind_eq_map_of_eq
      (Report.outcome_each_eq_of_eq fun notice _ => tell_moved notice) fun _ _ => rfl

theorem resolveSubprogram_moved {subprogram : Subprogram}
    (begin : ∀ item ∈ subprogram.locals, 0 ≤ item.typeOffset) :
    (context.resolveSubprogram (types.moved distance) (subprogram.moved distance)).outcome =
      (context.resolveSubprogram types subprogram).outcome.map (Subprogram.moved distance) :=
  Report.outcome_bind_eq_map
    (Report.outcome_each_eq_map fun item listed =>
      resolveVariable_moved forth forward (begin item listed))
    fun _ _ => rfl

end Types

theorem resolveTypes_moved (forth : 0 ≤ distance) (forward : unit.RefersForward) :
    (context.resolveTypes (unit.moved distance)).outcome =
      (context.resolveTypes unit).outcome.map (CompilationUnit.moved distance) :=
  Report.outcome_bind_eq_map
    (Report.outcome_each_eq_map fun item listed =>
      resolveVariable_moved forth forward.types (forward.globals item listed))
    fun _ _ =>
      Report.outcome_bind_eq_map
        (Report.outcome_each_eq_map fun subprogram listed =>
          resolveSubprogram_moved forth forward.types (forward.locals subprogram listed))
        fun _ _ => rfl

/-- A unit whose type references count from its start and lead behind it is built with its
types and references moved when it is moved, and nothing else of it changes. -/
theorem outcome_build_moved (context : BuildContext) {source : UnitSource} {distance : Int}
    (start : 0 ≤ source.offset) (within : source.RefersWithin) (forth : 0 ≤ distance) :
    (context.build (source.moved distance)).outcome =
      (context.build source).outcome.map (CompilationUnit.moved distance) := by
  cases fetched : source.top with
  | error fault =>
      simp only [build, UnitSource.moved, fetched]
      rfl
  | ok top =>
      have movedTop : (source.moved distance).top = .ok (top.moved distance) := by
        simp only [UnitSource.moved, fetched, Except.map]
      have entriesWithin : ∀ entry ∈ top.children.items, entry.RefersWithin := by
        simpa only [UnitSource.RefersWithin, UnitSource.children, fetched] using within
      simp only [build, movedTop, fetched, Report.ofExcept_ok, Report.bind_pure]
      refine Report.outcome_bind_eq_map header_moved fun headed described => ?_
      refine Report.outcome_bind_eq_map readRows_moved fun tabled read => ?_
      obtain rfl := eq_of_readRows read
      -- references are looked up in the end, so none may be negative up to then
      have tabledStart : 0 ≤ (withTable source headed.1).offset := by
        rw [CompilationUnit.offset_withTable, offset_of_header described]
        exact start
      have tabledForward : (withTable source headed.1).RefersForward :=
        CompilationUnit.refersForward_withTable
          (CompilationUnit.refersForward_of_isBare (isBare_of_header described)) source
      refine Report.outcome_bind_eq_map (readEntries_moved tabledStart entriesWithin)
        fun filled absorbed => ?_
      obtain rfl := eq_of_readEntries absorbed
      refine Report.outcome_bind_eq_map (bindLines_moved headed.2) fun lined bound => ?_
      obtain rfl := eq_of_bindLines bound
      have filledForward : (top.children.items.foldl (absorb source.byteOrder)
          (withTable source headed.1)).RefersForward :=
        refersForward_foldl_absorb tabledStart tabledForward entriesWithin
      have linedForward := CompilationUnit.refersForward_bindLines filledForward headed.2
      exact Report.outcome_bind_eq_map (resolveTypes_moved forth linedForward) fun _ _ => rfl

/-- A reference to the entry at a distance from the start of the unit. -/
def typeReference (target : Int) : String × Option Attribute :=
  (AttributeName.type, some (.ofInt "DW_FORM_ref4" target))

/-- A unit with a list whose nodes point to the next one. -/
def listSource : UnitSource where
  offset := 0x100
  top := .ok
    { tag := .other (some "DW_TAG_partial_unit")
      offset := 0x10b
      attributes := []
      children :=
        ⟨[{ tag := .pointerType
            offset := 0x120
            attributes := [typeReference 0x30]
            children := ⟨[], none⟩ },
          { tag := .structureType
            offset := 0x130
            attributes := [(AttributeName.name, some (.ofText "DW_FORM_string" "node"))]
            children :=
              ⟨[{ tag := .member
                  offset := 0x134
                  attributes :=
                    [(AttributeName.name, some (.ofText "DW_FORM_string" "next")),
                      typeReference 0x20]
                  children := ⟨[], none⟩ }],
                none⟩ },
          { tag := .variableObject
            offset := 0x140
            attributes :=
              [(AttributeName.name, some (.ofText "DW_FORM_string" "head")),
                (AttributeName.location,
                  some (.ofBytes "DW_FORM_exprloc" [addressOpcode, 0, 0, 0x20, 0])),
                typeReference 0x30]
            children := ⟨[], none⟩ }],
          none⟩ }

theorem refersWithin_listSource : listSource.RefersWithin := by
  intro entry listed
  simp only [UnitSource.children, listSource, List.mem_cons, List.not_mem_nil, or_false] at listed
  rcases listed with rfl | rfl | rfl
  · exact ⟨fun _ => ⟨0x30, by decide, rfl, rfl⟩, by simp⟩
  · refine ⟨fun present => (by cases present), ?_⟩
    intro child listed
    obtain rfl := List.mem_singleton.mp listed
    exact fun _ => ⟨0x20, by decide, rfl, rfl⟩
  · exact ⟨fun _ => ⟨0x30, by decide, rfl, rfl⟩, by simp⟩

/-- The type names and references of the global variables of a unit and of their members. -/
def typesOfGlobals (unit : CompilationUnit) : List (String × Int) :=
  unit.globals.flatMap fun item =>
    (item :: item.members).map fun part => (part.typeName, part.typeOffset)

/-- The head of a list is a node that points to one wherever its unit lies. -/
theorem build_listSource_moved :
    (build { files := {}, settings := {} } (listSource.moved 0x1000)).outcome =
        (build { files := {}, settings := {} } listSource).outcome.map
          (CompilationUnit.moved 0x1000) ∧
      (build { files := {}, settings := {} } listSource).outcome.toOption.map typesOfGlobals =
        some [("node", 0x130), ("node* ", 0x120)] ∧
      (build { files := {}, settings := {} } (listSource.moved 0x1000)).outcome.toOption.map
          typesOfGlobals =
        some [("node", 0x1130), ("node* ", 0x1120)] := by
  refine ⟨outcome_build_moved _ (by decide) refersWithin_listSource (by decide), ?_, ?_⟩
  · decide +kernel
  · decide +kernel

end BuildContext
end DebugIndex
