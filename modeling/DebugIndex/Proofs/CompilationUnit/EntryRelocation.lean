import DebugIndex.Proofs.CompilationUnit.Contributions
import DebugIndex.Proofs.TypeTable.Relocation

/-!
# Moving entries

When the entries of a unit and the unit itself are moved by the same distance, each entry
contributes what it did, with the offset of its type and its references to types moved.
What it takes is that type references count from the start of the unit and lead behind it,
so that no reference turns into one to nothing, or out of one.
-/

namespace DebugIndex

/-! ## Entries -/

namespace Entry

mutual

def moved (distance : Int) : Entry → Entry
  | ⟨tag, offset, attributes, children⟩ =>
      ⟨tag, offset + distance, attributes, movedFeed distance children⟩

/-- What a reader delivers of entries that are moved. -/
def movedFeed (distance : Int) : Feed Entry → Feed Entry
  | ⟨items, fault⟩ => ⟨movedAll distance items, fault⟩

def movedAll (distance : Int) : List Entry → List Entry
  | [] => []
  | entry :: rest => moved distance entry :: movedAll distance rest

end

theorem movedAll_eq_map (distance : Int) (entries : List Entry) :
    movedAll distance entries = entries.map (moved distance) := by
  induction entries with
  | nil => rfl
  | cons entry rest ih => rw [movedAll, ih, List.map_cons]

/-- Moving an entry changes its offset and those below it, and nothing else. -/
theorem moved_eq (distance : Int) (entry : Entry) :
    entry.moved distance =
      { entry with
        offset := entry.offset + distance
        children := ⟨entry.children.items.map (moved distance), entry.children.fault⟩ } := by
  obtain ⟨tag, offset, attributes, items, fault⟩ := entry
  rw [moved, movedFeed, movedAll_eq_map]

/-- If an entry has a type reference, it counts from the start of the unit and leads behind
it. -/
def RefersLocally (entry : Entry) : Prop :=
  entry.has AttributeName.type = true → ∃ target : Int, 0 < target ∧
    entry.formClass? AttributeName.type = some .localReference ∧
      entry.signed? AttributeName.type = some target

/-- The type references of an entry and of its children count from the start of the unit
and lead behind it. -/
structure RefersWithin (entry : Entry) : Prop where
  own : entry.RefersLocally
  children : ∀ child ∈ entry.children.items, child.RefersLocally

end Entry

/-- A unit moved by a distance: its offset, and those of all its entries. -/
def UnitSource.moved (distance : Int) (source : UnitSource) : UnitSource :=
  { source with
    offset := source.offset + distance
    top := source.top.map (Entry.moved distance) }

/-- The type references of all entries that are read count from the start of the unit and
lead behind it. -/
def UnitSource.RefersWithin (source : UnitSource) : Prop :=
  ∀ entry ∈ source.children, entry.RefersWithin

def Subprogram.moved (distance : Int) (subprogram : Subprogram) : Subprogram :=
  { subprogram with locals := subprogram.locals.map (Variable.moved distance) }

namespace Extraction

/-- What an entry contributes when its unit is moved. -/
def Contribution.moved (distance : Int) : Contribution → Contribution
  | .global item => .global (item.moved distance)
  | .type entry => .type (entry.moved distance)
  | .subprogram added => .subprogram (added.moved distance)
  | other => other

variable {byteOrder : Option ByteOrder} {unitOffset distance : Int} {rows : List LineRow}
  {entry : Entry}

@[simp]
theorem tag_moved (distance : Int) (entry : Entry) : (entry.moved distance).tag = entry.tag := by
  rw [Entry.moved_eq]

/-- A type reference leads nowhere in any unit, or behind the start of each. -/
theorem reference_cases (refers : entry.RefersLocally) :
    (∀ start, entry.reference AttributeName.type start = 0) ∨
      ∃ target : Int, 0 < target ∧
        ∀ start, entry.reference AttributeName.type start = target + start := by
  cases present : entry.has AttributeName.type with
  | true =>
      obtain ⟨target, positive, form, value⟩ := refers present
      refine Or.inr ⟨target, positive, fun start => ?_⟩
      simp only [Entry.reference, value, form]
  | false =>
      refine Or.inl fun start => ?_
      simp only [Entry.has, Option.isSome_eq_false_iff, Option.isNone_iff_eq_none] at present
      simp only [Entry.reference, Entry.signed?, Entry.value?, Entry.find?, present,
        Option.join_none, Option.map_none]

theorem reference_nonneg (refers : entry.RefersLocally) (start : 0 ≤ unitOffset) :
    0 ≤ entry.reference AttributeName.type unitOffset := by
  rcases reference_cases refers with nowhere | ⟨target, positive, leads⟩
  · exact Int.le_of_eq (nowhere unitOffset).symm
  · rw [leads]
    omega

/-- A type reference that counts from the start of the unit moves with the unit. -/
theorem reference_moved (refers : entry.RefersLocally) (start : 0 ≤ unitOffset) :
    (entry.moved distance).reference AttributeName.type (unitOffset + distance) =
      moveReference distance (entry.reference AttributeName.type unitOffset) := by
  have sameAttributes : (entry.moved distance).reference AttributeName.type =
      entry.reference AttributeName.type := by
    rw [Entry.moved_eq]
    rfl
  rw [sameAttributes]
  rcases reference_cases refers with nowhere | ⟨target, positive, leads⟩
  · rw [nowhere, nowhere, moveReference_zero]
  · have ahead : target + unitOffset ≠ 0 := by omega
    rw [leads, leads, moveReference_of_ne_zero ahead]
    omega

@[simp]
theorem locationOf_moved (distance : Int) (entry : Entry) :
    locationOf (entry.moved distance) = locationOf entry := by
  rw [Entry.moved_eq]
  rfl

theorem variableOf_moved (refers : entry.RefersLocally) (start : 0 ≤ unitOffset) :
    variableOf (unitOffset + distance) (entry.moved distance) =
      (variableOf unitOffset entry).moved distance := by
  rw [Variable.moved_eq]
  simp only [variableOf, reference_moved refers start]
  rw [Entry.moved_eq]
  rfl

theorem globalOf_moved (refers : entry.RefersLocally) (start : 0 ≤ unitOffset) :
    globalOf byteOrder (unitOffset + distance) (entry.moved distance) =
      (globalOf byteOrder unitOffset entry).map (Contribution.moved distance) := by
  have sameName : (entry.moved distance).string? AttributeName.name =
      entry.string? AttributeName.name := by
    rw [Entry.moved_eq]
    rfl
  cases read : staticAddress byteOrder (locationOf entry) with
  | error reason =>
      have readMoved : staticAddress byteOrder (locationOf (entry.moved distance)) =
          .error reason := locationOf_moved distance entry ▸ read
      rw [globalOf_of_error read, globalOf_of_error readMoved]
      rfl
  | ok address =>
      have readMoved : staticAddress byteOrder (locationOf (entry.moved distance)) =
          .ok address := locationOf_moved distance entry ▸ read
      rw [globalOf_of_ok read, globalOf_of_ok readMoved, sameName, variableOf_moved refers start]
      simp only [Except.map, Variable.moved_eq]
      split
      · rfl
      · simp only [Contribution.moved, Variable.moved_eq]

theorem localOf_moved (refers : entry.RefersLocally) (start : 0 ≤ unitOffset) :
    localOf (unitOffset + distance) (entry.moved distance) =
      (localOf unitOffset entry).moved distance := by
  simp only [localOf, variableOf_moved refers start, locationOf_moved, tag_moved]
  split
  · simp only [Variable.moved_eq]
  · rfl

theorem memberOf_moved (refers : entry.RefersLocally) (start : 0 ≤ unitOffset) :
    memberOf (unitOffset + distance) (entry.moved distance) =
      (memberOf unitOffset entry).moved distance := by
  simp only [memberOf, Member.moved, reference_moved refers start]
  rw [Entry.moved_eq]
  rfl

theorem map_filter_moved {α : Type} {children : List Entry} {keep : Entry → Bool}
    {make again : Entry → α} {move : α → α}
    (sameKept : ∀ child, keep (child.moved distance) = keep child)
    (moves : ∀ child ∈ children, again (child.moved distance) = move (make child)) :
    ((children.map (Entry.moved distance)).filter keep).map again =
      ((children.filter keep).map make).map move := by
  have sameKeep : keep ∘ Entry.moved distance = keep := funext sameKept
  rw [List.filter_map, sameKeep, List.map_map, List.map_map]
  apply List.map_congr_left
  intro child kept
  exact moves child (List.mem_filter.mp kept).1

theorem typeOf_moved (within : entry.RefersWithin) (start : 0 ≤ unitOffset) :
    typeOf (unitOffset + distance) (entry.moved distance) =
      (typeOf unitOffset entry).map (Contribution.moved distance) := by
  have plain : plainTypeOf (unitOffset + distance) (entry.moved distance) =
      (plainTypeOf unitOffset entry).moved distance := by
    simp only [plainTypeOf, TypeEntry.moved, reference_moved within.own start, List.map_nil]
    rw [Entry.moved_eq]
    rfl
  have members : (((entry.children.items.map (Entry.moved distance)).filter
      fun child => child.tag = .member).map (memberOf (unitOffset + distance))) =
        ((entry.children.items.filter fun child => child.tag = .member).map
          (memberOf unitOffset)).map (Member.moved distance) :=
    map_filter_moved (fun child => by rw [tag_moved])
      fun child listed => memberOf_moved (within.children child listed) start
  simp only [typeOf, plain, tag_moved]
  rw [Entry.moved_eq]
  split
  · cases entry.children.fault with
    | some fault => rfl
    | none =>
        simp only [members]
        rfl
  · rfl

theorem subprogramOf_moved (within : entry.RefersWithin) (start : 0 ≤ unitOffset) :
    subprogramOf (unitOffset + distance) rows (entry.moved distance) =
      (subprogramOf unitOffset rows entry).map (Contribution.moved distance) := by
  have locals : (((entry.children.items.map (Entry.moved distance)).filter
      fun child => child.tag.isLocal).map (localOf (unitOffset + distance))) =
        ((entry.children.items.filter fun child => child.tag.isLocal).map
          (localOf unitOffset)).map (Variable.moved distance) :=
    map_filter_moved (fun child => by rw [tag_moved])
      fun child listed => localOf_moved (within.children child listed) start
  rw [Entry.moved_eq]
  simp only [subprogramOf]
  cases entry.children.fault with
  | some fault => rfl
  | none =>
      simp only [locals]
      rfl

/-- Reading a moved entry leads to the moved contribution, or to the same reason why there
is none. -/
theorem outcomeOf_moved (within : entry.RefersWithin) (start : 0 ≤ unitOffset) :
    (outcomeOf byteOrder (unitOffset + distance) rows (entry.moved distance)).contribution =
      (outcomeOf byteOrder unitOffset rows entry).contribution.map
        (Contribution.moved distance) := by
  simp only [outcomeOf, tag_moved]
  split
  · exact globalOf_moved within.own start
  · split
    · exact typeOf_moved within start
    · split
      · exact subprogramOf_moved within start
      · rfl

@[simp]
theorem frameBases_moved : frameBases (entry.moved distance) = frameBases entry := by
  rw [Entry.moved_eq]
  rfl

theorem contributionOf_moved (within : entry.RefersWithin) (start : 0 ≤ unitOffset) :
    contributionOf byteOrder (unitOffset + distance) rows (entry.moved distance) =
      (contributionOf byteOrder unitOffset rows entry).moved distance := by
  simp only [contributionOf, outcomeOf_moved within start]
  cases (outcomeOf byteOrder unitOffset rows entry).contribution <;> rfl

/-! ### References that are not negative -/

def Contribution.RefersForward : Contribution → Prop
  | .global item => 0 ≤ item.typeOffset
  | .type entry => entry.RefersForward
  | .subprogram added => ∀ item ∈ added.locals, 0 ≤ item.typeOffset
  | _ => True

theorem typeOffset_localOf : (localOf unitOffset entry).typeOffset =
    entry.reference AttributeName.type unitOffset := by
  simp only [localOf]
  split <;> rfl

theorem refersForward_globalOf (refers : entry.RefersLocally) (start : 0 ≤ unitOffset) :
    (orNothing (globalOf byteOrder unitOffset entry)).RefersForward := by
  cases read : staticAddress byteOrder (locationOf entry) with
  | error reason =>
      rw [globalOf_of_error read]
      trivial
  | ok address =>
      rw [globalOf_of_ok read, orNothing]
      split
      · trivial
      · exact reference_nonneg refers start

theorem refersForward_typeOf (within : entry.RefersWithin) (start : 0 ≤ unitOffset) :
    (orNothing (typeOf unitOffset entry)).RefersForward := by
  have ownForward := reference_nonneg within.own start
  simp only [typeOf]
  split
  · cases entry.children.fault with
    | some fault => trivial
    | none =>
        refine ⟨ownForward, fun member listed => ?_⟩
        obtain ⟨child, kept, rfl⟩ := List.mem_map.mp listed
        exact reference_nonneg (within.children child (List.mem_filter.mp kept).1) start
  · exact ⟨ownForward, fun member listed => by cases listed⟩

theorem refersForward_subprogramOf (within : entry.RefersWithin) (start : 0 ≤ unitOffset) :
    (orNothing (subprogramOf unitOffset rows entry)).RefersForward := by
  simp only [subprogramOf]
  cases entry.children.fault with
  | some fault => trivial
  | none =>
      intro item listed
      obtain ⟨child, kept, rfl⟩ := List.mem_map.mp listed
      rw [typeOffset_localOf]
      exact reference_nonneg (within.children child (List.mem_filter.mp kept).1) start

theorem refersForward_contributionOf (within : entry.RefersWithin) (start : 0 ≤ unitOffset) :
    (contributionOf byteOrder unitOffset rows entry).RefersForward := by
  simp only [contributionOf, outcomeOf]
  split
  · exact refersForward_globalOf within.own start
  · split
    · exact refersForward_typeOf within start
    · split
      · exact refersForward_subprogramOf within start
      · trivial

end Extraction
end DebugIndex
