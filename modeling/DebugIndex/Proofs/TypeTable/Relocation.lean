import DebugIndex.Proofs.TypeTable.MemberTree

/-!
# Moving a type table

All offsets of a type table can be moved by the same distance, and with them the references
between its entries: a reference to nothing stays one.  As long as no reference is negative,
it leads to the same entry as before, so every walk is the same, and a variable resolves to
the same type.  Nothing is asked of the table else: its references can be cyclic or lead
nowhere, and its entries can repeat an offset.
-/

namespace DebugIndex

/-- A reference moved by a distance; zero refers to nothing and stays where it is. -/
def moveReference (distance reference : Int) : Int :=
  if reference = 0 then 0 else reference + distance

def Member.moved (distance : Int) (member : Member) : Member :=
  { member with typeOffset := moveReference distance member.typeOffset }

namespace TypeEntry

/-- An entry at an offset that is moved, with its references moved too. -/
def moved (distance : Int) (entry : TypeEntry) : TypeEntry :=
  { entry with
    offset := entry.offset + distance
    typeOffset := moveReference distance entry.typeOffset
    members := entry.members.map (Member.moved distance) }

def RefersForward (entry : TypeEntry) : Prop :=
  0 ≤ entry.typeOffset ∧ ∀ member ∈ entry.members, 0 ≤ member.typeOffset

end TypeEntry

namespace TypeTable

def moved (distance : Int) (table : TypeTable) : TypeTable where
  entries := table.entries.map (TypeEntry.moved distance)

def RefersForward (table : TypeTable) : Prop :=
  ∀ entry ∈ table.entries, entry.RefersForward

end TypeTable

namespace Variable

mutual

/-- A variable with its reference moved, and those of its members. -/
def moved (distance : Int) : Variable → Variable
  | ⟨name, typeOffset, opcode, address, offset, typeName, capabilities, byteSize, encoding,
      members⟩ =>
      ⟨name, moveReference distance typeOffset, opcode, address, offset, typeName, capabilities,
        byteSize, encoding, movedAll distance members⟩

/-- All of some variables with their references moved. -/
def movedAll (distance : Int) : List Variable → List Variable
  | [] => []
  | item :: rest => moved distance item :: movedAll distance rest

end

theorem movedAll_eq_map (distance : Int) (items : List Variable) :
    movedAll distance items = items.map (moved distance) := by
  induction items with
  | nil => rfl
  | cons item rest ih => rw [movedAll, ih, List.map_cons]

/-- Moving a variable changes its reference and those in its member tree, and nothing
else. -/
theorem moved_eq (distance : Int) (item : Variable) :
    item.moved distance =
      { item with
        typeOffset := moveReference distance item.typeOffset
        members := item.members.map (moved distance) } := by
  cases item
  rw [moved, movedAll_eq_map]

end Variable

section References

variable {distance reference : Int}

@[simp]
theorem moveReference_zero : moveReference distance 0 = 0 := rfl

theorem moveReference_of_ne_zero (leads : reference ≠ 0) :
    moveReference distance reference = reference + distance :=
  if_neg leads

theorem moveReference_eq_zero_iff (forth : 0 ≤ distance) (forward : 0 ≤ reference) :
    moveReference distance reference = 0 ↔ reference = 0 := by
  simp only [moveReference]
  split <;> omega

end References

namespace TypeTable

variable {table : TypeTable} {distance reference : Int}

@[simp]
theorem size_moved : (table.moved distance).size = table.size :=
  List.length_map ..

theorem get?_moved (offset : Int) :
    (table.moved distance).get? (offset + distance) =
      (table.get? offset).map (TypeEntry.moved distance) := by
  have sameOffsets : ((fun entry : TypeEntry => decide (entry.offset = offset + distance)) ∘
      TypeEntry.moved distance) = fun entry => decide (entry.offset = offset) := by
    funext entry
    simp only [Function.comp_apply, TypeEntry.moved, Int.add_left_inj]
  simp only [get?, moved, List.find?_map, sameOffsets]

theorem target?_moved (forth : 0 ≤ distance) (forward : 0 ≤ reference) :
    (table.moved distance).target? (moveReference distance reference) =
      (table.target? reference).map (TypeEntry.moved distance) := by
  simp only [target?, moveReference_eq_zero_iff forth forward]
  by_cases leads : reference = 0
  · simp only [leads, if_true, Option.map_none]
  · simp only [leads, if_false, moveReference_of_ne_zero leads, get?_moved]

theorem mem_of_target? {entry : TypeEntry} (found : table.target? reference = some entry) :
    entry ∈ table.entries := by
  simp only [target?] at found
  split at found
  · cases found
  · exact List.mem_of_find?_eq_some found

theorem mem_of_isChain {entries : List TypeEntry} (chain : table.IsChain reference entries)
    {entry : TypeEntry} (member : entry ∈ entries) : entry ∈ table.entries := by
  induction entries generalizing reference with
  | nil => cases member
  | cons first rest ih =>
      obtain ⟨found, onward⟩ := chain
      rcases List.mem_cons.mp member with rfl | later
      · exact mem_of_target? found
      · exact ih onward later

end TypeTable

namespace TypeEntry

variable {distance : Int} {entry : TypeEntry}

theorem outgoing_moved :
    (entry.moved distance).outgoing = moveReference distance entry.outgoing := by
  cases tag : entry.tag <;> simp [outgoing, moved, tag]

theorem outgoing_nonneg (forward : entry.RefersForward) : 0 ≤ entry.outgoing := by
  cases tag : entry.tag <;> simp [outgoing, tag, forward.1]

theorem isInnermost_moved (forth : 0 ≤ distance) (forward : entry.RefersForward) :
    (entry.moved distance).isInnermost = entry.isInnermost := by
  simp only [isInnermost, moved, moveReference_eq_zero_iff forth forward.1]

end TypeEntry

namespace Resolution

/-! ## Walks -/

/-- The ending of a walk through a table that is moved. -/
def Ending.moved (distance : Int) : Ending → Ending
  | .aggregate entry => .aggregate (entry.moved distance)
  | other => other

/-- A walk through a table that is moved gathers the same. -/
def Walk.moved (distance : Int) (walked : Walk) : Walk :=
  { walked with ending := walked.ending.moved distance }

variable {table : TypeTable} {distance : Int}

theorem progress_visit_moved (forth : 0 ≤ distance) {entry : TypeEntry}
    (forward : entry.RefersForward) (progress : Progress) :
    (visit (entry.moved distance) progress).1 = (visit entry progress).1 := by
  have refers := moveReference_eq_zero_iff forth forward.1
  cases tag : entry.tag with
  | structureType | unionType | pointerType =>
      simp only [visit, visit.aggregate, TypeEntry.moved, tag, Progress.writeName, ne_eq, refers]
      split <;> rfl
  | typedef =>
      simp only [visit, TypeEntry.moved, tag]
      split <;> rfl
  | baseType =>
      simp only [visit, TypeEntry.moved, tag, Progress.writeName]
      rfl
  | _ => simp only [visit, TypeEntry.moved, tag]

theorem behind_moved (forth : 0 ≤ distance) {entry : TypeEntry}
    (forward : entry.RefersForward) (onward : Walk) :
    (onward.moved distance).behind (entry.moved distance) =
      (onward.behind entry).moved distance := by
  simp only [Walk.behind, Walk.moved, TypeEntry.isInnermost_moved forth forward]
  split <;> rfl

theorem walk_moved (forth : 0 ≤ distance) (forward : table.RefersForward) (remaining : Nat)
    {reference : Int} (begins : 0 ≤ reference) (progress : Progress) :
    walk (table.moved distance) remaining (moveReference distance reference) progress =
      (walk table remaining reference progress).moved distance := by
  have leads : (table.moved distance).target? (moveReference distance reference) =
      (table.target? reference).map (TypeEntry.moved distance) :=
    TypeTable.target?_moved forth begins
  induction remaining generalizing reference progress with
  | zero =>
      rw [walk_zero, walk_zero, leads, Option.isSome_map]
      cases table.target? reference <;> rfl
  | succ remaining ih =>
      cases found : table.target? reference with
      | none =>
          rw [found, Option.map_none] at leads
          rw [walk_of_none leads, walk_of_none found]
          rfl
      | some entry =>
          rw [found, Option.map_some] at leads
          have entryForward := forward entry (TypeTable.mem_of_target? found)
          have onward := TypeEntry.outgoing_nonneg entryForward
          rw [walk_of_some leads, walk_of_some found, TypeEntry.outgoing_moved,
            progress_visit_moved forth entryForward,
            ih onward _ (TypeTable.target?_moved forth onward), behind_moved forth entryForward]

theorem walkOf_moved (forth : 0 ≤ distance) (forward : table.RefersForward) (limits : Limits)
    {item : Variable} (begins : 0 ≤ item.typeOffset) :
    walkOf (table.moved distance) limits (item.moved distance) =
      (walkOf table limits item).moved distance := by
  rw [Variable.moved_eq]
  exact walk_moved forth forward limits.steps.toNat begins _

/-! ## Resolutions -/

def Notice.moved (distance : Int) : Notice → Notice
  | .truncated name typeOffset typeName =>
      .truncated name (moveReference distance typeOffset) typeName
  | .collapsed name depth => .collapsed name depth

end Resolution

/-- The resolution of a variable when the table is moved. -/
def Resolution.moved (distance : Int) (resolution : Resolution) : Resolution where
  item := resolution.item.moved distance
  steps := resolution.steps
  notices := resolution.notices.map (Notice.moved distance)

namespace Resolution

variable {table : TypeTable} {distance : Int}

theorem settle_moved (item : Variable) (progress : Progress) :
    settle (item.moved distance) progress = (settle item progress).moved distance := by
  simp only [Variable.moved_eq, settle, List.map_nil]

theorem memberVariable_moved (parent : Variable) (member : Member) :
    memberVariable (parent.moved distance) (member.moved distance) =
      (memberVariable parent member).moved distance := by
  simp only [Variable.moved_eq, memberVariable, Member.moved, List.map_nil]

theorem isPointer_settle_moved (item : Variable) (progress : Progress) :
    (settle (item.moved distance) progress).isPointer = (settle item progress).isPointer := by
  rw [settle_moved, Variable.moved_eq]
  rfl

theorem expanded?_moved (forth : 0 ≤ distance) (forward : table.RefersForward)
    (limits : Limits) (depth : Int) {item : Variable} (begins : 0 ≤ item.typeOffset) :
    expanded? (table.moved distance) limits depth (item.moved distance) =
      (expanded? table limits depth item).map (TypeEntry.moved distance) := by
  have sameOpcode : (item.moved distance).opcode = item.opcode := by rw [Variable.moved_eq]
  simp only [expanded?, walkOf_moved forth forward limits begins, Walk.moved, sameOpcode,
    isPointer_settle_moved]
  cases (walkOf table limits item).ending with
  | finished | truncated => rfl
  | aggregate entry =>
      simp only [Ending.moved]
      split <;> rfl

theorem ownNotices_moved (forth : 0 ≤ distance) (forward : table.RefersForward)
    (limits : Limits) (depth : Int) {item : Variable} (begins : 0 ≤ item.typeOffset) :
    ownNotices (table.moved distance) limits depth (item.moved distance) =
      (ownNotices table limits depth item).map (Notice.moved distance) := by
  simp only [ownNotices, walkOf_moved forth forward limits begins, Walk.moved]
  rw [Variable.moved_eq]
  cases (walkOf table limits item).ending with
  | finished | truncated => rfl
  | aggregate entry =>
      simp only [Ending.moved]
      split <;> rfl

/-- An aggregate that is expanded stands in the table, and there is a level left for its
members. -/
theorem mem_of_expanded? {limits : Limits} {depth : Int} {item : Variable} {entry : TypeEntry}
    (expands : expanded? table limits depth item = some entry) :
    entry ∈ table.entries ∧ depth < limits.depth := by
  obtain ⟨ends, -, shallow, -⟩ := expanded?_eq_some_iff.mp expands
  obtain ⟨earlier, chain, -, -⟩ := ending_walk_eq_aggregate_iff.mp ends
  exact ⟨TypeTable.mem_of_isChain chain (List.mem_append_right _ List.mem_cons_self), shallow⟩

/-- In a moved table a moved variable resolves to what the variable resolves to, moved. -/
theorem resolve_moved (forth : 0 ≤ distance) (forward : table.RefersForward)
    (limits : Limits) (depth : Int) {item : Variable} (begins : 0 ≤ item.typeOffset) :
    resolve (table.moved distance) limits depth (item.moved distance) =
      (resolve table limits depth item).moved distance := by
  -- members are expanded on fewer and fewer levels
  induction left : (limits.depth - depth).toNat using Nat.strongRecOn
    generalizing depth item with
  | _ levels ih =>
      have members : memberResolutions (table.moved distance) limits depth (item.moved distance) =
          (memberResolutions table limits depth item).map (moved distance) := by
        simp only [memberResolutions, expanded?_moved forth forward limits depth begins]
        cases expands : expanded? table limits depth item with
        | none => rfl
        | some entry =>
            obtain ⟨listed, shallow⟩ := mem_of_expanded? expands
            simp only [Option.map_some, TypeEntry.moved, List.map_map]
            apply List.map_congr_left
            intro member memberListed
            have memberBegins : 0 ≤ (memberVariable item member).typeOffset :=
              (forward entry listed).2 member memberListed
            have fewer : (limits.depth - (depth + 1)).toNat < levels := by omega
            rw [Function.comp_apply, Function.comp_apply, memberVariable_moved]
            exact ih _ fewer (depth + 1) memberBegins rfl
      rw [resolve_eq, resolve_eq, walkOf_moved forth forward limits begins, members,
        ownNotices_moved forth forward limits depth begins, settle_moved]
      simp only [moved, Walk.moved, Variable.moved_eq, settle, List.map_map, List.map_append,
        List.map_flatMap, List.flatMap_map]
      rfl

end Resolution
end DebugIndex
