import DebugIndex.Proofs.TypeTable.Expansion
import DebugIndex.Proofs.TypeTable.Walk

/-!
# Member trees

A variable gets members exactly if its chain ends within the bound at an aggregate that
refers to no further entry, it has a location, its depth is within its bound, and it is
not a member behind a pointer.  The members are then fresh variables, one for each
member of the aggregate and in its order, each resolved one level deeper.  So a member
tree is no higher than the bound on the depth, even if an aggregate contains itself, and
a pointer among the members is always a leaf.
-/

namespace DebugIndex

/-- A variable that is so many levels below another in its member tree. -/
inductive Variable.IsBelow : (levels : Nat) → (part item : Variable) → Prop
  | member {part item : Variable} : part ∈ item.members → IsBelow 1 part item
  | deeper {levels : Nat} {part middle item : Variable} :
      middle ∈ item.members → IsBelow levels part middle → IsBelow (levels + 1) part item

namespace Resolution

/-- A variable that gets the members of an aggregate when it is resolved at a depth. -/
structure Expands (table : TypeTable) (steps depthLimit : Nat) (depth : Int)
    (item : Variable) (aggregate : TypeEntry) : Prop where
  chain : ∃ earlier, table.IsChain item.typeOffset (earlier ++ [aggregate]) ∧
    (earlier ++ [aggregate]).length ≤ steps
  tag : aggregate.tag = .structureType ∨ aggregate.tag = .unionType
  refersNot : aggregate.typeOffset = 0
  located : item.opcode ≠ 0
  shallow : depth < depthLimit
  direct : ¬ (0 < depth ∧
    (resolve table ⟨steps, depthLimit⟩ depth item).item.isPointer = true)

theorem isInnermost_iff {entry : TypeEntry} :
    entry.isInnermost = true ↔
      (entry.tag = .structureType ∨ entry.tag = .unionType) ∧ entry.typeOffset = 0 := by
  simp only [TypeEntry.isInnermost, Bool.and_eq_true, decide_eq_true_eq, and_congr_left_iff]
  intro _
  cases entry.tag <;> simp [Tag.isAggregate]

section Expansion

variable {table : TypeTable} {limits : Limits} {depth : Int} {item : Variable}

theorem isPointer_resolve (depth : Int) :
    (resolve table limits depth item).item.isPointer =
      (settle item (walkOf table limits item).progress).isPointer := by
  rw [resolve_eq]
  rfl

theorem expanded?_eq_some_iff {aggregate : TypeEntry} :
    expanded? table limits depth item = some aggregate ↔
      (walkOf table limits item).ending = .aggregate aggregate ∧ item.opcode ≠ 0 ∧
        depth < limits.depth ∧
          ¬ (0 < depth ∧ (resolve table limits depth item).item.isPointer = true) := by
  rw [isPointer_resolve]
  simp only [expanded?]
  cases (walkOf table limits item).ending with
  | finished => simp
  | truncated => simp
  | aggregate entry => simp [and_comm]

theorem expands_iff_expanded? {steps depthLimit : Nat} {aggregate : TypeEntry} :
    Expands table steps depthLimit depth item aggregate ↔
      expanded? table ⟨steps, depthLimit⟩ depth item = some aggregate := by
  rw [expanded?_eq_some_iff, walkOf, ending_walk_eq_aggregate_iff, Int.toNat_natCast]
  constructor
  · rintro ⟨⟨earlier, chain, short⟩, tag, refersNot, located, shallow, direct⟩
    rw [List.length_append, List.length_singleton] at short
    exact ⟨⟨earlier, chain, short, isInnermost_iff.mpr ⟨tag, refersNot⟩⟩,
      located, shallow, direct⟩
  · rintro ⟨⟨earlier, chain, short, innermost⟩, located, shallow, direct⟩
    obtain ⟨tag, refersNot⟩ := isInnermost_iff.mp innermost
    refine ⟨⟨earlier, chain, ?_⟩, tag, refersNot, located, shallow, direct⟩
    rw [List.length_append, List.length_singleton]
    exact short

/-- Every member of a resolved variable has been a fresh variable that was resolved one level
deeper, which is only done above the bound on the depth. -/
theorem exists_resolve_of_mem_members {part : Variable}
    (member : part ∈ (resolve table limits depth item).item.members) :
    depth < limits.depth ∧ ∃ field,
      part = (resolve table limits (depth + 1) (memberVariable item field)).item := by
  rw [members_resolve, memberResolutions] at member
  cases expansion : expanded? table limits depth item with
  | none => simp [expansion] at member
  | some aggregate =>
      simp only [expansion, List.map_map, List.mem_map, Function.comp_apply] at member
      obtain ⟨field, -, rfl⟩ := member
      exact ⟨(expanded?_eq_some_iff.mp expansion).2.2.1, field, rfl⟩

theorem members_resolve_of_expands {steps depthLimit : Nat} {aggregate : TypeEntry}
    (expands : Expands table steps depthLimit depth item aggregate) :
    (resolve table ⟨steps, depthLimit⟩ depth item).item.members =
      aggregate.members.map fun member =>
        (resolve table ⟨steps, depthLimit⟩ (depth + 1) (memberVariable item member)).item := by
  rw [members_resolve, memberResolutions, expands_iff_expanded?.mp expands, List.map_map]
  rfl

/-- What a member has of its own stays as it is when the member is resolved. -/
theorem declared_members_of_expands {steps depthLimit : Nat} {aggregate : TypeEntry}
    (expands : Expands table steps depthLimit depth item aggregate) :
    ((resolve table ⟨steps, depthLimit⟩ depth item).item.members.map fun child =>
        (child.name, child.typeOffset, child.offset, child.opcode, child.address)) =
      aggregate.members.map fun member =>
        (member.name, member.typeOffset, member.location, item.opcode, 0) := by
  rw [members_resolve_of_expands expands, List.map_map]
  apply List.map_congr_left
  intro member _
  obtain ⟨name, typeOffset, opcode, address, offset⟩ := declared_resolve table
    ⟨steps, depthLimit⟩ (depth + 1) (memberVariable item member)
  simp only [Function.comp_apply, name, typeOffset, opcode, address, offset]
  rfl

theorem members_resolve_of_not_expands {steps depthLimit : Nat}
    (collapsed : ∀ aggregate, ¬ Expands table steps depthLimit depth item aggregate) :
    (resolve table ⟨steps, depthLimit⟩ depth item).item.members = [] := by
  rw [members_resolve, memberResolutions]
  cases expansion : expanded? table ⟨steps, depthLimit⟩ depth item with
  | none => rfl
  | some aggregate => exact absurd (expands_iff_expanded?.mpr expansion) (collapsed aggregate)

theorem members_eq_nil_of_isPointer (deep : 0 < depth)
    (pointer : (resolve table limits depth item).item.isPointer = true) :
    (resolve table limits depth item).item.members = [] := by
  rw [members_resolve, memberResolutions]
  cases expansion : expanded? table limits depth item with
  | none => rfl
  | some aggregate =>
      exact absurd ⟨deep, pointer⟩ (expanded?_eq_some_iff.mp expansion).2.2.2

/-- What is some levels below a resolved variable has been resolved that much deeper,
within the bound on the depth. -/
theorem exists_resolve_of_isBelow {levels : Nat} {part : Variable}
    (below : Variable.IsBelow levels part (resolve table limits depth item).item) :
    0 < levels ∧ depth + levels ≤ limits.depth ∧
      ∃ fresh, part = (resolve table limits (depth + levels) fresh).item := by
  generalize root : (resolve table limits depth item).item = whole at below
  induction below generalizing depth item with
  | member isMember =>
      rw [← root] at isMember
      obtain ⟨shallow, field, resolved⟩ := exists_resolve_of_mem_members isMember
      exact ⟨Nat.one_pos, by simpa using Int.add_one_le_of_lt shallow, memberVariable _ field,
        by simpa using resolved⟩
  | @deeper levels part middle whole isMember _ ih =>
      rw [← root] at isMember
      obtain ⟨-, field, rfl⟩ := exists_resolve_of_mem_members isMember
      obtain ⟨-, within, deepest, resolved⟩ := ih rfl
      have depth_eq : depth + 1 + (levels : Int) = depth + (levels + 1 : Nat) := by
        push_cast
        omega
      rw [depth_eq] at within resolved
      exact ⟨Nat.succ_pos levels, within, deepest, resolved⟩

end Expansion

/-- The members of a resolved variable: those of the aggregate that it expands to, each
a fresh variable resolved one level deeper, and none if there is no such aggregate.  The
member tree below the top level is no higher than the bound on the depth, and none of its
pointers has members. -/
theorem members_resolve_iff_expands (table : TypeTable) (steps depthLimit : Nat)
    (depth : Int) (item : Variable) :
    (∀ aggregate, Expands table steps depthLimit depth item aggregate →
      (resolve table ⟨steps, depthLimit⟩ depth item).item.members =
          (aggregate.members.map fun member =>
            (resolve table ⟨steps, depthLimit⟩ (depth + 1)
              { name := member.name
                typeOffset := member.typeOffset
                opcode := item.opcode
                address := 0
                offset := member.location }).item) ∧
        ((resolve table ⟨steps, depthLimit⟩ depth item).item.members.map fun child =>
            (child.name, child.typeOffset, child.offset, child.opcode, child.address)) =
          aggregate.members.map fun member =>
            (member.name, member.typeOffset, member.location, item.opcode, 0)) ∧
    ((∀ aggregate, ¬ Expands table steps depthLimit depth item aggregate) →
      (resolve table ⟨steps, depthLimit⟩ depth item).item.members = []) ∧
    ∀ levels part,
      Variable.IsBelow levels part (resolve table ⟨steps, depthLimit⟩ 0 item).item →
        levels ≤ depthLimit ∧ (part.isPointer = true → part.members = []) := by
  refine ⟨fun aggregate expands =>
    ⟨members_resolve_of_expands expands, declared_members_of_expands expands⟩,
    members_resolve_of_not_expands, ?_⟩
  intro levels part below
  obtain ⟨deep, within, fresh, rfl⟩ := exists_resolve_of_isBelow below
  refine ⟨by simpa using within, members_eq_nil_of_isPointer ?_⟩
  omega

/-- A struct that holds a pointer to itself and a constant of itself. -/
def nodeEntry : TypeEntry where
  tag := .structureType
  offset := 8
  byteSize := 8
  name := some "node"
  members :=
    [{ name := some "next", typeOffset := 16, location := 0 },
      { name := some "self", typeOffset := 24, location := 4 }]

/-- The struct, the pointer to it and the constant of it. -/
def nodeTable : TypeTable where
  entries :=
    [nodeEntry,
      { tag := .pointerType, offset := 16, typeOffset := 8, byteSize := 4 },
      { tag := .constType, offset := 24, typeOffset := 8 }]

def nodeHead : Variable where
  name := some "head"
  typeOffset := 8
  opcode := 3
  address := 4096

/-- The member tree of a struct that contains itself ends at the bound, and at the
pointer in it. -/
theorem members_resolve_nodeHead :
    Expands nodeTable 4 2 0 nodeHead nodeEntry ∧
      ((resolve nodeTable ⟨(4 : Nat), (2 : Nat)⟩ 0 nodeHead).item.members.map fun child =>
          (child.name, child.typeOffset, child.offset, child.opcode, child.address)) =
        [(some "next", 16, 0, 3, 0), (some "self", 24, 4, 3, 0)] ∧
      (∀ aggregate, ¬ Expands nodeTable 4 2 2 nodeHead aggregate) ∧
      (resolve nodeTable ⟨(4 : Nat), (2 : Nat)⟩ 2 nodeHead).item.members = [] ∧
      ∃ part, Variable.IsBelow 2 part
          (resolve nodeTable ⟨(4 : Nat), (2 : Nat)⟩ 0 nodeHead).item ∧
        part.isPointer = true ∧ part.members = [] := by
  have expands : Expands nodeTable 4 2 0 nodeHead nodeEntry := by
    refine ⟨⟨[], ⟨rfl, rfl⟩, by decide⟩, .inl rfl, rfl, by decide, by decide, ?_⟩
    rintro ⟨deep, -⟩
    exact Int.lt_irrefl 0 deep
  have collapsed : ∀ aggregate, ¬ Expands nodeTable 4 2 2 nodeHead aggregate := by
    intro aggregate expands
    exact Int.lt_irrefl 2 expands.shallow
  have nested : ∃ middle ∈ (resolve nodeTable ⟨(4 : Nat), (2 : Nat)⟩ 0 nodeHead).item.members,
      ∃ part ∈ middle.members, part.isPointer = true := by
    decide +kernel
  obtain ⟨middle, middleIsMember, part, isMember, isPointer⟩ := nested
  have isBelow := Variable.IsBelow.deeper middleIsMember (.member isMember)
  refine ⟨expands, ?_, collapsed, ?_, part, isBelow, isPointer, ?_⟩
  · exact ((members_resolve_iff_expands nodeTable 4 2 0 nodeHead).1 nodeEntry expands).2
  · exact (members_resolve_iff_expands nodeTable 4 2 2 nodeHead).2.1 collapsed
  · exact ((members_resolve_iff_expands nodeTable 4 2 0 nodeHead).2.2 2 part isBelow).2
      isPointer

end Resolution
end DebugIndex
