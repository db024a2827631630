import DebugIndex.TypeTable.Resolution

/-!
# What resolution is made of

Resolving a variable is a walk, the variable that the walk settles, and the resolution
of a fresh variable for each member of the aggregate that the walk came to, if its
members are expanded at all.  The levels that are left do not show in this: they are
the difference between the bound on the depth and the depth.
-/

namespace DebugIndex
namespace Resolution

/-- The aggregate whose members a variable gets at a depth: there has to be a location,
the depth has to be within its bound, and below the top level there must be no pointer
on the way. -/
def expanded? (table : TypeTable) (limits : Limits) (depth : Int) (item : Variable) :
    Option TypeEntry :=
  match (walkOf table limits item).ending with
  | .aggregate entry =>
      if item.opcode ≠ 0 ∧ depth < limits.depth ∧
          ¬ (0 < depth ∧ (settle item (walkOf table limits item).progress).isPointer = true) then
        some entry
      else none
  | _ => none

def memberResolutions (table : TypeTable) (limits : Limits) (depth : Int) (item : Variable) :
    List Resolution :=
  match expanded? table limits depth item with
  | some entry =>
      entry.members.map fun member =>
        resolve table limits (depth + 1) (memberVariable item member)
  | none => []

/-- What is noticed about a variable itself, apart from its members. -/
def ownNotices (table : TypeTable) (limits : Limits) (depth : Int) (item : Variable) :
    List Notice :=
  let walked := walkOf table limits item
  match walked.ending with
  | .finished => []
  | .truncated => [.truncated item.name item.typeOffset walked.progress.typeName]
  | .aggregate _ =>
      if item.opcode ≠ 0 ∧ limits.depth ≤ depth then [.collapsed item.name depth] else []

theorem resolve_eq (table : TypeTable) (limits : Limits) (depth : Int) (item : Variable) :
    resolve table limits depth item =
      { item :=
          { settle item (walkOf table limits item).progress with
            members := (memberResolutions table limits depth item).map Resolution.item }
        steps := (walkOf table limits item).steps
        notices :=
          ownNotices table limits depth item ++
            (memberResolutions table limits depth item).flatMap Resolution.notices } := by
  rw [resolve, resolveWithin.eq_def]
  cases ended : (walkOf table limits item).ending with
  | finished => simp [memberResolutions, expanded?, ownNotices, ended, settle]
  | truncated => simp [memberResolutions, expanded?, ownNotices, ended, settle]
  | aggregate entry =>
      by_cases located : item.opcode = 0
      · simp [memberResolutions, expanded?, ownNotices, ended, located, settle]
      · cases left : (limits.depth - depth).toNat with
        | zero =>
            have deep : limits.depth ≤ depth := by omega
            have notShallow : ¬ depth < limits.depth := by omega
            simp [memberResolutions, expanded?, ownNotices, ended, located, deep, notShallow,
              settle]
        | succ levels =>
            have shallow : depth < limits.depth := by omega
            have notDeep : ¬ limits.depth ≤ depth := by omega
            have levels_eq : levels = (limits.depth - (depth + 1)).toNat := by omega
            by_cases collapsed : 0 < depth ∧
                (settle item (walkOf table limits item).progress).isPointer = true
            · simp only [memberResolutions, expanded?, ownNotices, ended, located, shallow,
                notDeep, collapsed, and_self, and_false, not_true_eq_false, if_true, if_false]
              rfl
            · simp [memberResolutions, expanded?, ownNotices, ended, located, shallow, notDeep,
                collapsed, levels_eq, resolve]

section Parts

variable (table : TypeTable) (limits : Limits) (depth : Int) (item : Variable)

theorem steps_resolve :
    (resolve table limits depth item).steps = (walkOf table limits item).steps := by
  rw [resolve_eq]

theorem capabilities_resolve :
    (resolve table limits depth item).item.capabilities =
      (walkOf table limits item).progress.capabilities := by
  rw [resolve_eq]
  rfl

theorem typeName_resolve :
    (resolve table limits depth item).item.typeName =
      (walkOf table limits item).progress.typeName := by
  rw [resolve_eq]
  rfl

theorem members_resolve :
    (resolve table limits depth item).item.members =
      (memberResolutions table limits depth item).map Resolution.item := by
  rw [resolve_eq]

theorem notices_resolve :
    (resolve table limits depth item).notices =
      ownNotices table limits depth item ++
        (memberResolutions table limits depth item).flatMap Resolution.notices := by
  rw [resolve_eq]

theorem declared_resolve :
    (resolve table limits depth item).item.name = item.name ∧
      (resolve table limits depth item).item.typeOffset = item.typeOffset ∧
        (resolve table limits depth item).item.opcode = item.opcode ∧
          (resolve table limits depth item).item.address = item.address ∧
            (resolve table limits depth item).item.offset = item.offset := by
  rw [resolve_eq]
  exact ⟨rfl, rfl, rfl, rfl, rfl⟩

end Parts

end Resolution
end DebugIndex
