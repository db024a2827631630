import DebugIndex.CompilationUnit.Build
import DebugIndex.Proofs.TypeTable.Expansion
import DebugIndex.Proofs.TypeTable.Walk

/-!
# The bound on steps

Resolution always comes to an end, and the bound on steps is exact.  A chain that ends
within the bound is walked to its end, and the walk gives no warning.  A chain that goes
on behind the bound is walked up to it and gives one warning; no members are expanded,
and what is there of the display name is the beginning of what a higher bound would give.
-/

namespace DebugIndex
namespace Resolution

def warnings (context : BuildContext) (notices : List Notice) : List Notice :=
  notices.filter fun notice => (context.eventOf notice).level = .warn

section Warnings

variable (context : BuildContext)

theorem warnings_append (first second : List Notice) :
    warnings context (first ++ second) = warnings context first ++ warnings context second :=
  List.filter_append first second

theorem warnings_flatMap (resolutions : List Resolution) :
    warnings context (resolutions.flatMap Resolution.notices) =
      resolutions.flatMap fun resolution => warnings context resolution.notices := by
  rw [warnings, List.filter_flatMap]
  rfl

theorem warnings_truncated (name : Option String) (typeOffset : Int) (typeName : String) :
    warnings context [.truncated name typeOffset typeName] =
      [.truncated name typeOffset typeName] := rfl

theorem warnings_collapsed (name : Option String) (depth : Int) :
    warnings context [.collapsed name depth] = [] := rfl

end Warnings

section Bound

variable {table : TypeTable} {limits : Limits} {depth : Int} {item : Variable}

theorem capabilities_walkOf :
    (walkOf table limits item).progress.capabilities =
      capabilitiesOf (table.firstEntries limits.steps.toNat item.typeOffset) := by
  have outside : Progress.Consistent
      { byteSize := item.byteSize, encoding := item.encoding } := by
    intro inside
    cases inside
  rw [walkOf, capabilities_walk limits.steps.toNat outside, Nat.zero_or]

/-- A variable itself is warned of exactly if its chain goes on behind the bound. -/
theorem warnings_ownNotices_of_not_chainExceeds (context : BuildContext)
    (ends : ¬ table.ChainExceeds item.typeOffset limits.steps.toNat) :
    warnings context (ownNotices table limits depth item) = [] := by
  have notTruncated : (walkOf table limits item).ending ≠ .truncated := by
    rw [walkOf, Ne, ending_walk_eq_truncated_iff]
    exact ends
  simp only [ownNotices]
  cases ended : (walkOf table limits item).ending with
  | finished => rfl
  | truncated => exact absurd ended notTruncated
  | aggregate entry =>
      simp only
      split
      · exact warnings_collapsed context item.name depth
      · rfl

theorem resolve_of_truncated (depth : Int)
    (truncated : (walkOf table limits item).ending = .truncated) :
    (resolve table limits depth item).item.members = [] ∧
      (resolve table limits depth item).notices =
        [.truncated item.name item.typeOffset
          (resolve table limits depth item).item.typeName] := by
  have noMembers : memberResolutions table limits depth item = [] := by
    simp [memberResolutions, expanded?, truncated]
  rw [members_resolve, notices_resolve, typeName_resolve, noMembers]
  simp [ownNotices, truncated]

end Bound

/-- Resolution visits the whole chain if it ends within the bound, and then the walk
itself gives no warning: all warnings are those of members.  Otherwise it visits as many
entries as the bound says, expands no members and gives exactly one warning, and the
display name is the beginning of the one for any higher bound. -/
theorem resolve_stepBound (table : TypeTable) (steps depthLimit : Nat) (depth : Int)
    (item : Variable) (context : BuildContext) :
    (∀ entries, table.IsChain item.typeOffset entries → entries.length ≤ steps →
      (resolve table ⟨steps, depthLimit⟩ depth item).steps = entries.length ∧
        (resolve table ⟨steps, depthLimit⟩ depth item).item.capabilities =
          capabilitiesOf entries ∧
          warnings context (resolve table ⟨steps, depthLimit⟩ depth item).notices =
            (memberResolutions table ⟨steps, depthLimit⟩ depth item).flatMap fun member =>
              warnings context member.notices) ∧
    (table.ChainExceeds item.typeOffset steps →
      (resolve table ⟨steps, depthLimit⟩ depth item).steps = steps ∧
        (table.firstEntries steps item.typeOffset).length = steps ∧
        (resolve table ⟨steps, depthLimit⟩ depth item).item.capabilities =
          capabilitiesOf (table.firstEntries steps item.typeOffset) ∧
        (resolve table ⟨steps, depthLimit⟩ depth item).item.members = [] ∧
        warnings context (resolve table ⟨steps, depthLimit⟩ depth item).notices =
          [.truncated item.name item.typeOffset
            (resolve table ⟨steps, depthLimit⟩ depth item).item.typeName] ∧
        ∀ larger, steps ≤ larger →
          (resolve table ⟨steps, depthLimit⟩ depth item).item.typeName.toList <+:
            (resolve table ⟨larger, depthLimit⟩ depth item).item.typeName.toList) := by
  have visited : (resolve table ⟨steps, depthLimit⟩ depth item).steps =
      (table.firstEntries steps item.typeOffset).length := by
    rw [steps_resolve, walkOf, steps_walk, Int.toNat_natCast]
  have recorded : (resolve table ⟨steps, depthLimit⟩ depth item).item.capabilities =
      capabilitiesOf (table.firstEntries steps item.typeOffset) := by
    rw [capabilities_resolve, capabilities_walkOf, Int.toNat_natCast]
  constructor
  · intro entries chain short
    have ends : ¬ table.ChainExceeds item.typeOffset steps := by
      intro exceeds
      have := exceeds entries chain
      omega
    rw [visited, recorded, TypeTable.firstEntries_of_isChain chain short, notices_resolve,
      warnings_append, warnings_flatMap,
      warnings_ownNotices_of_not_chainExceeds context (by simpa using ends), List.nil_append]
    exact ⟨rfl, rfl, rfl⟩
  · intro exceeds
    have full := TypeTable.length_firstEntries_of_chainExceeds exceeds
    have truncated : (walkOf table ⟨steps, depthLimit⟩ item).ending = .truncated := by
      rw [walkOf, ending_walk_eq_truncated_iff]
      simpa using exceeds
    obtain ⟨noMembers, noticed⟩ := resolve_of_truncated depth truncated
    refine ⟨visited.trans full, full, recorded, noMembers, ?_, ?_⟩
    · rw [noticed]
      exact warnings_truncated context _ _ _
    · intro larger higher
      rw [typeName_resolve, typeName_resolve, walkOf, walkOf]
      exact extends_walk_of_le (by simpa using higher) _

/-- A typedef of a pointer to a number, and a constant of itself. -/
def loopedTable : TypeTable where
  entries :=
    [{ tag := .typedef, offset := 8, typeOffset := 16, name := some "handle" },
      { tag := .pointerType, offset := 16, typeOffset := 24, byteSize := 4 },
      { tag := .baseType, offset := 24, byteSize := 2, encoding := 5, name := some "short" },
      { tag := .constType, offset := 32, typeOffset := 32 }]

/-- A bound of three is just enough for the typedef and never for the loop. -/
theorem resolve_loopedTable :
    loopedTable.IsChain 8 loopedTable.entries.dropLast ∧
      (resolve loopedTable ⟨(3 : Nat), (8 : Nat)⟩ 0 { typeOffset := 8 }).steps = 3 ∧
      (resolve loopedTable ⟨(3 : Nat), (8 : Nat)⟩ 0 { typeOffset := 8 }).item.capabilities =
        (Capability.typedef.mask ||| Capability.pointer.mask) ∧
      loopedTable.ChainExceeds 32 3 ∧
      (resolve loopedTable ⟨(3 : Nat), (8 : Nat)⟩ 0 { typeOffset := 32 }).steps = 3 ∧
      warnings { files := {}, settings := {} }
        (resolve loopedTable ⟨(3 : Nat), (8 : Nat)⟩ 0 { typeOffset := 32 }).notices =
          [.truncated none 32 "const const const "] := by
  have chain : loopedTable.IsChain 8 loopedTable.entries.dropLast := ⟨rfl, rfl, rfl, rfl⟩
  have truncated : (walk loopedTable 3 32 {}).ending = .truncated := rfl
  have exceeds := ending_walk_eq_truncated_iff.mp truncated
  obtain ⟨visited, recorded, -⟩ :=
    (resolve_stepBound loopedTable 3 8 0 { typeOffset := 8 }
      { files := {}, settings := {} }).1 _ chain (by decide)
  obtain ⟨bounded, -, -, -, warned, -⟩ :=
    (resolve_stepBound loopedTable 3 8 0 { typeOffset := 32 }
      { files := {}, settings := {} }).2 exceeds
  refine ⟨chain, visited, ?_, exceeds, bounded, ?_⟩
  · rw [recorded]
    rfl
  · rw [warned, typeName_resolve]
    decide

end Resolution
end DebugIndex
