import DebugIndex.Proofs.TypeTable.Chain
import DebugIndex.TypeTable.Resolution

/-!
# Walks along reference chains

A walk visits the entries of a chain one after the other, up to its bound.  Visiting an
entry records the entry's capability and only ever adds to the display name, and it
tells how the walk goes on in a way that depends on the entry alone.  So a bounded walk
sees exactly the first entries of the chain, it is cut off exactly if the chain goes on
behind them, and it comes to members exactly if the chain ends at an aggregate.
-/

namespace DebugIndex
namespace Resolution

/-! ## Visiting one entry -/

namespace Progress

/-- Inside a typedef the capability of typedefs has been recorded already. -/
def Consistent (progress : Progress) : Prop :=
  progress.insideTypedef = true →
    progress.capabilities ||| Capability.typedef.mask = progress.capabilities

@[simp]
theorem capabilities_mark (progress : Progress) (capability : Capability) :
    (progress.mark capability).capabilities = progress.capabilities ||| capability.mask := rfl

@[simp]
theorem insideTypedef_mark (progress : Progress) (capability : Capability) :
    (progress.mark capability).insideTypedef = progress.insideTypedef := rfl

@[simp]
theorem typeName_mark (progress : Progress) (capability : Capability) :
    (progress.mark capability).typeName = progress.typeName := rfl

@[simp]
theorem capabilities_write (progress : Progress) (text : String) :
    (progress.write text).capabilities = progress.capabilities := rfl

@[simp]
theorem insideTypedef_write (progress : Progress) (text : String) :
    (progress.write text).insideTypedef = progress.insideTypedef := rfl

@[simp]
theorem capabilities_writeIf (progress : Progress) (condition : Bool) (text : String) :
    (progress.writeIf condition text).capabilities = progress.capabilities := by
  cases condition <;> rfl

@[simp]
theorem insideTypedef_writeIf (progress : Progress) (condition : Bool) (text : String) :
    (progress.writeIf condition text).insideTypedef = progress.insideTypedef := by
  cases condition <;> rfl

@[simp]
theorem capabilities_writeName (progress : Progress) (entry : TypeEntry) :
    (progress.writeName entry).capabilities = progress.capabilities :=
  capabilities_writeIf _ _ _

@[simp]
theorem insideTypedef_writeName (progress : Progress) (entry : TypeEntry) :
    (progress.writeName entry).insideTypedef = progress.insideTypedef :=
  insideTypedef_writeIf _ _ _

/-- A display name that has grown at its end. -/
def Extends (longer shorter : Progress) : Prop :=
  shorter.typeName.toList <+: longer.typeName.toList

@[simp]
theorem Extends.refl (progress : Progress) : progress.Extends progress :=
  List.prefix_rfl

theorem Extends.trans {first second third : Progress} (later : third.Extends second)
    (earlier : second.Extends first) : third.Extends first :=
  List.IsPrefix.trans earlier later

@[simp]
theorem extends_write (progress : Progress) (text : String) :
    (progress.write text).Extends progress := by
  simp [Extends, write]

@[simp]
theorem extends_writeIf (progress : Progress) (condition : Bool) (text : String) :
    (progress.writeIf condition text).Extends progress := by
  cases condition
  · exact Extends.refl progress
  · exact extends_write progress text

end Progress

theorem capabilities_visit {progress : Progress} (consistent : progress.Consistent)
    (entry : TypeEntry) :
    (visit entry progress).1.capabilities = progress.capabilities ||| entry.capabilityMask := by
  cases tag : entry.tag with
  | typedef =>
      simp only [visit, TypeEntry.capabilityMask, TypeEntry.capability?, tag]
      split
      case isTrue inside => exact (consistent inside).symm
      case isFalse => simp
  | structureType | unionType | pointerType | baseType =>
      simp only [visit, visit.aggregate, tag]
      split <;> simp [TypeEntry.capabilityMask, TypeEntry.capability?, tag]
  | _ => simp [visit, TypeEntry.capabilityMask, TypeEntry.capability?, tag]

theorem insideTypedef_visit (entry : TypeEntry) (progress : Progress) :
    (visit entry progress).1.insideTypedef =
      (progress.insideTypedef || decide (entry.tag = .typedef)) := by
  cases tag : entry.tag with
  | typedef =>
      simp only [visit, tag]
      split
      case isTrue inside => simp [inside]
      case isFalse => simp
  | structureType | unionType | pointerType | baseType =>
      simp only [visit, visit.aggregate, tag]
      split <;> simp
  | _ => simp [visit, tag]

theorem consistent_visit {progress : Progress} (consistent : progress.Consistent)
    (entry : TypeEntry) : (visit entry progress).1.Consistent := by
  intro inside
  rw [capabilities_visit consistent]
  simp only [insideTypedef_visit, Bool.or_eq_true, decide_eq_true_eq] at inside
  rcases inside with already | tag
  · rw [Nat.or_assoc, Nat.or_comm entry.capabilityMask, ← Nat.or_assoc, consistent already]
  · have mask : entry.capabilityMask = Capability.typedef.mask := by
      simp [TypeEntry.capabilityMask, TypeEntry.capability?, tag]
    rw [mask, Nat.or_assoc, Nat.or_self]

theorem extends_visit (entry : TypeEntry) (progress : Progress) :
    (visit entry progress).1.Extends progress := by
  have named : (progress.writeName entry).Extends progress := Progress.extends_writeIf _ _ _
  have markedNamed (capability : Capability) :
      ((progress.mark capability).writeName entry).Extends progress :=
    Progress.extends_writeIf (progress.mark capability) _ _
  cases tag : entry.tag with
  | subroutineType =>
      simp only [visit, tag]
      exact Progress.extends_write _ _
  | structureType | unionType =>
      simp only [visit, visit.aggregate, tag]
      split
      · exact markedNamed _
      · exact (Progress.extends_writeIf _ _ _).trans (markedNamed _)
  | pointerType =>
      simp only [visit, tag]
      split
      · exact Progress.Extends.refl _
      · exact Progress.extends_write _ _
  | typedef =>
      simp only [visit, tag]
      split
      · exact Progress.Extends.refl _
      · exact markedNamed .typedef
  | constType =>
      simp only [visit, tag]
      exact Progress.extends_write _ _
  | baseType =>
      simp only [visit, tag]
      split
      · exact (Progress.extends_writeIf _ _ _).trans ((Progress.extends_write _ _).trans named)
      · exact (Progress.extends_writeIf _ _ _).trans named
  | _ =>
      simp only [visit, tag]
      exact Progress.Extends.refl _

/-- How a walk can go on from an entry, whatever it has gathered: to the members of an
innermost aggregate, else along the outgoing reference. -/
def GoesOn (entry : TypeEntry) : Step → Prop
  | .stop => entry.isInnermost = false ∧ entry.outgoing = 0
  | .follow next => entry.isInnermost = false ∧ entry.outgoing = next
  | .expand => entry.isInnermost = true

theorem goesOn_visit (entry : TypeEntry) (progress : Progress) :
    GoesOn entry (visit entry progress).2 := by
  cases tag : entry.tag with
  | structureType | unionType =>
      simp only [visit, visit.aggregate, tag]
      split
      case isTrue refers =>
        simp [GoesOn, TypeEntry.isInnermost, TypeEntry.outgoing, tag, refers]
      case isFalse refersNot =>
        simpa [GoesOn, TypeEntry.isInnermost, Tag.isAggregate, tag] using refersNot
  | pointerType =>
      simp only [visit, tag]
      split
      case isTrue refers =>
        simp [GoesOn, TypeEntry.isInnermost, TypeEntry.outgoing, Tag.isAggregate, tag]
      case isFalse refersNot =>
        simpa [GoesOn, TypeEntry.isInnermost, TypeEntry.outgoing, Tag.isAggregate, tag] using
          refersNot
  | typedef =>
      simp only [visit, tag]
      split <;> simp [GoesOn, TypeEntry.isInnermost, TypeEntry.outgoing, Tag.isAggregate, tag]
  | _ =>
      simp [visit, GoesOn, TypeEntry.isInnermost, TypeEntry.outgoing, Tag.isAggregate, tag]

/-! ## Walking -/

/-- What a walk is when one entry is visited before it. -/
def Walk.behind (onward : Walk) (entry : TypeEntry) : Walk where
  progress := onward.progress
  steps := onward.steps + 1
  ending := if entry.isInnermost then .aggregate entry else onward.ending

section Walking

variable {table : TypeTable} {reference : Int}

theorem walk_zero (progress : Progress) :
    walk table 0 reference progress =
      ⟨progress, 0, if (table.target? reference).isSome then .truncated else .finished⟩ := by
  simp only [walk]
  cases table.target? reference <;> rfl

theorem walk_of_none (leadsNowhere : table.target? reference = none) (remaining : Nat)
    (progress : Progress) : walk table remaining reference progress = ⟨progress, 0, .finished⟩ := by
  cases remaining <;> simp [walk, leadsNowhere]

theorem walk_of_some {entry : TypeEntry} (found : table.target? reference = some entry)
    (remaining : Nat) (progress : Progress) :
    walk table (remaining + 1) reference progress =
      (walk table remaining entry.outgoing (visit entry progress).1).behind entry := by
  have goesOn := goesOn_visit entry progress
  simp only [walk, found]
  cases visited : visit entry progress with
  | mk gathered step =>
      rw [visited] at goesOn
      cases step with
      | stop =>
          rw [goesOn.2, walk_of_none table.target?_zero]
          simp [Walk.behind, goesOn.1]
      | follow next =>
          obtain ⟨notInnermost, rfl⟩ := goesOn
          simp [Walk.behind, notInnermost]
      | expand =>
          have innermost : entry.isInnermost = true := goesOn
          rw [TypeEntry.outgoing_of_isInnermost innermost, walk_of_none table.target?_zero]
          simp [Walk.behind, innermost]

def gather (progress : Progress) (entry : TypeEntry) : Progress :=
  (visit entry progress).1

theorem progress_walk (remaining : Nat) (progress : Progress) :
    (walk table remaining reference progress).progress =
      (table.firstEntries remaining reference).foldl gather progress := by
  induction remaining generalizing reference progress with
  | zero => rw [walk_zero, TypeTable.firstEntries, List.foldl_nil]
  | succ remaining ih =>
      cases found : table.target? reference with
      | none => simp [walk_of_none found, TypeTable.firstEntries, found]
      | some entry =>
          simp [walk_of_some found, Walk.behind, TypeTable.firstEntries, found, ih, gather]

/-- A walk visits as many entries as the chain begins with, up to the bound. -/
theorem steps_walk (remaining : Nat) (progress : Progress) :
    (walk table remaining reference progress).steps =
      (table.firstEntries remaining reference).length := by
  induction remaining generalizing reference progress with
  | zero => rw [walk_zero, TypeTable.firstEntries, List.length_nil]
  | succ remaining ih =>
      cases found : table.target? reference with
      | none => simp [walk_of_none found, TypeTable.firstEntries, found]
      | some entry => simp [walk_of_some found, Walk.behind, TypeTable.firstEntries, found, ih]

theorem capabilities_walk (remaining : Nat) {progress : Progress}
    (consistent : progress.Consistent) :
    (walk table remaining reference progress).progress.capabilities =
      progress.capabilities ||| capabilitiesOf (table.firstEntries remaining reference) := by
  induction remaining generalizing reference progress with
  | zero =>
      rw [walk_zero]
      simp only [TypeTable.firstEntries, capabilitiesOf, List.foldr_nil, Nat.or_zero]
  | succ remaining ih =>
      cases found : table.target? reference with
      | none => simp [walk_of_none found, TypeTable.firstEntries, found, capabilitiesOf]
      | some entry =>
          rw [walk_of_some found, Walk.behind, ih (consistent_visit consistent entry),
            capabilities_visit consistent, Nat.or_assoc]
          simp only [TypeTable.firstEntries, found, capabilitiesOf, List.foldr_cons]

/-- A walk is cut off exactly if the chain goes on behind as many entries as it may visit. -/
theorem ending_walk_eq_truncated_iff {remaining : Nat} {progress : Progress} :
    (walk table remaining reference progress).ending = .truncated ↔
      table.ChainExceeds reference remaining := by
  induction remaining generalizing reference progress with
  | zero =>
      rw [TypeTable.chainExceeds_zero_iff, walk_zero]
      cases table.target? reference <;> simp
  | succ remaining ih =>
      cases found : table.target? reference with
      | none =>
          rw [walk_of_none found]
          simp [TypeTable.not_chainExceeds_of_none found]
      | some entry =>
          rw [walk_of_some found, TypeTable.chainExceeds_succ_iff found, Walk.behind]
          split
          case isTrue innermost =>
            rw [TypeEntry.outgoing_of_isInnermost innermost]
            simp [TypeTable.not_chainExceeds_of_none table.target?_zero]
          case isFalse => exact ih

/-- A walk comes to the members of an entry exactly if the chain ends within the bound at that
entry and the entry is an aggregate that refers to no further one. -/
theorem ending_walk_eq_aggregate_iff {remaining : Nat} {progress : Progress}
    {last : TypeEntry} :
    (walk table remaining reference progress).ending = .aggregate last ↔
      table.EndsAt last remaining reference := by
  induction remaining generalizing reference progress with
  | zero =>
      rw [walk_zero]
      cases table.target? reference <;> simp
  | succ remaining ih =>
      cases found : table.target? reference with
      | none => simp [walk_of_none found, TypeTable.not_endsAt_of_none found]
      | some entry =>
          rw [walk_of_some found, Walk.behind]
          split
          case isTrue innermost =>
            rw [Ending.aggregate.injEq, TypeTable.endsAt_iff_of_isInnermost found innermost]
          case isFalse outermost =>
            rw [TypeTable.endsAt_iff_of_not_isInnermost found outermost]
            exact ih

theorem extends_walk (remaining : Nat) (progress : Progress) :
    (walk table remaining reference progress).progress.Extends progress := by
  induction remaining generalizing reference progress with
  | zero =>
      rw [walk_zero]
      exact Progress.Extends.refl progress
  | succ remaining ih =>
      cases found : table.target? reference with
      | none =>
          rw [walk_of_none found]
          exact Progress.Extends.refl _
      | some entry =>
          rw [walk_of_some found]
          exact (ih (visit entry progress).1).trans (extends_visit entry progress)

/-- A walk with a higher bound gives a display name that begins with that of the
shorter walk. -/
theorem extends_walk_of_le {fewer more : Nat} (le : fewer ≤ more) (progress : Progress) :
    (walk table more reference progress).progress.Extends
      (walk table fewer reference progress).progress := by
  induction fewer generalizing more reference progress with
  | zero =>
      rw [walk_zero]
      exact extends_walk more progress
  | succ fewer ih =>
      obtain ⟨more, rfl⟩ : ∃ rest, more = rest + 1 := ⟨more - 1, by omega⟩
      cases found : table.target? reference with
      | none =>
          rw [walk_of_none found, walk_of_none found]
          exact Progress.Extends.refl _
      | some entry =>
          rw [walk_of_some found, walk_of_some found]
          exact ih (by omega) (visit entry progress).1

end Walking

end Resolution
end DebugIndex
