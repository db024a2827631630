import DebugIndex.Capability
import DebugIndex.TypeTable.Basic

/-!
# Reference chains

A reference leads to an entry, the entry may refer to a further one, and so on: the
entries on the way are the chain of the reference.  The table is arbitrary, so a chain
may go on for ever.  What a chain is does not depend on how it is walked.
-/

namespace DebugIndex

namespace TypeEntry

/-- The reference that a chain goes on with from an entry, zero if it ends there. -/
def outgoing (entry : TypeEntry) : Int :=
  match entry.tag with
  | .structureType | .unionType | .pointerType | .typedef | .arrayType | .constType =>
      entry.typeOffset
  | _ => 0

def capability? (entry : TypeEntry) : Option Capability :=
  match entry.tag with
  | .subroutineType => some .subroutine
  | .structureType => some .struct
  | .unionType => some .union
  | .pointerType => some .pointer
  | .enumerationType => some .enum
  | .typedef => some .typedef
  | .subrangeType => some .subrange
  | .arrayType => some .array
  | .constType => some .const
  | _ => none

/-- The bit of an entry's capability, if it has one. -/
def capabilityMask (entry : TypeEntry) : Nat :=
  (entry.capability?.map Capability.mask).getD 0

/-- Whether an entry is a struct or union that refers to no further one: what lies
behind it are its members. -/
def isInnermost (entry : TypeEntry) : Bool :=
  entry.tag.isAggregate && entry.typeOffset = 0

theorem outgoing_of_isInnermost {entry : TypeEntry} (innermost : entry.isInnermost = true) :
    entry.outgoing = 0 := by
  simp only [isInnermost, Bool.and_eq_true, decide_eq_true_eq] at innermost
  simp only [outgoing, innermost.2]
  split <;> rfl

end TypeEntry

def capabilitiesOf (entries : List TypeEntry) : Nat :=
  entries.foldr (fun entry bits => entry.capabilityMask ||| bits) 0

namespace Capability

theorem position_injective : Function.Injective position := by
  intro first second same
  cases first <;> cases second <;> first | rfl | cases same

theorem isIn_mask (capability other : Capability) :
    capability.isIn other.mask = decide (capability = other) := by
  have bit : capability.isIn other.mask = decide (other.position = capability.position) :=
    Nat.testBit_two_pow
  rw [bit, decide_eq_decide]
  exact ⟨fun same => (position_injective same).symm, fun same => same ▸ rfl⟩

theorem isIn_or (capability : Capability) (first second : Nat) :
    capability.isIn ((first ||| second : Nat) : Int) =
      (capability.isIn first || capability.isIn second) :=
  Nat.testBit_or first second capability.position

/-- The capabilities of entries include those that one of the entries has, and no others. -/
theorem isIn_capabilitiesOf {capability : Capability} {entries : List TypeEntry} :
    capability.isIn (capabilitiesOf entries) = true ↔
      ∃ entry ∈ entries, entry.capability? = some capability := by
  induction entries with
  | nil => simp [capabilitiesOf, isIn]
  | cons entry rest ih =>
      have own : capability.isIn entry.capabilityMask = true ↔
          entry.capability? = some capability := by
        rw [TypeEntry.capabilityMask]
        cases entry.capability? with
        | none => simp [isIn]
        | some other => simp [isIn_mask, eq_comm]
      rw [capabilitiesOf, List.foldr_cons, ← capabilitiesOf, isIn_or, Bool.or_eq_true, own, ih]
      simp

end Capability

namespace TypeTable

/-- The chain of a reference, if it ends: every entry is the one that the reference
before it leads to, and the last reference is zero or leads out of the table. -/
def IsChain (table : TypeTable) : (reference : Int) → List TypeEntry → Prop
  | reference, [] => table.target? reference = none
  | reference, entry :: rest =>
      table.target? reference = some entry ∧ table.IsChain entry.outgoing rest

/-- The first entries of the chain of a reference, no more than `count`. -/
def firstEntries (table : TypeTable) : (count : Nat) → (reference : Int) → List TypeEntry
  | 0, _ => []
  | count + 1, reference =>
      match table.target? reference with
      | none => []
      | some entry => entry :: table.firstEntries count entry.outgoing

/-- A chain that does not end within a number of entries: it is longer or infinite. -/
def ChainExceeds (table : TypeTable) (reference : Int) (count : Nat) : Prop :=
  ∀ entries, table.IsChain reference entries → count < entries.length

@[simp]
theorem target?_zero (table : TypeTable) : table.target? 0 = none := rfl

theorem eq_nil_of_isChain_zero {table : TypeTable} {entries : List TypeEntry}
    (chain : table.IsChain 0 entries) : entries = [] := by
  cases entries with
  | nil => rfl
  | cons entry rest => simp [IsChain] at chain

/-- Where a reference leads to an entry, its chain begins with that entry. -/
theorem isChain_iff_of_some {table : TypeTable} {reference : Int} {entry : TypeEntry}
    (found : table.target? reference = some entry) {entries : List TypeEntry} :
    table.IsChain reference entries ↔
      ∃ rest, entries = entry :: rest ∧ table.IsChain entry.outgoing rest := by
  constructor
  · intro chain
    cases entries with
    | nil => simp [show table.target? reference = none from chain] at found
    | cons first rest =>
        obtain ⟨foundFirst, onward⟩ := chain
        obtain rfl : entry = first := Option.some.inj (found.symm.trans foundFirst)
        exact ⟨rest, rfl, onward⟩
  · rintro ⟨rest, rfl, onward⟩
    exact ⟨found, onward⟩

theorem firstEntries_of_isChain {table : TypeTable} {reference : Int}
    {entries : List TypeEntry} (chain : table.IsChain reference entries) {count : Nat}
    (short : entries.length ≤ count) : table.firstEntries count reference = entries := by
  induction entries generalizing reference count with
  | nil =>
      cases count with
      | zero => rfl
      | succ count => simp [firstEntries, show table.target? reference = none from chain]
  | cons entry rest ih =>
      obtain ⟨found, onward⟩ := chain
      cases count with
      | zero => simp at short
      | succ count =>
          simp only [firstEntries, found]
          rw [ih onward (by simpa using short)]

theorem chainExceeds_zero_iff {table : TypeTable} {reference : Int} :
    table.ChainExceeds reference 0 ↔ (table.target? reference).isSome = true := by
  constructor
  · intro exceeds
    rw [Option.isSome_iff_ne_none]
    intro leadsNowhere
    exact Nat.lt_irrefl 0 (exceeds [] leadsNowhere)
  · intro leads entries chain
    cases entries with
    | nil => simp [show table.target? reference = none from chain] at leads
    | cons entry rest => simp

theorem not_chainExceeds_of_none {table : TypeTable} {reference : Int} {count : Nat}
    (leadsNowhere : table.target? reference = none) :
    ¬ table.ChainExceeds reference count :=
  fun exceeds => Nat.not_lt_zero count (exceeds [] leadsNowhere)

/-- Where a reference leads to an entry, its chain is one longer than that of the entry. -/
theorem chainExceeds_succ_iff {table : TypeTable} {reference : Int} {entry : TypeEntry}
    (found : table.target? reference = some entry) {count : Nat} :
    table.ChainExceeds reference (count + 1) ↔ table.ChainExceeds entry.outgoing count := by
  constructor
  · intro exceeds rest chain
    simpa using exceeds (entry :: rest) ⟨found, chain⟩
  · intro exceeds entries chain
    obtain ⟨rest, rfl, onward⟩ := (isChain_iff_of_some found).mp chain
    simpa using exceeds rest onward

/-! ### Chains that end at an aggregate -/

/-- Whether a chain ends at an aggregate that refers to no further entry, behind fewer entries
than a bound. -/
def EndsAt (table : TypeTable) (last : TypeEntry) (bound : Nat) (reference : Int) : Prop :=
  ∃ earlier, table.IsChain reference (earlier ++ [last]) ∧ earlier.length < bound ∧
    last.isInnermost = true

@[simp]
theorem not_endsAt_zero {table : TypeTable} {last : TypeEntry} {reference : Int} :
    ¬ table.EndsAt last 0 reference := by
  rintro ⟨earlier, -, short, -⟩
  exact Nat.not_lt_zero earlier.length short

theorem not_endsAt_of_none {table : TypeTable} {last : TypeEntry} {bound : Nat} {reference : Int}
    (leadsNowhere : table.target? reference = none) : ¬ table.EndsAt last bound reference := by
  rintro ⟨earlier, chain, -⟩
  cases earlier <;> simp [IsChain, leadsNowhere] at chain

theorem endsAt_iff_of_isInnermost {table : TypeTable} {last entry : TypeEntry} {bound : Nat}
    {reference : Int} (found : table.target? reference = some entry)
    (innermost : entry.isInnermost = true) :
    table.EndsAt last (bound + 1) reference ↔ entry = last := by
  have ended : table.IsChain entry.outgoing [] := by
    rw [TypeEntry.outgoing_of_isInnermost innermost]
    exact table.target?_zero
  constructor
  · rintro ⟨earlier, chain, -, -⟩
    obtain ⟨rest, parts, onward⟩ := (isChain_iff_of_some found).mp chain
    rw [TypeEntry.outgoing_of_isInnermost innermost] at onward
    obtain rfl := eq_nil_of_isChain_zero onward
    have same := congrArg List.getLast? parts
    simpa [eq_comm] using same
  · rintro rfl
    exact ⟨[], ⟨found, ended⟩, Nat.succ_pos bound, innermost⟩

theorem endsAt_iff_of_not_isInnermost {table : TypeTable} {last entry : TypeEntry} {bound : Nat}
    {reference : Int} (found : table.target? reference = some entry)
    (refers : ¬ entry.isInnermost = true) :
    table.EndsAt last (bound + 1) reference ↔ table.EndsAt last bound entry.outgoing := by
  constructor
  · rintro ⟨earlier, chain, short, innermost⟩
    cases earlier with
    | nil =>
        obtain rfl : entry = last := Option.some.inj (found.symm.trans chain.1)
        exact absurd innermost refers
    | cons first rest =>
        obtain ⟨behind, parts, onward⟩ := (isChain_iff_of_some found).mp chain
        obtain ⟨rfl, rfl⟩ := List.cons.inj parts
        exact ⟨rest, onward, Nat.lt_of_succ_lt_succ short, innermost⟩
  · rintro ⟨rest, onward, short, innermost⟩
    exact ⟨entry :: rest, ⟨found, onward⟩, Nat.succ_lt_succ short, innermost⟩

/-! ### The first entries -/

theorem length_firstEntries_of_chainExceeds {table : TypeTable} {reference : Int}
    {count : Nat} (exceeds : table.ChainExceeds reference count) :
    (table.firstEntries count reference).length = count := by
  induction count generalizing reference with
  | zero => rfl
  | succ count ih =>
      cases found : table.target? reference with
      | none => exact absurd exceeds (not_chainExceeds_of_none found)
      | some entry =>
          simp only [firstEntries, found, List.length_cons]
          rw [ih ((chainExceeds_succ_iff found).mp exceeds)]

@[simp]
theorem firstEntries_zero (table : TypeTable) (count : Nat) : table.firstEntries count 0 = [] := by
  cases count <;> rfl

theorem outgoing_ne_zero_of_firstEntries {table : TypeTable} {reference : Int} {count : Nat}
    {front rest : List TypeEntry} {next : TypeEntry}
    (visited : table.firstEntries count reference = front ++ next :: rest) :
    ∀ entry ∈ front, entry.outgoing ≠ 0 := by
  induction count generalizing front reference with
  | zero => simp [firstEntries] at visited
  | succ count ih =>
      rw [firstEntries] at visited
      split at visited
      case h_1 => simp at visited
      case h_2 first _ =>
        cases front with
        | nil => simp
        | cons head front =>
            obtain ⟨rfl, onward⟩ := List.cons.inj visited
            refine List.forall_mem_cons.mpr ⟨?_, ih onward⟩
            intro refersNot
            simp [refersNot, firstEntries_zero] at onward

end TypeTable
end DebugIndex
