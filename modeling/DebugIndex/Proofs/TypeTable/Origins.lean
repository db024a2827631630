import DebugIndex.Proofs.TypeTable.Relocation
import DebugIndex.Proofs.TypeTable.Repetition

/-!
# Where sizes and encodings come from

A variable of which nothing is known but its declaration has, once it is resolved, the size and
the encoding that its chain settles, and zero where the chain settles none.  So do all variables
in its member tree, whatever it was before itself.  What a chain settles is the size or the
encoding of an entry on it, but for the encodings of pointers and of signed whole numbers.
-/

namespace DebugIndex

open Resolution

/-- A variable with the size and the encoding that its chain settles, and zero where the chain
settles none. -/
structure Variable.SettledBy (table : TypeTable) (limits : Limits) (item : Variable) : Prop where
  byteSize_eq : item.byteSize = (sizeOf? table limits item.typeOffset).getD 0
  encoding_eq : item.encoding = (encodingOf? table limits item.typeOffset).getD 0

namespace Resolution

/-! ## Entries that settle something -/

theorem exists_given_of_settled? {given? : Bool → TypeEntry → Option Int} {behindPointer : Bool}
    {entries : List TypeEntry} {number : Int}
    (settled : settled? given? behindPointer entries = some number) :
    ∃ entry ∈ entries, ∃ behind, given? behind entry = some number := by
  induction entries generalizing behindPointer with
  | nil => cases settled
  | cons entry rest ih =>
      rw [settled?, Option.or_eq_some_iff] at settled
      rcases settled with later | ⟨-, given⟩
      · obtain ⟨giver, member, given⟩ := ih later
        exact ⟨giver, List.mem_cons_of_mem _ member, given⟩
      · exact ⟨entry, List.mem_cons_self, behindPointer, given⟩

theorem eq_byteSize_of_givenSize? {behindPointer : Bool} {entry : TypeEntry} {number : Int}
    (given : givenSize? behindPointer entry = some number) : number = entry.byteSize := by
  rw [givenSize?] at given
  split at given
  · exact (Option.some.inj given).symm
  · exact (Option.some.inj given).symm
  · cases behindPointer with
    | true => cases given
    | false => exact (Option.some.inj given).symm
  · cases given

/-- The encoding that an entry gives is its own, or one of the two that come from no entry. -/
theorem mem_of_givenEncoding? {behindPointer : Bool} {entry : TypeEntry} {number : Int}
    (given : givenEncoding? behindPointer entry = some number) :
    number ∈ [signedEncoding, pointerEncoding, entry.encoding] := by
  rw [givenEncoding?] at given
  split at given
  · obtain rfl := Option.some.inj given
    simp
  · split at given
    · obtain rfl := Option.some.inj given
      simp
    · split at given
      · obtain rfl := Option.some.inj given
        simp
      · cases given
  · cases behindPointer with
    | true => cases given
    | false =>
        obtain rfl := Option.some.inj given
        simp
  · cases given

/-! ## Variables in member trees -/

section Trees

variable {table : TypeTable} {limits : Limits} {depth : Int} {item : Variable}

theorem settledBy_resolve (noSize : item.byteSize = 0) (noEncoding : item.encoding = 0) :
    (resolve table limits depth item).item.SettledBy table limits := by
  have sameReference : (resolve table limits depth item).item.typeOffset = item.typeOffset :=
    (declared_resolve table limits depth item).2.1
  constructor
  · rw [sameReference, resolve_eq_fresh, ← noSize]
    rfl
  · rw [sameReference, resolve_eq_fresh, ← noEncoding]
    rfl

/-- Below a resolved variable every size and every encoding is settled by a chain. -/
theorem settledBy_of_isBelow {levels : Nat} {part : Variable}
    (below : Variable.IsBelow levels part (resolve table limits depth item).item) :
    part.SettledBy table limits := by
  generalize root : (resolve table limits depth item).item = whole at below
  induction below generalizing depth item with
  | member isMember =>
      rw [← root] at isMember
      obtain ⟨-, field, rfl⟩ := exists_resolve_of_mem_members isMember
      exact settledBy_resolve rfl rfl
  | deeper isMember _ ih =>
      rw [← root] at isMember
      obtain ⟨-, field, rfl⟩ := exists_resolve_of_mem_members isMember
      exact ih rfl

end Trees

end Resolution

namespace Variable.SettledBy

variable {table : TypeTable} {limits : Limits} {item : Variable}

theorem byteSize_origin (settled : item.SettledBy table limits) :
    item.byteSize = 0 ∨
      ∃ entry ∈ visitedEntries table limits item, item.byteSize = entry.byteSize := by
  rw [settled.byteSize_eq]
  cases found : sizeOf? table limits item.typeOffset with
  | none => exact Or.inl rfl
  | some number =>
      obtain ⟨entry, visited, _, given⟩ := exists_given_of_settled? found
      exact Or.inr ⟨entry, visited, eq_byteSize_of_givenSize? given⟩

/-- An encoding that is not zero is that of an entry on the chain, or one of the two that come
from no entry. -/
theorem encoding_origin (settled : item.SettledBy table limits) :
    item.encoding ∈ [0, signedEncoding, pointerEncoding] ∨
      ∃ entry ∈ visitedEntries table limits item, item.encoding = entry.encoding := by
  rw [settled.encoding_eq]
  cases found : encodingOf? table limits item.typeOffset with
  | none => exact Or.inl (by simp)
  | some number =>
      obtain ⟨entry, visited, _, given⟩ := exists_given_of_settled? found
      have origin := mem_of_givenEncoding? given
      simp only [List.mem_cons, List.not_mem_nil, or_false] at origin
      rcases origin with signed | pointer | own
      · exact Or.inl (by simp [signed])
      · exact Or.inl (by simp [pointer])
      · exact Or.inr ⟨entry, visited, own⟩

end Variable.SettledBy

namespace TypeTable

theorem mem_of_firstEntries {table : TypeTable} {count : Nat} {reference : Int}
    {entry : TypeEntry} (visited : entry ∈ table.firstEntries count reference) :
    entry ∈ table.entries := by
  induction count generalizing reference with
  | zero => cases visited
  | succ count ih =>
      rw [firstEntries] at visited
      split at visited
      case h_1 => cases visited
      case h_2 first found =>
        rcases List.mem_cons.mp visited with rfl | later
        · exact mem_of_target? found
        · exact ih later

end TypeTable
end DebugIndex
