import DebugIndex.Proofs.TypeTable.StepBound

/-!
# Variables behind pointers

A variable whose chain runs through a pointer is as large as the pointer, and its encoding
is that of pointers: the last pointer on the chain settles both, whatever entries of other
kinds come before or behind it.  The exception are enumerations, which give a variable
their own size and encoding even behind a pointer.  An enumeration refers to nothing, so it
can only be the last entry of a chain, and there it has the last word.
-/

namespace DebugIndex

def lastPointer? (entries : List TypeEntry) : Option TypeEntry :=
  (entries.filter fun entry => entry.tag = .pointerType).getLast?

theorem lastPointer?_eq_some_iff {entries : List TypeEntry} {pointer : TypeEntry} :
    lastPointer? entries = some pointer ↔
      ∃ front behind, entries = front ++ pointer :: behind ∧ pointer.tag = .pointerType ∧
        ∀ entry ∈ behind, entry.tag ≠ .pointerType := by
  rw [lastPointer?, List.getLast?_eq_some_iff]
  constructor
  · rintro ⟨earlier, kept⟩
    obtain ⟨front, rest, rfl, -, keptRest⟩ := List.filter_eq_append_iff.mp kept
    obtain ⟨between, behind, rfl, -, isPointer, keptBehind⟩ := List.filter_eq_cons_iff.mp keptRest
    refine ⟨front ++ between, behind, by rw [List.append_assoc], by simpa using isPointer, ?_⟩
    simpa [List.filter_eq_nil_iff] using keptBehind
  · rintro ⟨front, behind, rfl, isPointer, others⟩
    have noneBehind : (behind.filter fun entry => entry.tag = .pointerType) = [] := by
      simpa [List.filter_eq_nil_iff] using others
    refine ⟨front.filter fun entry => entry.tag = .pointerType, ?_⟩
    rw [List.filter_append, List.filter_cons_of_pos (by simpa using isPointer), noneBehind]

namespace Resolution

/-! ## Visiting entries behind a pointer -/

/-- What has been gathered is about a pointer: its size, and the encoding of pointers. -/
structure Progress.IsOf (progress : Progress) (pointer : TypeEntry) : Prop where
  marked : progress.has .pointer = true
  byteSize : progress.byteSize = pointer.byteSize
  encoding : progress.encoding = pointerEncoding

def enumerationEncoding (entry : TypeEntry) (former : Int) : Int :=
  if entry.encoding ≠ 0 then entry.encoding
  else if entry.byteSize = 4 then signedEncoding
  else former

section Visiting

variable {progress : Progress} {entry pointer : TypeEntry}

theorem isOf_gather_pointer (progress : Progress) (isPointer : entry.tag = .pointerType) :
    (gather progress entry).IsOf entry := by
  have marked : (progress.mark .pointer).has .pointer = true := by
    simp [Progress.has, Progress.mark, Capability.isIn_or, Capability.isIn_mask]
  simp only [gather, visit, isPointer]
  split <;> exact ⟨marked, rfl, rfl⟩

namespace Progress.IsOf

theorem mark (behind : progress.IsOf pointer) (capability : Capability) :
    (progress.mark capability).IsOf pointer := by
  refine ⟨?_, behind.byteSize, behind.encoding⟩
  rw [Progress.has, Progress.mark, Capability.isIn_or, Bool.or_eq_true]
  exact Or.inl behind.marked

theorem write (behind : progress.IsOf pointer) (text : String) :
    (progress.write text).IsOf pointer :=
  ⟨behind.marked, behind.byteSize, behind.encoding⟩

theorem writeIf (behind : progress.IsOf pointer) (condition : Bool) (text : String) :
    (progress.writeIf condition text).IsOf pointer := by
  cases condition with
  | true => exact behind.write text
  | false => exact behind

theorem writeName (behind : progress.IsOf pointer) (entry : TypeEntry) :
    (progress.writeName entry).IsOf pointer :=
  behind.writeIf _ _

theorem insideTypedef (behind : progress.IsOf pointer) :
    IsOf { progress with insideTypedef := true } pointer :=
  ⟨behind.marked, behind.byteSize, behind.encoding⟩

/-- Only pointers and enumerations change the size or the encoding behind a pointer. -/
theorem gather (behind : progress.IsOf pointer) (noPointer : entry.tag ≠ .pointerType)
    (noEnumeration : entry.tag ≠ .enumerationType) :
    (Resolution.gather progress entry).IsOf pointer := by
  cases tag : entry.tag with
  | pointerType => exact absurd tag noPointer
  | enumerationType => exact absurd tag noEnumeration
  | structureType | unionType =>
      simp only [Resolution.gather, visit, visit.aggregate, tag]
      split
      · exact (behind.mark _).writeName entry
      · exact ((behind.mark _).writeName entry).writeIf _ _
  | typedef =>
      simp only [Resolution.gather, visit, tag]
      split
      · exact behind
      · exact ((behind.mark .typedef).writeName entry).insideTypedef
  | baseType =>
      have named : (progress.writeName entry).IsOf pointer := behind.writeName entry
      simp only [Resolution.gather, visit, tag, named.marked, if_true]
      exact (named.write _).writeIf _ _
  | subroutineType | constType =>
      simp only [Resolution.gather, visit, tag]
      exact (behind.mark _).write _
  | subrangeType | arrayType =>
      simp only [Resolution.gather, visit, tag]
      exact behind.mark _
  | _ =>
      simp only [Resolution.gather, visit, tag]
      exact behind

/-- An enumeration gives its own size behind a pointer too, and its own encoding if it has
one. -/
theorem gather_enumeration (behind : progress.IsOf pointer)
    (isEnumeration : entry.tag = .enumerationType) :
    (Resolution.gather progress entry).byteSize = entry.byteSize ∧
      (Resolution.gather progress entry).encoding =
        enumerationEncoding entry pointerEncoding := by
  simp only [Resolution.gather, visit, isEnumeration, behind.encoding, enumerationEncoding,
    and_self]

/-- Entries of other kinds keep the size and the encoding of a pointer before them. -/
theorem foldl_gather {entries : List TypeEntry}
    (noPointer : ∀ entry ∈ entries, entry.tag ≠ .pointerType)
    (noEnumeration : ∀ entry ∈ entries, entry.tag ≠ .enumerationType)
    (behind : progress.IsOf pointer) : (entries.foldl Resolution.gather progress).IsOf pointer := by
  induction entries generalizing progress with
  | nil => exact behind
  | cons entry rest ih =>
      obtain ⟨notPointer, otherPointers⟩ := List.forall_mem_cons.mp noPointer
      obtain ⟨notEnumeration, otherEnumerations⟩ := List.forall_mem_cons.mp noEnumeration
      exact ih otherPointers otherEnumerations (behind.gather notPointer notEnumeration)

end Progress.IsOf

end Visiting

/-! ## Walks through pointers -/

section Walking

variable {table : TypeTable} {limits : Limits} {item : Variable}

def visitedEntries (table : TypeTable) (limits : Limits) (item : Variable) : List TypeEntry :=
  table.firstEntries limits.steps.toNat item.typeOffset

/-- From a pointer on, a walk goes on with what it has gathered about the pointer. -/
theorem exists_isOf_of_visited {front behind : List TypeEntry} {pointer : TypeEntry}
    (visited : visitedEntries table limits item = front ++ pointer :: behind)
    (isPointer : pointer.tag = .pointerType) :
    ∃ reached : Progress, reached.IsOf pointer ∧
      (walkOf table limits item).progress = behind.foldl gather reached := by
  rw [visitedEntries] at visited
  rw [walkOf, progress_walk, visited, List.foldl_append, List.foldl_cons]
  exact ⟨_, isOf_gather_pointer _ isPointer, rfl⟩

theorem byteSize_resolve (depth : Int) :
    (resolve table limits depth item).item.byteSize =
      (walkOf table limits item).progress.byteSize := by
  rw [resolve_eq]
  rfl

theorem encoding_resolve (depth : Int) :
    (resolve table limits depth item).item.encoding =
      (walkOf table limits item).progress.encoding := by
  rw [resolve_eq]
  rfl

theorem isPointer_resolve_iff (depth : Int) :
    (resolve table limits depth item).item.isPointer = true ↔
      ∃ entry ∈ visitedEntries table limits item, entry.tag = .pointerType := by
  rw [Variable.isPointer, capabilities_resolve, capabilities_walkOf,
    Capability.isIn_capabilitiesOf, visitedEntries]
  refine exists_congr fun entry => and_congr_right fun _ => ?_
  rw [TypeEntry.capability?]
  cases entry.tag <;> simp

theorem exists_lastPointer? {entries : List TypeEntry} {entry : TypeEntry}
    (member : entry ∈ entries) (isPointer : entry.tag = .pointerType) :
    ∃ last, lastPointer? entries = some last := by
  cases found : lastPointer? entries with
  | none =>
      rw [lastPointer?, List.getLast?_eq_none_iff, List.filter_eq_nil_iff] at found
      exact absurd (decide_eq_true isPointer) (found entry member)
  | some last => exact ⟨last, rfl⟩

/-- Behind the last pointer of a walk an enumeration can only come at the very end. -/
theorem exists_between_of_enumeration {last enumeration : TypeEntry}
    (found : lastPointer? (visitedEntries table limits item) = some last)
    (member : enumeration ∈ visitedEntries table limits item)
    (isEnumeration : enumeration.tag = .enumerationType) :
    ∃ front between, visitedEntries table limits item =
        front ++ last :: (between ++ [enumeration]) ∧ last.tag = .pointerType ∧
      ∀ entry ∈ between, entry.tag ≠ .pointerType ∧ entry.tag ≠ .enumerationType := by
  obtain ⟨front, behind, visited, isPointer, others⟩ := lastPointer?_eq_some_iff.mp found
  have goesOn {before after : List TypeEntry} {next : TypeEntry}
      (split : visitedEntries table limits item = before ++ next :: after) :
      ∀ entry ∈ before, entry.tag ≠ .enumerationType := by
    intro entry listed tag
    refine TypeTable.outgoing_ne_zero_of_firstEntries split entry listed ?_
    rw [TypeEntry.outgoing, tag]
  rw [visited, List.mem_append, List.mem_cons] at member
  rcases member with inFront | isLast | isBehind
  · exact absurd isEnumeration (goesOn visited enumeration inFront)
  · rw [isLast, isPointer] at isEnumeration
    cases isEnumeration
  · obtain ⟨between, after, rfl⟩ := List.append_of_mem isBehind
    have split : visitedEntries table limits item =
        (front ++ last :: between) ++ enumeration :: after := by
      rw [visited, List.append_assoc, List.cons_append]
    have ends : after = [] := by
      cases after with
      | nil => rfl
      | cons next rest =>
          have onward : visitedEntries table limits item =
              (front ++ last :: between ++ [enumeration]) ++ next :: rest := by
            rw [split, List.append_assoc _ [enumeration], List.singleton_append]
          exact absurd isEnumeration (goesOn onward enumeration (by simp))
    refine ⟨front, between, by rw [visited, ends], isPointer, ?_⟩
    intro entry listed
    exact ⟨others entry (List.mem_append_left _ listed), goesOn split entry (by simp [listed])⟩

end Walking

/-- A variable whose walk visits a pointer has the encoding of pointers and the size of the
last pointer, whatever it was before and whatever else is visited, unless the walk comes to
an enumeration.  That gives the variable its own size, and its own encoding if it has one
or its size calls for one. -/
theorem size_resolve_of_isPointer (table : TypeTable) (limits : Limits) (depth : Int)
    (item : Variable) (pointer : (resolve table limits depth item).item.isPointer = true) :
    ∃ last, lastPointer? (visitedEntries table limits item) = some last ∧
      ((∀ entry ∈ visitedEntries table limits item, entry.tag ≠ .enumerationType) →
        (resolve table limits depth item).item.encoding = pointerEncoding ∧
          (resolve table limits depth item).item.byteSize = last.byteSize) ∧
      ∀ entry ∈ visitedEntries table limits item, entry.tag = .enumerationType →
        (resolve table limits depth item).item.encoding =
            enumerationEncoding entry pointerEncoding ∧
          (resolve table limits depth item).item.byteSize = entry.byteSize := by
  obtain ⟨entry, member, isPointer⟩ := (isPointer_resolve_iff depth).mp pointer
  obtain ⟨last, found⟩ := exists_lastPointer? member isPointer
  rw [byteSize_resolve, encoding_resolve]
  refine ⟨last, found, ?_, ?_⟩
  · intro noEnumeration
    obtain ⟨front, behind, visited, lastIsPointer, others⟩ := lastPointer?_eq_some_iff.mp found
    obtain ⟨reached, isOf, walked⟩ := exists_isOf_of_visited visited lastIsPointer
    have kept := isOf.foldl_gather others fun entry listed =>
      noEnumeration entry (by simp [visited, listed])
    rw [walked]
    exact ⟨kept.encoding, kept.byteSize⟩
  · intro enumeration listed isEnumeration
    obtain ⟨front, between, visited, lastIsPointer, others⟩ :=
      exists_between_of_enumeration found listed isEnumeration
    obtain ⟨reached, isOf, walked⟩ := exists_isOf_of_visited visited lastIsPointer
    have kept := isOf.foldl_gather (fun entry among => (others entry among).1)
      fun entry among => (others entry among).2
    rw [walked, List.foldl_append, List.foldl_cons, List.foldl_nil]
    exact (kept.gather_enumeration isEnumeration).symm

def innerPointer : TypeEntry where
  tag := .pointerType
  offset := 32
  typeOffset := 40
  byteSize := 4

/-- A wide pointer to a constant pointer to a character, and a pointer to an enumeration. -/
def pointerTable : TypeTable where
  entries :=
    [{ tag := .pointerType, offset := 16, typeOffset := 24, byteSize := 8 },
      { tag := .constType, offset := 24, typeOffset := 32 },
      innerPointer,
      { tag := .baseType, offset := 40, byteSize := 1, encoding := 6, name := some "char" },
      { tag := .pointerType, offset := 48, typeOffset := 56, byteSize := 4 },
      { tag := .enumerationType, offset := 56, byteSize := 1, encoding := 7,
        name := some "color" }]

theorem size_resolve_innerPointer :
    (resolve pointerTable {} 0 { typeOffset := 16 }).item.isPointer = true ∧
      lastPointer? (visitedEntries pointerTable {} { typeOffset := 16 }) = some innerPointer ∧
        (resolve pointerTable {} 0 { typeOffset := 16 }).item.encoding = pointerEncoding ∧
          (resolve pointerTable {} 0 { typeOffset := 16 }).item.byteSize = 4 := by
  have pointer : (resolve pointerTable {} 0 { typeOffset := 16 }).item.isPointer = true := by
    decide +kernel
  have lastPointer : lastPointer? (visitedEntries pointerTable {} { typeOffset := 16 }) =
      some innerPointer := by decide
  obtain ⟨last, found, sized, -⟩ :=
    size_resolve_of_isPointer pointerTable {} 0 { typeOffset := 16 } pointer
  obtain rfl : innerPointer = last := Option.some.inj (lastPointer.symm.trans found)
  exact ⟨pointer, lastPointer, sized (by decide)⟩

/-- A pointer to an enumeration has the size and the encoding of the enumeration. -/
theorem size_resolve_pointerToEnumeration :
    (resolve pointerTable {} 0 { typeOffset := 48 }).item.isPointer = true ∧
      (lastPointer? (visitedEntries pointerTable {} { typeOffset := 48 })).map
          TypeEntry.byteSize = some 4 ∧
        (resolve pointerTable {} 0 { typeOffset := 48 }).item.encoding = 7 ∧
          (resolve pointerTable {} 0 { typeOffset := 48 }).item.byteSize = 1 := by
  decide +kernel

end Resolution
end DebugIndex
