import Mathlib.Data.List.Forall2
import DebugIndex.Proofs.TypeTable.Pointers

/-!
# Names behind a typedef

The display name of a type is that of the outermost typedef, if there is one on the chain:
the names of all entries behind it are passed over.  Here two tables are resolved in that
differ in nothing but such names.  An entry that is behind the typedef can also stand before
it, as a chain may lead back to where it has been, and then its name does show; so the names
that are free to differ are those of the entries that the chain comes to behind its first
typedef only.
-/

namespace DebugIndex

namespace TypeEntry

/-- An entry without its name. -/
def unnamed (entry : TypeEntry) : TypeEntry :=
  { entry with name := none }

/-- Two entries that are the same, but for their names if the offset is a hidden one. -/
structure AgreesButHidden (hidden : Int → Prop) (entry other : TypeEntry) : Prop where
  unnamed_eq : entry.unnamed = other.unnamed
  name_eq : ¬ hidden entry.offset → entry.name = other.name

namespace AgreesButHidden

variable {hidden : Int → Prop} {entry other : TypeEntry}

theorem eq (agrees : entry.AgreesButHidden hidden other) (shown : ¬ hidden entry.offset) :
    entry = other := by
  have sameRest := agrees.unnamed_eq
  have sameName := agrees.name_eq shown
  cases entry
  cases other
  simp_all [unnamed]

theorem offset_eq (agrees : entry.AgreesButHidden hidden other) : entry.offset = other.offset :=
  (congrArg TypeEntry.offset agrees.unnamed_eq : entry.unnamed.offset = other.unnamed.offset)

/-- Where a chain goes on from an entry does not depend on the entry's name. -/
theorem outgoing_eq (agrees : entry.AgreesButHidden hidden other) :
    entry.outgoing = other.outgoing :=
  (congrArg TypeEntry.outgoing agrees.unnamed_eq :
    entry.unnamed.outgoing = other.unnamed.outgoing)

end AgreesButHidden

end TypeEntry

/-- The entries up to the first typedef and with it. -/
def throughTypedef : List TypeEntry → List TypeEntry
  | [] => []
  | entry :: rest => if entry.tag = .typedef then [entry] else entry :: throughTypedef rest

theorem throughTypedef_append_cons {front : List TypeEntry} {outermost : TypeEntry}
    (others : ∀ entry ∈ front, entry.tag ≠ .typedef) (isTypedef : outermost.tag = .typedef)
    (behind : List TypeEntry) :
    throughTypedef (front ++ outermost :: behind) = front ++ [outermost] := by
  induction front with
  | nil => exact if_pos isTypedef
  | cons entry rest ih =>
      obtain ⟨other, rest_others⟩ := List.forall_mem_cons.mp others
      rw [List.cons_append, throughTypedef, if_neg other, ih rest_others, List.cons_append]

theorem throughTypedef_mono {shorter longer : List TypeEntry} (begins : shorter <+: longer) :
    throughTypedef shorter <+: throughTypedef longer := by
  obtain ⟨more, rfl⟩ := begins
  induction shorter with
  | nil => exact List.nil_prefix
  | cons entry rest ih =>
      simp only [List.cons_append, throughTypedef]
      split
      · exact List.prefix_rfl
      · exact (List.prefix_cons_inj entry).mpr ih

namespace TypeTable

/-- An offset that the chain of a reference comes to behind its first typedef, and not on the
way to it. -/
def IsBehindTypedef (table : TypeTable) (reference offset : Int) : Prop :=
  ∃ count front outermost behind,
    table.firstEntries count reference = front ++ outermost :: behind ∧
      (∀ entry ∈ front, entry.tag ≠ .typedef) ∧ outermost.tag = .typedef ∧
        (∃ entry ∈ behind, entry.offset = offset) ∧
          ∀ entry ∈ front ++ [outermost], entry.offset ≠ offset

/-- Tables that are equal, but for the names of entries at hidden offsets. -/
def AgreesButHidden (hidden : Int → Prop) (first second : TypeTable) : Prop :=
  List.Forall₂ (TypeEntry.AgreesButHidden hidden) first.entries second.entries

section Chains

variable {table first second : TypeTable} {hidden : Int → Prop} {reference : Int}

theorem firstEntries_prefix_of_le {fewer more : Nat} (le : fewer ≤ more) :
    table.firstEntries fewer reference <+: table.firstEntries more reference := by
  induction fewer generalizing more reference with
  | zero => exact List.nil_prefix
  | succ fewer ih =>
      obtain ⟨more, rfl⟩ : ∃ rest, more = rest + 1 := ⟨more - 1, by omega⟩
      simp only [firstEntries]
      cases table.target? reference with
      | none => exact List.prefix_rfl
      | some entry => exact (List.prefix_cons_inj entry).mpr (ih (by omega))

/-- No entry on the way to the first typedef of a chain is behind it, however far the chain
is followed. -/
theorem not_isBehindTypedef_of_mem {count : Nat} {entry : TypeEntry}
    (shown : entry ∈ throughTypedef (table.firstEntries count reference)) :
    ¬ table.IsBehindTypedef reference entry.offset := by
  rintro ⟨further, front, outermost, behind, visited, others, isTypedef, -, elsewhere⟩
  have whole := throughTypedef_append_cons others isTypedef behind
  refine elsewhere entry ?_ rfl
  rcases Nat.le_total count further with less | more
  · have begins := throughTypedef_mono (@firstEntries_prefix_of_le table reference _ _ less)
    rw [visited, whole] at begins
    exact begins.subset shown
  · obtain ⟨rest, goesOn⟩ := @firstEntries_prefix_of_le table reference _ _ more
    rw [← goesOn, visited, List.append_assoc, List.cons_append,
      throughTypedef_append_cons others isTypedef] at shown
    exact shown

theorem AgreesButHidden.target? (agrees : first.AgreesButHidden hidden second)
    (reference : Int) :
    Option.Rel (TypeEntry.AgreesButHidden hidden) (first.target? reference)
      (second.target? reference) := by
  simp only [TypeTable.target?, get?]
  simp only [AgreesButHidden] at agrees
  generalize first.entries = entries, second.entries = others at agrees ⊢
  split
  · exact .none
  · induction agrees with
    | nil => exact .none
    | @cons entry other _ _ same _ ih =>
        rw [List.find?_cons, List.find?_cons, same.offset_eq]
        split
        · exact .some same
        · exact ih

theorem AgreesButHidden.firstEntries (agrees : first.AgreesButHidden hidden second)
    (count : Nat) (reference : Int) :
    List.Forall₂ (TypeEntry.AgreesButHidden hidden) (first.firstEntries count reference)
      (second.firstEntries count reference) := by
  induction count generalizing reference with
  | zero => exact .nil
  | succ count ih =>
      have leads := agrees.target? reference
      simp only [TypeTable.firstEntries]
      generalize first.target? reference = entry?, second.target? reference = other? at leads ⊢
      cases leads with
      | none => exact .nil
      | some same =>
          simp only [same.outgoing_eq]
          exact .cons same (ih _)

end Chains

end TypeTable

namespace Resolution

/-! ## Walking past names -/

section Gathering

variable {hidden : Int → Prop} {progress : Progress} {entry other : TypeEntry}
  {entries others : List TypeEntry}

theorem writeName_of_insideTypedef (inside : progress.insideTypedef = true)
    (entry : TypeEntry) : progress.writeName entry = progress := by
  simp only [Progress.writeName, inside]
  rfl

theorem gather_of_insideTypedef (inside : progress.insideTypedef = true) (entry : TypeEntry) :
    gather progress entry = gather progress entry.unnamed := by
  have marked (capability : Capability) (named : TypeEntry) :
      (progress.mark capability).writeName named = progress.mark capability :=
    writeName_of_insideTypedef (by simp [inside]) named
  have unmarked (named : TypeEntry) : progress.writeName named = progress :=
    writeName_of_insideTypedef inside named
  cases tag : entry.tag with
  | structureType | unionType =>
      simp only [gather, visit, visit.aggregate, TypeEntry.unnamed, tag, marked]
  | typedef => simp only [gather, visit, TypeEntry.unnamed, tag, inside, if_true]
  | baseType => simp only [gather, visit, TypeEntry.unnamed, tag, unmarked]
  | _ => simp only [gather, visit, TypeEntry.unnamed, tag]

theorem insideTypedef_gather_of_insideTypedef (inside : progress.insideTypedef = true)
    (entry : TypeEntry) : (gather progress entry).insideTypedef = true := by
  rw [gather, insideTypedef_visit, inside, Bool.true_or]

/-- Inside a typedef the entries gather the same, whatever their names are. -/
theorem foldl_gather_of_insideTypedef
    (agree : List.Forall₂ (TypeEntry.AgreesButHidden hidden) entries others)
    (inside : progress.insideTypedef = true) :
    others.foldl gather progress = entries.foldl gather progress := by
  induction agree generalizing progress with
  | nil => rfl
  | @cons entry other _ _ same _ ih =>
      have gathered : gather progress other = gather progress entry := by
        rw [gather_of_insideTypedef inside, ← same.unnamed_eq, ← gather_of_insideTypedef inside]
      rw [List.foldl_cons, List.foldl_cons, gathered]
      exact ih (insideTypedef_gather_of_insideTypedef inside entry)

theorem foldl_gather_of_agree
    (agree : List.Forall₂ (TypeEntry.AgreesButHidden hidden) entries others)
    (shown : ∀ entry ∈ throughTypedef entries, ¬ hidden entry.offset) :
    others.foldl gather progress = entries.foldl gather progress := by
  induction agree generalizing progress with
  | nil => rfl
  | @cons entry other rest _ same agreeRest ih =>
      rw [throughTypedef] at shown
      split at shown
      case isTrue isTypedef =>
        obtain rfl := same.eq (shown entry List.mem_cons_self)
        have inside : (gather progress entry).insideTypedef = true := by
          rw [gather, insideTypedef_visit, decide_eq_true isTypedef, Bool.or_true]
        rw [List.foldl_cons, List.foldl_cons]
        exact foldl_gather_of_insideTypedef agreeRest inside
      case isFalse =>
        obtain ⟨own, later⟩ := List.forall_mem_cons.mp shown
        obtain rfl := same.eq own
        exact ih later

end Gathering

/-- In tables that differ only in the names of entries behind the first typedef on its chain,
a variable resolves to the same display name, capabilities, size and encoding, after as many
steps. -/
theorem typeName_resolve_of_agreesButHidden {first second : TypeTable} {item : Variable}
    (agrees : first.AgreesButHidden (first.IsBehindTypedef item.typeOffset) second)
    (limits : Limits) (depth : Int) :
    (resolve second limits depth item).item.typeName =
        (resolve first limits depth item).item.typeName ∧
      (resolve second limits depth item).item.capabilities =
          (resolve first limits depth item).item.capabilities ∧
        (resolve second limits depth item).item.byteSize =
            (resolve first limits depth item).item.byteSize ∧
          (resolve second limits depth item).item.encoding =
              (resolve first limits depth item).item.encoding ∧
            (resolve second limits depth item).steps = (resolve first limits depth item).steps := by
  have visited := agrees.firstEntries limits.steps.toNat item.typeOffset
  have gathered : (walkOf second limits item).progress = (walkOf first limits item).progress := by
    rw [walkOf, walkOf, progress_walk, progress_walk]
    exact foldl_gather_of_agree visited fun _ => TypeTable.not_isBehindTypedef_of_mem
  have counted : (walkOf second limits item).steps = (walkOf first limits item).steps := by
    rw [walkOf, walkOf, steps_walk, steps_walk, visited.length_eq]
  simp only [typeName_resolve, capabilities_resolve, byteSize_resolve, encoding_resolve,
    steps_resolve, gathered, counted, and_self]

/-- A pointer to a handle, which is a name for a pointer to another name of a struct that has
a name of its own. -/
def handleTable (inner struct : Option String) : TypeTable where
  entries :=
    [{ tag := .pointerType, offset := 8, typeOffset := 16, byteSize := 4 },
      { tag := .typedef, offset := 16, typeOffset := 24, name := some "handle" },
      { tag := .pointerType, offset := 24, typeOffset := 32, byteSize := 2 },
      { tag := .typedef, offset := 32, typeOffset := 40, name := inner },
      { tag := .structureType, offset := 40, byteSize := 12, name := struct }]

theorem typeName_resolve_handleTable :
    (handleTable (some "node_t") (some "node")).AgreesButHidden
        ((handleTable (some "node_t") (some "node")).IsBehindTypedef 8)
        (handleTable none (some "opaque")) ∧
      (resolve (handleTable (some "node_t") (some "node")) {} 0
          { typeOffset := 8 }).item.typeName = "handle* " ∧
        (resolve (handleTable none (some "opaque")) {} 0
          { typeOffset := 8 }).item.typeName = "handle* " := by
  have behind : ∀ offset ∈ [32, 40],
      (handleTable (some "node_t") (some "node")).IsBehindTypedef 8 offset := by
    intro offset listed
    refine ⟨5, [_], _, _, rfl, by decide, rfl, ?_, ?_⟩
    · simp only [List.mem_cons, List.not_mem_nil, or_false] at listed
      rcases listed with rfl | rfl <;> decide
    · simp only [List.mem_cons, List.not_mem_nil, or_false] at listed
      rcases listed with rfl | rfl <;> decide
  have agrees : (handleTable (some "node_t") (some "node")).AgreesButHidden
      ((handleTable (some "node_t") (some "node")).IsBehindTypedef 8)
      (handleTable none (some "opaque")) :=
    .cons ⟨rfl, fun _ => rfl⟩ <| .cons ⟨rfl, fun _ => rfl⟩ <| .cons ⟨rfl, fun _ => rfl⟩ <|
      .cons ⟨rfl, fun shown => absurd (behind 32 (by decide)) shown⟩ <|
        .cons ⟨rfl, fun shown => absurd (behind 40 (by decide)) shown⟩ .nil
  have named : (resolve (handleTable (some "node_t") (some "node")) {} 0
      { typeOffset := 8 }).item.typeName = "handle* " := by
    rw [typeName_resolve]
    decide
  have same := (@typeName_resolve_of_agreesButHidden _ _ { typeOffset := 8 } agrees {} 0).1
  exact ⟨agrees, named, same.trans named⟩

end Resolution
end DebugIndex
