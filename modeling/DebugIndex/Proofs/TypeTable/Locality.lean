import DebugIndex.Proofs.TypeTable.MemberTree

/-!
# What resolution depends on

To resolve a variable only those offsets of a type table are looked at that its reference
reaches: along the references between entries, and from an aggregate along those of its
members.  Tables that agree there resolve the variable in the same way, down to the last
member.  A reference that leads out of the table reaches its offset as well, for an entry
could come to stand there.

Of several entries at an offset the first is meant.  So a further entry goes unnoticed at an
offset that is taken already, and also at one that the reference of a variable does not
reach.
-/

namespace DebugIndex
namespace TypeTable

/-! ## The first entry at an offset -/

section Adding

variable {table : TypeTable} {entry : TypeEntry} {offset : Int}

theorem entries_foldl_add (table : TypeTable) (added : List TypeEntry) :
    (added.foldl add table).entries = table.entries ++ added := by
  induction added generalizing table with
  | nil => rw [List.foldl_nil, List.append_nil]
  | cons entry rest ih =>
      rw [List.foldl_cons, ih, add, List.append_assoc, List.singleton_append]

/-- An entry is meant by its offset exactly if no entry before it has the same one. -/
theorem get?_eq_some_iff :
    table.get? offset = some entry ↔
      ∃ earlier later, table.entries = earlier ++ entry :: later ∧ entry.offset = offset ∧
        ∀ other ∈ earlier, other.offset ≠ offset := by
  simp only [get?, List.find?_eq_some_iff_append, decide_eq_true_eq, Bool.not_eq_true',
    decide_eq_false_iff_not]
  constructor
  · rintro ⟨atOffset, earlier, later, split, others⟩
    exact ⟨earlier, later, split, atOffset, others⟩
  · rintro ⟨earlier, later, split, atOffset, others⟩
    exact ⟨atOffset, earlier, later, split, others⟩

theorem get?_add (table : TypeTable) (entry : TypeEntry) (offset : Int) :
    (table.add entry).get? offset =
      (table.get? offset).or (if entry.offset = offset then some entry else none) := by
  simp only [get?, add, List.find?_append, List.find?_singleton, decide_eq_true_eq]

theorem get?_add_of_isSome (taken : (table.get? offset).isSome = true) :
    (table.add entry).get? offset = table.get? offset := by
  rw [get?_add, Option.or_of_isSome taken]

theorem get?_add_of_ne (elsewhere : entry.offset ≠ offset) :
    (table.add entry).get? offset = table.get? offset := by
  rw [get?_add, if_neg elsewhere, Option.or_none]

end Adding

/-! ## Reached offsets -/

/-- An offset that a reference reaches: its own, and what is reached from the entry there,
along the reference of that entry or along those of its members.  Zero is no reference. -/
inductive Reaches (table : TypeTable) : (reference offset : Int) → Prop
  | own {reference : Int} : reference ≠ 0 → table.Reaches reference reference
  | outgoing {reference offset : Int} {entry : TypeEntry} :
      table.target? reference = some entry → table.Reaches entry.outgoing offset →
        table.Reaches reference offset
  | member {reference offset : Int} {entry : TypeEntry} {member : Member} :
      table.target? reference = some entry → member ∈ entry.members →
        table.Reaches member.typeOffset offset → table.Reaches reference offset

theorem Reaches.of_isChain {table : TypeTable} {reference offset : Int}
    {earlier : List TypeEntry} {last : TypeEntry} {member : Member}
    (chain : table.IsChain reference (earlier ++ [last])) (listed : member ∈ last.members)
    (onward : table.Reaches member.typeOffset offset) : table.Reaches reference offset := by
  induction earlier generalizing reference with
  | nil => exact .member chain.1 listed onward
  | cons entry rest ih => exact .outgoing chain.1 (ih chain.2)

/-- Offsets that no reference among them leads out of are all that is reached from one of
them. -/
theorem Reaches.mem_of_closed {table : TypeTable} {offsets : List Int}
    (closed : ∀ reference ∈ offsets, ∀ entry, table.target? reference = some entry →
      ∀ next ∈ entry.outgoing :: entry.members.map Member.typeOffset,
        next ≠ 0 → next ∈ offsets)
    {reference offset : Int} (reaches : table.Reaches reference offset)
    (begins : reference ≠ 0 → reference ∈ offsets) : offset ∈ offsets := by
  induction reaches with
  | own leads => exact begins leads
  | @outgoing reference _ entry found _ ih =>
      have leads : reference ≠ 0 := by
        rintro rfl
        cases found
      exact ih (closed reference (begins leads) entry found _ List.mem_cons_self)
  | @member reference _ entry member found listed _ ih =>
      have leads : reference ≠ 0 := by
        rintro rfl
        cases found
      exact ih (closed reference (begins leads) entry found _
        (List.mem_cons_of_mem _ (List.mem_map_of_mem listed)))

/-- Tables that have the same entries at all offsets that a reference reaches. -/
def AgreesFrom (first second : TypeTable) (reference : Int) : Prop :=
  ∀ offset, first.Reaches reference offset → second.target? offset = first.target? offset

namespace AgreesFrom

variable {first second : TypeTable} {reference : Int} {entry : TypeEntry}

theorem target? (agrees : first.AgreesFrom second reference) :
    second.target? reference = first.target? reference := by
  by_cases leads : reference = 0
  · rw [leads, target?_zero, target?_zero]
  · exact agrees reference (.own leads)

theorem outgoing (agrees : first.AgreesFrom second reference)
    (found : first.target? reference = some entry) :
    first.AgreesFrom second entry.outgoing :=
  fun offset reaches => agrees offset (.outgoing found reaches)

end AgreesFrom

/-- A further entry that is not seen from a reference leaves everything as it is there. -/
theorem agreesFrom_add {table : TypeTable} {entry : TypeEntry} {reference : Int}
    (unseen : (table.get? entry.offset).isSome = true ∨
      ¬ table.Reaches reference entry.offset) :
    table.AgreesFrom (table.add entry) reference := by
  intro offset reaches
  rw [target?, target?]
  by_cases same : entry.offset = offset
  · rw [← same] at reaches ⊢
    rcases unseen with taken | unreached
    · rw [get?_add_of_isSome taken]
    · exact absurd reaches unreached
  · rw [get?_add_of_ne same]

end TypeTable

namespace Resolution

/-! ## Resolving in tables that agree -/

section Agreeing

variable {first second : TypeTable} {limits : Limits} {depth : Int} {item : Variable}

theorem walk_of_agreesFrom (remaining : Nat) {reference : Int}
    (agrees : first.AgreesFrom second reference) (progress : Progress) :
    walk second remaining reference progress = walk first remaining reference progress := by
  induction remaining generalizing reference progress with
  | zero => rw [walk_zero, walk_zero, agrees.target?]
  | succ remaining ih =>
      cases found : first.target? reference with
      | none => rw [walk_of_none found, walk_of_none (agrees.target?.trans found)]
      | some entry =>
          rw [walk_of_some found, walk_of_some (agrees.target?.trans found),
            ih (agrees.outgoing found)]

theorem walkOf_of_agreesFrom (agrees : first.AgreesFrom second item.typeOffset) :
    walkOf second limits item = walkOf first limits item :=
  walk_of_agreesFrom _ agrees _

theorem agreesFrom_of_expanded? (agrees : first.AgreesFrom second item.typeOffset)
    {aggregate : TypeEntry} (expands : expanded? first limits depth item = some aggregate)
    {member : Member} (listed : member ∈ aggregate.members) :
    first.AgreesFrom second (memberVariable item member).typeOffset := by
  obtain ⟨ends, -⟩ := expanded?_eq_some_iff.mp expands
  obtain ⟨earlier, chain, -⟩ := ending_walk_eq_aggregate_iff.mp ends
  exact fun offset reaches => agrees offset (.of_isChain chain listed reaches)

/-- What a variable resolves to depends on the offsets alone that its reference reaches. -/
theorem resolve_of_agreesFrom (limits : Limits) (depth : Int)
    (agrees : first.AgreesFrom second item.typeOffset) :
    resolve second limits depth item = resolve first limits depth item := by
  -- members are expanded on fewer and fewer levels
  induction left : (limits.depth - depth).toNat using Nat.strongRecOn
    generalizing depth item with
  | _ levels ih =>
      have walked : walkOf second limits item = walkOf first limits item :=
        walkOf_of_agreesFrom agrees
      have expansion : expanded? second limits depth item = expanded? first limits depth item := by
        rw [expanded?, walked, expanded?]
      have members : memberResolutions second limits depth item =
          memberResolutions first limits depth item := by
        rw [memberResolutions, memberResolutions, expansion]
        cases expands : expanded? first limits depth item with
        | none => rfl
        | some aggregate =>
            have shallow : depth < limits.depth := (expanded?_eq_some_iff.mp expands).2.2.1
            have fewer : (limits.depth - (depth + 1)).toNat < levels := by omega
            apply List.map_congr_left
            intro member listed
            exact ih _ fewer (depth + 1) (agreesFrom_of_expanded? agrees expands listed) rfl
      have noticed : ownNotices second limits depth item = ownNotices first limits depth item := by
        rw [ownNotices, walked, ownNotices]
      rw [resolve_eq, resolve_eq, walked, members, noticed]

end Agreeing

/-- A table that entries are added to keeps all of them in their order, and has at an offset
the first one that was added with it.  An entry that is added at an offset that is taken, or
that the reference of a variable does not reach, changes nothing in how the variable is
resolved at any depth: neither the variable with its whole member tree, nor the count of
steps, nor what is noticed. -/
theorem resolve_add :
    (∀ added : List TypeEntry,
      (added.foldl TypeTable.add {}).entries = added ∧
        (added.foldl TypeTable.add {}).size = added.length ∧
          ∀ offset found, (added.foldl TypeTable.add {}).get? offset = some found ↔
            ∃ earlier later, added = earlier ++ found :: later ∧ found.offset = offset ∧
              ∀ other ∈ earlier, other.offset ≠ offset) ∧
      ∀ (table : TypeTable) (entry : TypeEntry) (item : Variable),
        (table.get? entry.offset).isSome = true ∨
            ¬ table.Reaches item.typeOffset entry.offset →
          ∀ limits depth, resolve (table.add entry) limits depth item =
            resolve table limits depth item := by
  refine ⟨?_, ?_⟩
  · intro added
    have kept : (added.foldl TypeTable.add {}).entries = added :=
      (TypeTable.entries_foldl_add {} added).trans (List.nil_append added)
    refine ⟨kept, by rw [TypeTable.size, kept], ?_⟩
    intro offset found
    rw [TypeTable.get?_eq_some_iff, kept]
  · intro table entry item unseen limits depth
    exact resolve_of_agreesFrom limits depth (TypeTable.agreesFrom_add unseen)

/-- In the table of the struct that contains itself the reference of the struct reaches the
three entries and nothing else. -/
theorem not_reaches_of_notMem {offset : Int} (elsewhere : offset ∉ [8, 16, 24]) :
    ¬ nodeTable.Reaches nodeHead.typeOffset offset := by
  intro reaches
  refine elsewhere (reaches.mem_of_closed ?_ (by decide))
  intro reference listed entry found
  simp only [List.mem_cons, List.not_mem_nil, or_false] at listed
  rcases listed with rfl | rfl | rfl <;> obtain rfl := Option.some.inj found <;> decide

/-- A second struct at the offset of the first, and a base type at an offset of its own,
leave a variable of the first struct as it is. -/
theorem resolve_add_nodeTable :
    (nodeTable.get? 8).isSome = true ∧ ¬ nodeTable.Reaches nodeHead.typeOffset 40 ∧
      ([nodeEntry, { nodeEntry with members := [] }].foldl TypeTable.add {}).get? 8 =
          some nodeEntry ∧
        resolve (nodeTable.add { nodeEntry with members := [] }) {} 0 nodeHead =
            resolve nodeTable {} 0 nodeHead ∧
          resolve (nodeTable.add { tag := .baseType, offset := 40 }) {} 0 nodeHead =
            resolve nodeTable {} 0 nodeHead := by
  have taken : (nodeTable.get? 8).isSome = true := rfl
  have unreached : ¬ nodeTable.Reaches nodeHead.typeOffset 40 := not_reaches_of_notMem (by decide)
  obtain ⟨-, -, meant⟩ := resolve_add.1 [nodeEntry, { nodeEntry with members := [] }]
  refine ⟨taken, unreached, (meant 8 nodeEntry).mpr ?_, ?_, ?_⟩
  · exact ⟨[], [{ nodeEntry with members := [] }], rfl, rfl, List.forall_mem_nil _⟩
  · exact resolve_add.2 nodeTable { nodeEntry with members := [] } nodeHead (.inl taken) {} 0
  · exact resolve_add.2 nodeTable { tag := .baseType, offset := 40 } nodeHead (.inr unreached) {} 0

end Resolution
end DebugIndex
