import DebugIndex.Database.NameIndex

/-!
# Variables under their names

A name index finds, for every name, the first variable with the name, and goes through the
names that begin with a text in ascending order.  What it takes is that new names go into
an order in which all names ascend, and that the names from a text on can be gone through
in that order: names that begin with the same text stand together in it.  Any order of that
kind leads to the same index.
-/

namespace DebugIndex

/-! ## Texts that begin other texts -/

/-- What lies between a text and one that begins with it begins with it too. -/
theorem isPrefix_of_between {start first later : List Char} (behind : ¬ first < start)
    (before : first < later) (begins : start <+: later) : start <+: first := by
  induction start generalizing first later with
  | nil => exact List.nil_prefix
  | cons letter start ih =>
      obtain ⟨rest, rfl⟩ := begins
      cases first with
      | nil => exact absurd (List.nil_lt_cons letter start) behind
      | cons other first =>
          rw [List.cons_lt_cons_iff, not_or] at behind
          rcases List.cons_lt_cons_iff.mp before with less | ⟨rfl, less⟩
          · exact absurd less behind.1
          · have begun : start <+: first :=
              ih (fun lower => behind.2 ⟨rfl, lower⟩) less (List.prefix_append start rest)
            exact List.cons_prefix_cons.mpr ⟨rfl, begun⟩

theorem le_of_isPrefix {start name : String} (begins : start.toList <+: name.toList) :
    start ≤ name := by
  rw [← String.not_lt, String.lt_iff]
  exact List.not_lt.mpr begins.le

/-- In a list where each item is one that is looked for as soon as a later one is, these are
the first items. -/
theorem takeWhile_eq_filter {α : Type} {wanted : α → Bool} {items : List α}
    (first : items.Pairwise fun earlier later => wanted later = true → wanted earlier = true) :
    items.takeWhile wanted = items.filter wanted := by
  induction items with
  | nil => rfl
  | cons item rest ih =>
      obtain ⟨head, tail⟩ := List.pairwise_cons.mp first
      cases chosen : wanted item with
      | true => rw [List.takeWhile_cons_of_pos chosen, List.filter_cons_of_pos chosen, ih tail]
      | false =>
          have unwanted : ¬ wanted item = true := by simp [chosen]
          rw [List.takeWhile_cons_of_neg unwanted, List.filter_cons_of_neg unwanted, eq_comm,
            List.filter_eq_nil_iff]
          exact fun later listed wantedLater => unwanted (head later listed wantedLater)

/-- In a list where the items that are passed over come first, the others are what is left
without these. -/
theorem dropWhile_eq_filter {α : Type} {passed : α → Bool} {items : List α}
    (first : items.Pairwise fun earlier later => passed later = true → passed earlier = true) :
    items.dropWhile passed = items.filter fun item => !passed item := by
  induction items with
  | nil => rfl
  | cons item rest ih =>
      obtain ⟨head, tail⟩ := List.pairwise_cons.mp first
      cases before : passed item with
      | true =>
          rw [List.dropWhile_cons_of_pos before, List.filter_cons_of_neg (by simp [before]),
            ih tail]
      | false =>
          have left : ∀ later ∈ item :: rest, (!passed later) = true := by
            intro later listed
            rcases List.mem_cons.mp listed with rfl | behind
            · simp [before]
            · cases passedLater : passed later with
              | true => simp [head later behind passedLater] at before
              | false => rfl
          rw [List.dropWhile_cons_of_neg (by simp [before]), List.filter_eq_self.mpr left]

/-! ## Entries in ascending order -/

def Ascending (entries : List (String × Variable)) : Prop :=
  entries.Pairwise fun earlier later => earlier.1 < later.1

namespace Ascending

variable {entries : List (String × Variable)}

theorem names (ascending : Ascending entries) : (entries.map Prod.fst).Pairwise (· < ·) :=
  List.pairwise_map.mpr ascending

theorem nodup (ascending : Ascending entries) : entries.Nodup := by
  refine List.Pairwise.imp ?_ ascending
  rintro entry _ less rfl
  exact String.lt_irrefl entry.1 less

theorem lookup_eq_some_iff (ascending : Ascending entries) {name : String} {item : Variable} :
    entries.lookup name = some item ↔ (name, item) ∈ entries := by
  induction entries with
  | nil => simp
  | cons first rest ih =>
      obtain ⟨known, kept⟩ := first
      obtain ⟨least, restAscending⟩ := List.pairwise_cons.mp ascending
      rw [List.lookup_cons, List.mem_cons]
      by_cases same : name = known
      · subst same
        have once : (name, item) ∉ rest := fun listed => String.lt_irrefl name (least _ listed)
        simp [once, eq_comm]
      · have passed : (name == known) = false := beq_eq_false_iff_ne.mpr same
        simp [passed, same, ih restAscending]

theorem isSome_lookup_iff (ascending : Ascending entries) {name : String} :
    (entries.lookup name).isSome = true ↔ name ∈ entries.map Prod.fst := by
  simp [Option.isSome_iff_exists, ascending.lookup_eq_some_iff]

theorem eq_of_lookup {others : List (String × Variable)} (ascending : Ascending entries)
    (othersAscending : Ascending others)
    (alike : ∀ name, entries.lookup name = others.lookup name) : entries = others := by
  have sameEntries : entries.Perm others := by
    rw [List.perm_ext_iff_of_nodup ascending.nodup othersAscending.nodup]
    rintro ⟨name, item⟩
    rw [← ascending.lookup_eq_some_iff, ← othersAscending.lookup_eq_some_iff, alike]
  exact sameEntries.eq_of_pairwise
    (fun _ _ _ _ less more => absurd less (String.lt_asymm more)) ascending othersAscending

end Ascending

namespace NameOrder

/-- What is asked of an order of names: a variable under a new name is kept once and in
order, and the names from a text on are those that are not before it, in order. -/
structure Lawful (order : NameOrder) : Prop where
  perm : ∀ name item entries, Ascending entries → (∀ entry ∈ entries, entry.1 ≠ name) →
    (order.insert name item entries).Perm ((name, item) :: entries)
  ascending : ∀ name item entries, Ascending entries → (∀ entry ∈ entries, entry.1 ≠ name) →
    Ascending (order.insert name item entries)
  namesFrom_eq : ∀ start entries, Ascending entries →
    order.namesFrom start entries = (entries.map Prod.fst).filter (start ≤ ·)

theorem insertInto_perm (name : String) (item : Variable) (entries : List (String × Variable)) :
    (insertInto name item entries).Perm ((name, item) :: entries) := by
  induction entries with
  | nil => exact List.Perm.refl _
  | cons first rest ih =>
      simp only [insertInto]
      split
      · exact List.Perm.refl _
      · exact (ih.cons first).trans (List.Perm.swap _ _ rest)

theorem ascending_insertInto {name : String} (item : Variable)
    {entries : List (String × Variable)} (ascending : Ascending entries)
    (fresh : ∀ entry ∈ entries, entry.1 ≠ name) : Ascending (insertInto name item entries) := by
  induction entries with
  | nil => exact List.pairwise_singleton _ _
  | cons first rest ih =>
      obtain ⟨firstFresh, restFresh⟩ := List.forall_mem_cons.mp fresh
      obtain ⟨least, restAscending⟩ := List.pairwise_cons.mp ascending
      simp only [insertInto]
      split
      case isTrue before =>
        refine List.pairwise_cons.mpr ⟨fun later listed => ?_, ascending⟩
        rcases List.mem_cons.mp listed with rfl | behind
        · exact before
        · exact String.lt_trans before (least later behind)
      case isFalse notBefore =>
        refine List.pairwise_cons.mpr ⟨fun later listed => ?_, ih restAscending restFresh⟩
        rcases List.mem_cons.mp ((insertInto_perm name item rest).mem_iff.mp listed) with
          rfl | behind
        · refine Decidable.byContradiction fun notBehind => firstFresh ?_
          exact String.le_antisymm (String.not_lt.mp notBefore) (String.not_lt.mp notBehind)
        · exact least later behind

theorem lawful_listed : listed.Lawful where
  perm name item entries _ _ := insertInto_perm name item entries
  ascending _ item _ ascending fresh := ascending_insertInto item ascending fresh
  namesFrom_eq start entries ascending := by
    have first : (entries.map Prod.fst).Pairwise fun earlier later =>
        decide (later < start) = true → decide (earlier < start) = true := by
      refine ascending.names.imp fun less later => ?_
      rw [decide_eq_true_eq] at later ⊢
      exact String.lt_trans less later
    simp only [listed, dropWhile_eq_filter first, ← decide_not, String.not_lt]

end NameOrder

/-! ## The index -/

namespace NameIndex

/-- An index that holds the first variable to every name that some have. -/
structure Indexes (index : NameIndex) (items : List Variable) : Prop where
  ascending : Ascending index.entries
  get?_eq : ∀ name, index.get? name = items.find? fun item => item.name = some name

namespace Indexes

variable {order : NameOrder} {index : NameIndex} {items : List Variable}

theorem nil : Indexes {} [] where
  ascending := List.Pairwise.nil
  get?_eq _ := rfl

theorem concat_unnamed (indexes : index.Indexes items) {item : Variable}
    (unnamed : item.name = none) : index.Indexes (items ++ [item]) where
  ascending := indexes.ascending
  get?_eq name := by simp [indexes.get?_eq, List.find?_append, unnamed]

/-- A name that is known stays with the first that has it. -/
theorem concat_known (indexes : index.Indexes items) {item : Variable} {own : String}
    (named : item.name = some own) (known : (index.get? own).isSome = true) :
    index.Indexes (items ++ [item]) where
  ascending := indexes.ascending
  get?_eq name := by
    rw [List.find?_append, ← indexes.get?_eq]
    by_cases same : own = name
    · subst same
      rw [Option.or_of_isSome known]
    · simp [named, same]

theorem concat_new (lawful : order.Lawful) (indexes : index.Indexes items) {item : Variable}
    {own : String} (named : item.name = some own) (unknown : index.get? own = none) :
    Indexes ⟨order.insert own item index.entries⟩ (items ++ [item]) := by
  have fresh : ∀ entry ∈ index.entries, entry.1 ≠ own := by
    rintro entry listed rfl
    have known : (index.get? entry.1).isSome = true :=
      indexes.ascending.isSome_lookup_iff.mpr (List.mem_map_of_mem listed)
    simp [unknown] at known
  have ascending := lawful.ascending own item _ indexes.ascending fresh
  have found (name : String) (kept : Variable) :
      (order.insert own item index.entries).lookup name = some kept ↔
        (name = own ∧ kept = item) ∨ index.get? name = some kept := by
    rw [ascending.lookup_eq_some_iff,
      (lawful.perm own item _ indexes.ascending fresh).mem_iff, List.mem_cons,
      Prod.mk.injEq, ← indexes.ascending.lookup_eq_some_iff]
    rfl
  refine ⟨ascending, fun name => ?_⟩
  ext kept
  rw [get?, found, List.find?_append, ← indexes.get?_eq]
  by_cases same : name = own
  · subst same
    simp [unknown, named, eq_comm]
  · simp [same, named, Ne.symm same]

theorem concat (lawful : order.Lawful) (indexes : index.Indexes items) (item : Variable) :
    (index.addWith order item).Indexes (items ++ [item]) := by
  cases named : item.name with
  | none => simpa only [addWith, named] using indexes.concat_unnamed named
  | some own =>
      simp only [addWith, named]
      split
      case isTrue known => exact indexes.concat_known named known
      case isFalse unknown =>
        exact indexes.concat_new lawful named (by simpa using unknown)

theorem foldl_addWith (lawful : order.Lawful) (indexes : index.Indexes items)
    (added : List Variable) :
    (added.foldl (addWith order) index).Indexes (items ++ added) := by
  induction added generalizing index items with
  | nil => simpa using indexes
  | cons item added ih => simpa using ih (indexes.concat lawful item)

theorem unique {other : NameIndex} (indexes : index.Indexes items)
    (otherIndexes : other.Indexes items) : index = other := by
  have sameEntries : index.entries = other.entries :=
    indexes.ascending.eq_of_lookup otherIndexes.ascending fun name =>
      (indexes.get?_eq name).trans (otherIndexes.get?_eq name).symm
  cases index
  cases other
  exact congrArg NameIndex.mk sameEntries

theorem mem_names_iff (indexes : index.Indexes items) {name : String} :
    name ∈ index.entries.map Prod.fst ↔ ∃ item ∈ items, item.name = some name := by
  rw [← indexes.ascending.isSome_lookup_iff]
  have found : index.entries.lookup name = _ := indexes.get?_eq name
  simp [found]

theorem namesFromWith_eq (lawful : order.Lawful) (indexes : index.Indexes items)
    (start : String) :
    index.namesFromWith order start =
      (index.entries.map Prod.fst).filter fun name => start.toList.isPrefixOf name.toList := by
  let begins : String → Bool := fun name => start.toList.isPrefixOf name.toList
  -- the names from the text on ascend, so those that begin with it stand at their front
  have first : ((index.entries.map Prod.fst).filter (start ≤ ·)).Pairwise
      fun earlier later => begins later = true → begins earlier = true := by
    refine List.pairwise_filter.mpr (indexes.ascending.names.imp ?_)
    intro earlier later less behind _ laterBegins
    rw [decide_eq_true_eq, ← String.not_lt, String.lt_iff] at behind
    rw [String.lt_iff] at less
    simp only [begins, List.isPrefixOf_iff_prefix] at laterBegins ⊢
    exact isPrefix_of_between behind less laterBegins
  calc index.namesFromWith order start
      = ((index.entries.map Prod.fst).filter (start ≤ ·)).takeWhile begins := by
        rw [namesFromWith, lawful.namesFrom_eq start _ indexes.ascending]
    _ = ((index.entries.map Prod.fst).filter (start ≤ ·)).filter begins :=
        takeWhile_eq_filter first
    _ = (index.entries.map Prod.fst).filter begins := by
        rw [List.filter_filter]
        apply List.filter_congr
        intro name _
        have behind : begins name = true → start ≤ name := fun begun =>
          le_of_isPrefix (List.isPrefixOf_iff_prefix.mp begun)
        cases begun : begins name with
        | false => rfl
        | true => simp [behind begun]

end Indexes

theorem indexes_ofListWith {order : NameOrder} (lawful : order.Lawful) (items : List Variable) :
    (ofListWith order items).Indexes items := by
  rw [ofListWith]
  simpa using Indexes.nil.foldl_addWith lawful items

end NameIndex
end DebugIndex
