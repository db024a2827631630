import DebugIndex.Proofs.CompilationUnit.Slices
import DebugIndex.Proofs.Database.AddressSearch
import DebugIndex.Proofs.Database.Arguments
import DebugIndex.Proofs.Database.Ingestion

/-!
# Disjoint ranges

Where no two units have an address in common, nor two functions of a unit, and each
function lies within its unit, an address in a function leads to that function and to its
unit.  The first that is found is then the only one there is, so neither the order of the
units matters nor the order in which functions were added to them.
-/

namespace DebugIndex

/-- Of two half-open ranges that have addresses, one ends before the other begins. -/
def IsApart (low high otherLow otherHigh : Int) : Prop :=
  low < high → otherLow < otherHigh → high ≤ otherLow ∨ otherHigh ≤ low

instance (low high otherLow otherHigh : Int) : Decidable (IsApart low high otherLow otherHigh) :=
  inferInstanceAs (Decidable (_ → _ → _ ∨ _))

theorem isApart_iff {low high otherLow otherHigh : Int} :
    IsApart low high otherLow otherHigh ↔
      ∀ address, ¬ ((low ≤ address ∧ address < high) ∧
        otherLow ≤ address ∧ address < otherHigh) := by
  constructor
  · rintro apart address ⟨⟨first, last⟩, otherFirst, otherLast⟩
    rcases apart (by omega) (by omega) with before | behind <;> omega
  · intro none_shared filled otherFilled
    have greater := none_shared (max low otherLow)
    omega

theorem IsApart.symm {low high otherLow otherHigh : Int}
    (apart : IsApart low high otherLow otherHigh) : IsApart otherLow otherHigh low high :=
  fun otherFilled filled => (apart filled otherFilled).symm

/-! ## Items that are found alone -/

section Unique

variable {α : Type} {items others : List α} {wanted : α → Bool}

/-- Where no two items are wanted, one that is wanted is found at its place. -/
theorem findIdx?_eq_of_apart
    (apart : items.Pairwise fun first second => ¬ (wanted first = true ∧ wanted second = true))
    {index : Nat} {item : α} (listed : items[index]? = some item) (fits : wanted item = true) :
    items.findIdx? wanted = some index := by
  obtain ⟨inside, rfl⟩ := List.getElem?_eq_some_iff.mp listed
  rw [List.findIdx?_eq_some_iff_getElem]
  refine ⟨inside, fits, fun earlier before earlierFits => ?_⟩
  exact List.pairwise_iff_getElem.mp apart earlier index _ inside before ⟨earlierFits, fits⟩

theorem find?_eq_of_apart
    (apart : items.Pairwise fun first second => ¬ (wanted first = true ∧ wanted second = true))
    {item : α} (listed : item ∈ items) (fits : wanted item = true) :
    items.find? wanted = some item := by
  obtain ⟨index, placed⟩ := List.mem_iff_getElem?.mp listed
  rw [List.find?_eq_bind_findIdx?_getElem?, findIdx?_eq_of_apart apart placed fits]
  exact placed

theorem find?_eq_of_perm
    (apart : items.Pairwise fun first second => ¬ (wanted first = true ∧ wanted second = true))
    (same : others.Perm items) : others.find? wanted = items.find? wanted := by
  have othersApart : others.Pairwise fun first second =>
      ¬ (wanted first = true ∧ wanted second = true) :=
    (same.pairwise_iff fun apart both => apart both.symm).mpr apart
  cases found : items.find? wanted with
  | none =>
      rw [List.find?_eq_none] at found ⊢
      exact fun item listed => found item (same.mem_iff.mp listed)
  | some item =>
      have listed := same.mem_iff.mpr (List.mem_of_find?_eq_some found)
      exact find?_eq_of_apart othersApart listed (List.find?_some found)

end Unique

/-! ## Units -/

namespace CompilationUnit

/-- The functions of a unit share no address and lie within the unit, as far as they have
code. -/
structure IsPartitioned (unit : CompilationUnit) : Prop where
  apart : unit.subprograms.Pairwise fun first second =>
    IsApart first.low first.high second.low second.high
  within : ∀ subprogram ∈ unit.subprograms, subprogram.hasCode = true →
    unit.low ≤ subprogram.low ∧ subprogram.high ≤ unit.high

instance (unit : CompilationUnit) : Decidable unit.IsPartitioned :=
  decidable_of_iff
    ((unit.subprograms.Pairwise fun first second =>
        IsApart first.low first.high second.low second.high) ∧
      ∀ subprogram ∈ unit.subprograms, subprogram.hasCode = true →
        unit.low ≤ subprogram.low ∧ subprogram.high ≤ unit.high)
    ⟨fun both => ⟨both.1, both.2⟩, fun partitioned => ⟨partitioned.apart, partitioned.within⟩⟩

namespace IsPartitioned

variable {unit : CompilationUnit} {address : Int}

theorem not_contains_both (partitioned : unit.IsPartitioned) (address : Int) :
    unit.subprograms.Pairwise fun first second =>
      ¬ (first.contains address = true ∧ second.contains address = true) := by
  refine partitioned.apart.imp fun {first second} apart => ?_
  simpa only [Subprogram.contains, Bool.and_eq_true, decide_eq_true_eq] using
    isApart_iff.mp apart address

theorem contains_of_contains (partitioned : unit.IsPartitioned) {subprogram : Subprogram}
    (listed : subprogram ∈ unit.subprograms) (inside : subprogram.contains address = true) :
    unit.contains address = true := by
  have bounds := partitioned.within subprogram listed (hasCode_of_contains inside)
  simp only [Subprogram.contains, contains, Bool.and_eq_true, decide_eq_true_eq] at inside ⊢
  omega

end IsPartitioned
end CompilationUnit

namespace Database

open CompilationUnit

/-- Units that share no address, each with functions that share none. -/
structure IsDisjoint (database : Database) : Prop where
  apart : database.units.Pairwise fun first second =>
    IsApart first.low first.high second.low second.high
  partitioned : ∀ unit ∈ database.units, unit.IsPartitioned

instance (database : Database) : Decidable database.IsDisjoint :=
  decidable_of_iff
    ((database.units.Pairwise fun first second =>
        IsApart first.low first.high second.low second.high) ∧
      ∀ unit ∈ database.units, unit.IsPartitioned)
    ⟨fun both => ⟨both.1, both.2⟩, fun disjoint => ⟨disjoint.apart, disjoint.partitioned⟩⟩

/-- An address in a function leads to the function and its unit, to the name of the function
and to its variables, and an address in no function leads to none. -/
structure Locates (database : Database) (address : Int) : Prop where
  inside : ∀ {index position : Nat} {unit : CompilationUnit} {subprogram : Subprogram},
    database.units[index]? = some unit → unit.subprograms[position]? = some subprogram →
      subprogram.contains address = true →
        database.unitIndexAt? address = some index ∧
          database.unitAt? address = some unit ∧
          database.subprogramIndexAt? address = some (index, position) ∧
          database.subprogramAt? address = some subprogram ∧
          database.functionName? address = subprogram.name ∧
          (address ≠ 0 → database.variablesFor (.int address) = .ok subprogram.locals)
  outside : (∀ unit ∈ database.units, ∀ subprogram ∈ unit.subprograms,
    subprogram.contains address = false) → database.subprogramAt? address = none

theorem IsDisjoint.not_contains_both {database : Database} (disjoint : database.IsDisjoint)
    (address : Int) :
    database.units.Pairwise fun first second =>
      ¬ (first.contains address = true ∧ second.contains address = true) := by
  refine disjoint.apart.imp fun {first second} apart => ?_
  simpa only [contains, Bool.and_eq_true, decide_eq_true_eq] using isApart_iff.mp apart address

section Indexed

variable {database : Database} (indexed : ∀ unit ∈ database.units, unit.Indexed)
include indexed

theorem subprogramAt?_eq_bind_find? (address : Int) :
    database.subprogramAt? address =
      (database.unitAt? address).bind fun unit =>
        unit.subprograms.find? fun subprogram => subprogram.contains address := by
  rw [subprogramAt?]
  cases found : database.unitAt? address with
  | none => rfl
  | some unit =>
      have listed : unit ∈ database.units := List.mem_of_find?_eq_some found
      exact (indexed unit listed).subprogramAt?_eq address

theorem IsDisjoint.locates (disjoint : database.IsDisjoint) (address : Int) :
    database.Locates address where
  inside {index position unit subprogram} placed held within := by
    have listed := List.mem_of_getElem? placed
    have partitioned := disjoint.partitioned unit listed
    have apart := disjoint.not_contains_both address
    have unitContains := partitioned.contains_of_contains (List.mem_of_getElem? held) within
    have unitIndex : database.unitIndexAt? address = some index :=
      findIdx?_eq_of_apart apart placed unitContains
    have unitFound : database.unitAt? address = some unit :=
      find?_eq_of_apart apart listed unitContains
    have positionFound : unit.positionAt? address = some position := by
      rw [(indexed unit listed).positionAt?_eq]
      exact findIdx?_eq_of_apart (partitioned.not_contains_both address) held within
    have found : database.subprogramAt? address = some subprogram := by
      rw [Database.subprogramAt?, unitFound, Option.bind_some, CompilationUnit.subprogramAt?,
        positionFound]
      exact held
    refine ⟨unitIndex, unitFound, ?_, found, ?_, fun notZero => ?_⟩
    · rw [subprogramIndexAt?, unitIndex, Option.bind_some, placed, Option.bind_some,
        positionFound]
      rfl
    · rw [functionName?, found]
      rfl
    · rw [variablesFor_int, variablesIn, if_neg notZero, found]
      rfl
  outside nowhere := by
    rw [subprogramAt?_eq_bind_find? indexed]
    cases found : database.unitAt? address with
    | none => rfl
    | some unit =>
        have listed : unit ∈ database.units := List.mem_of_find?_eq_some found
        rw [Option.bind_some, List.find?_eq_none]
        exact fun subprogram held => by simp [nowhere unit listed subprogram held]

end Indexed

end Database

/-! ## Other orders -/

section Orders

variable {keep : CodeRange → List CodeRange → List CodeRange}

namespace CompilationUnit

theorem bounds_foldl_addSubprogramWith (added : List Subprogram) (unit : CompilationUnit) :
    (added.foldl (addSubprogramWith keep) unit).low = unit.low ∧
      (added.foldl (addSubprogramWith keep) unit).high = unit.high := by
  induction added generalizing unit with
  | nil => exact ⟨rfl, rfl⟩
  | cons subprogram added ih => exact ih (unit.addSubprogramWith keep subprogram)

theorem bounds_filledWith (keep : CodeRange → List CodeRange → List CodeRange)
    (unit : CompilationUnit) (subprograms : List Subprogram) :
    (unit.filledWith keep subprograms).low = unit.low ∧
      (unit.filledWith keep subprograms).high = unit.high :=
  bounds_foldl_addSubprogramWith subprograms unit.withoutFunctions

/-- Functions that are added in another order still lie apart and within their unit. -/
theorem IsPartitioned.filledWith {unit : CompilationUnit} (partitioned : unit.IsPartitioned)
    (keeps : CodeRange.KeepsSorted keep) {subprograms : List Subprogram}
    (same : subprograms.Perm unit.subprograms) :
    (unit.filledWith keep subprograms).IsPartitioned where
  apart := by
    rw [subprograms_filledWith keeps]
    exact (same.pairwise_iff IsApart.symm).mpr partitioned.apart
  within := by
    obtain ⟨sameLow, sameHigh⟩ := bounds_filledWith keep unit subprograms
    rw [subprograms_filledWith keeps, sameLow, sameHigh]
    exact fun subprogram listed => partitioned.within subprogram (same.mem_iff.mp listed)

end CompilationUnit

namespace Database

open CompilationUnit

/-- Units in some order, each with its functions in the order in which these are added to
it. -/
def AreOrdersOf (runs : List (CompilationUnit × List Subprogram)) (units : List CompilationUnit) :
    Prop :=
  (runs.map Prod.fst).Perm units ∧ ∀ run ∈ runs, run.2.Perm run.1.subprograms

/-- The database of units in some order, to which their functions are added in some order. -/
def ofOrders (keep : CodeRange → List CodeRange → List CodeRange)
    (runs : List (CompilationUnit × List Subprogram)) : Database :=
  ofUnits (runs.map fun run => run.1.filledWith keep run.2)

variable {database : Database} {runs : List (CompilationUnit × List Subprogram)}

theorem indexed_of_mem_ofOrders (keeps : CodeRange.KeepsSorted keep)
    (runs : List (CompilationUnit × List Subprogram)) :
    ∀ unit ∈ (ofOrders keep runs).units, unit.Indexed := by
  intro unit listed
  obtain ⟨run, -, rfl⟩ := List.mem_map.mp listed
  exact indexed_filledWith keeps run.1 run.2

theorem IsDisjoint.ofOrders (disjoint : database.IsDisjoint)
    (keeps : CodeRange.KeepsSorted keep) (orders : AreOrdersOf runs database.units) :
    (ofOrders keep runs).IsDisjoint where
  apart := by
    have runsApart := (orders.1.pairwise_iff fun apart => IsApart.symm apart).mpr disjoint.apart
    refine List.pairwise_map.mpr
      ((List.pairwise_map.mp runsApart).imp fun {first second} apart => ?_)
    obtain ⟨firstLow, firstHigh⟩ := bounds_filledWith keep first.1 first.2
    obtain ⟨secondLow, secondHigh⟩ := bounds_filledWith keep second.1 second.2
    rwa [firstLow, firstHigh, secondLow, secondHigh]
  partitioned := by
    intro unit listed
    obtain ⟨run, member, rfl⟩ := List.mem_map.mp listed
    have known : run.1 ∈ database.units := orders.1.mem_iff.mp (List.mem_map_of_mem member)
    exact (disjoint.partitioned run.1 known).filledWith keeps (orders.2 run member)

/-- The unit at an address is the same one, whatever order the units are in. -/
theorem exists_run_at (keeps : CodeRange.KeepsSorted keep) (disjoint : database.IsDisjoint)
    (orders : AreOrdersOf runs database.units) (address : Int) :
    ∃ found : Option (CompilationUnit × List Subprogram), (∀ run ∈ found, run ∈ runs) ∧
      database.unitAt? address = found.map Prod.fst ∧
        (ofOrders keep runs).unitAt? address =
          found.map fun run => run.1.filledWith keep run.2 := by
  refine ⟨runs.find? fun run => run.1.contains address,
    fun run found => List.mem_of_find?_eq_some found, ?_, ?_⟩
  · calc database.unitAt? address
        = (runs.map Prod.fst).find? fun unit => unit.contains address :=
          (find?_eq_of_perm (disjoint.not_contains_both address) orders.1).symm
      _ = (runs.find? fun run => run.1.contains address).map Prod.fst := List.find?_map ..
  · exact unitAt?_filledWith keeps runs address

/-- The function at an address is the same one, whatever order the units are in and
functions are added in. -/
theorem subprogramAt?_ofOrders (keeps : CodeRange.KeepsSorted keep)
    (indexed : ∀ unit ∈ database.units, unit.Indexed) (disjoint : database.IsDisjoint)
    (orders : AreOrdersOf runs database.units) (address : Int) :
    (ofOrders keep runs).subprogramAt? address = database.subprogramAt? address := by
  obtain ⟨found, ofRuns, unitAt, unitAtOrders⟩ := exists_run_at keeps disjoint orders address
  rw [subprogramAt?_eq_bind_find? indexed,
    subprogramAt?_eq_bind_find? (indexed_of_mem_ofOrders keeps runs), unitAt, unitAtOrders]
  cases found with
  | none => rfl
  | some run =>
      have member := ofRuns run rfl
      have known : run.1 ∈ database.units := orders.1.mem_iff.mp (List.mem_map_of_mem member)
      simp only [Option.map_some, Option.bind_some, subprograms_filledWith keeps]
      exact find?_eq_of_perm ((disjoint.partitioned run.1 known).not_contains_both address)
        (orders.2 run member)

end Database
end Orders

namespace Database

open CompilationUnit

variable {context : BuildContext} {source : Feed UnitSource} {elapsed : String}
  {database : Database}

/-- Where the units of a database share no address, nor functions of a unit, an address in
a function leads to it, and an address in none to none.  What is found at an address does
not depend on the order of the units, nor on the order in which functions were added to
them, nor on how their ranges are kept sorted. -/
theorem locates_of_ingest {keep : CodeRange → List CodeRange → List CodeRange}
    (keeps : CodeRange.KeepsSorted keep)
    (ingested : (ingest context source elapsed).outcome = .ok database)
    (disjoint : database.IsDisjoint) (address : Int) :
    database.Locates address ∧
      ∀ runs, AreOrdersOf runs database.units →
        (ofOrders keep runs).Locates address ∧
          (∃ found : Option (CompilationUnit × List Subprogram), (∀ run ∈ found, run ∈ runs) ∧
            database.unitAt? address = found.map Prod.fst ∧
              (ofOrders keep runs).unitAt? address =
                found.map fun run => run.1.filledWith keep run.2) ∧
          (ofOrders keep runs).subprogramAt? address = database.subprogramAt? address ∧
          (ofOrders keep runs).functionName? address = database.functionName? address ∧
          (address ≠ 0 → (ofOrders keep runs).variablesFor (.int address) =
            database.variablesFor (.int address)) := by
  have indexed : ∀ unit ∈ database.units, unit.Indexed := by
    intro unit listed
    obtain ⟨item, -, built⟩ := exists_build_of_ingest ingested listed
    exact indexed_of_build built
  refine ⟨disjoint.locates indexed address, fun runs orders => ?_⟩
  have sameFunction := subprogramAt?_ofOrders keeps indexed disjoint orders address
  refine ⟨(disjoint.ofOrders keeps orders).locates (indexed_of_mem_ofOrders keeps runs) address,
    exists_run_at keeps disjoint orders address, sameFunction, ?_, fun notZero => ?_⟩
  · rw [functionName?, functionName?, sameFunction]
  · simp only [variablesFor_int, variablesIn, if_neg notZero, sameFunction]

def functionEntry (name : String) (low size : Int) : Entry where
  tag := .subprogram
  offset := 0x20
  attributes :=
    [(AttributeName.name, some (.ofText "DW_FORM_string" name)),
      (AttributeName.lowAddress, some (.ofInt "DW_FORM_addr" low)),
      (AttributeName.highAddress, some (.ofInt "DW_FORM_data4" size))]
  children := ⟨[], none⟩

/-- A unit with functions, and with rows from an address to another. -/
def codeSource (low high : Int) (functions : List Entry) : UnitSource where
  top := .ok
    { tag := .other (some "DW_TAG_partial_unit")
      offset := 11
      attributes := []
      children := ⟨functions, none⟩ }
  rows := ⟨[(low, 1), (high, 2)], none⟩

/-- Two units next to each other, with functions that are not in the order of their
addresses, one of them without code. -/
def adjacentSources : Feed UnitSource where
  items :=
    [codeSource 0x2000 0x2100 [functionEntry "last" 0x2000 0x100],
      codeSource 0x1000 0x2000
        [functionEntry "second" 0x1010 0x10, functionEntry "declared" 0x1014 0,
          functionEntry "first" 0x1000 0x10]]
  fault := none

/-- The units and functions of a database from the last to the first. -/
def reversedOrders (database : Database) : List (CompilationUnit × List Subprogram) :=
  database.units.reverse.map fun unit => (unit, unit.subprograms.reverse)

theorem areOrdersOf_reversedOrders (database : Database) :
    AreOrdersOf database.reversedOrders database.units := by
  constructor
  · rw [reversedOrders, List.map_map, Function.comp_def, List.map_id']
    exact List.reverse_perm _
  · intro run listed
    obtain ⟨unit, -, rfl⟩ := List.mem_map.mp listed
    exact List.reverse_perm _

theorem locates_adjacentSources :
    CodeRange.KeepsSorted CodeRange.insert ∧
      ∃ database,
        (ingest { files := {}, settings := {} } adjacentSources "0.000s").outcome =
            .ok database ∧
          database.IsDisjoint ∧ database.Locates 0x1014 ∧
            AreOrdersOf database.reversedOrders database.units ∧
              (ofOrders CodeRange.insert database.reversedOrders).functionName? 0x1014 =
                some "second" := by
  have answers : (ingest { files := {}, settings := {} } adjacentSources
      "0.000s").outcome.toOption.map (fun database =>
        (decide database.IsDisjoint, database.functionName? 0x1014)) =
      some (true, some "second") := by decide +kernel
  obtain ⟨database, ingested, answered⟩ := exists_ingest_of_answer answers
  obtain ⟨decided, named⟩ := Prod.mk.inj answered
  have disjoint : database.IsDisjoint := of_decide_eq_true decided
  have located := locates_of_ingest CodeRange.keepsSorted_insert ingested disjoint 0x1014
  have orders := areOrdersOf_reversedOrders database
  have sameName := (located.2 _ orders).2.2.2.1
  exact ⟨CodeRange.keepsSorted_insert, database, ingested, disjoint, located.1, orders,
    sameName.trans named⟩

end Database
end DebugIndex
