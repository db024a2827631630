import DebugIndex.Proofs.CompilationUnit.Functions
import DebugIndex.Proofs.Database.DisjointRanges

/-!
# Symbols and functions

The symbol at an address is the name of the first function that starts exactly there.
Whether the function has any code is not asked, and a function whose entry gives no address
counts as one that starts at zero.  So the symbol at an address belongs to a function with
code at the address exactly if the first entry that starts there gives its function code;
then some function is found at the address too.  Only at address zero an entry can be the
first one without giving the address itself.
-/

namespace DebugIndex

namespace Extraction

/-- Whether the addresses that an entry gives leave its function any code. -/
def GivesCode (entry : Entry) : Prop :=
  entry.addresses.1 < entry.addresses.2

instance (entry : Entry) : Decidable (GivesCode entry) :=
  inferInstanceAs (Decidable (_ < _))

/-- The low address of a function that does not start at zero is one that its entry gives. -/
theorem unsigned?_lowAddress_of_ne_zero {entry : Entry} {address : Int}
    (starts : (entry.addresses.1 : Int) = address) (notZero : address ≠ 0) :
    (entry.unsigned? AttributeName.lowAddress).map Int.ofNat = some address := by
  have low_eq : entry.addresses.1 = (entry.unsigned? AttributeName.lowAddress).getD 0 := by
    rw [Entry.addresses]
    split <;> rfl
  rw [low_eq] at starts
  cases given : entry.unsigned? AttributeName.lowAddress with
  | none =>
      rw [given] at starts
      exact absurd starts.symm notZero
  | some low =>
      rw [given] at starts
      exact congrArg some starts

end Extraction

namespace UnitSource

open Extraction

/-- The first entry of a function whose low address, zero if it gives none, is an address. -/
def functionStartingAt? (source : UnitSource) (address : Int) : Option Entry :=
  source.functionEntries.find? fun entry => (entry.addresses.1 : Int) = address

theorem starts_of_functionStartingAt? {source : UnitSource} {address : Int} {entry : Entry}
    (first : source.functionStartingAt? address = some entry) :
    (entry.addresses.1 : Int) = address := by
  rw [functionStartingAt?] at first
  have starts := List.find?_some first
  exact of_decide_eq_true starts

/-- A function that starts at an address is the one that the first entry describes that
starts there.  The function contains the address exactly if the entry gives it code. -/
structure AccountsFor (source : UnitSource) (entry : Entry) (address : Int)
    (function : Subprogram) : Prop where
  first : source.functionStartingAt? address = some entry
  name : function.name = entry.string? AttributeName.name
  low : function.low = address
  contains : function.contains address = true ↔ GivesCode entry
  given : address ≠ 0 → (entry.unsigned? AttributeName.lowAddress).map Int.ofNat = some address

end UnitSource

namespace CompilationUnit

open Extraction

theorem subprogramStartingAt?_eq (unit : CompilationUnit) (address : Int) :
    unit.subprogramStartingAt? address =
      unit.subprograms.find? fun subprogram => subprogram.low = address := by
  rw [subprogramStartingAt?, positionStartingAt?, List.find?_eq_bind_findIdx?_getElem?]

/-- The function of a built unit that starts at an address is the one that the first entry
that starts there describes. -/
theorem subprogramStartingAt?_of_build {context : BuildContext} {source : UnitSource}
    {unit : CompilationUnit} (built : (context.build source).outcome = .ok unit) (address : Int) :
    (unit.subprogramStartingAt? address).map Subprogram.withoutLines =
      (source.functionStartingAt? address).map fun entry =>
        context.resolvedSubprogram unit.types (functionOf source.offset entry) := by
  have found := congrArg (List.find? fun subprogram => subprogram.low = address)
    (BuildContext.subprograms_of_build built)
  rw [List.find?_map, List.find?_map] at found
  rw [subprogramStartingAt?_eq]
  exact found

/-- An entry accounts for each function that the starts of functions are looked up for. -/
theorem exists_accountsFor_of_build {context : BuildContext} {source : UnitSource}
    {unit : CompilationUnit} (built : (context.build source).outcome = .ok unit) {address : Int}
    {function : Subprogram} (starts : unit.subprogramStartingAt? address = some function) :
    ∃ entry, source.AccountsFor entry address function := by
  have described := subprogramStartingAt?_of_build built address
  rw [starts, Option.map_some, eq_comm, Option.map_eq_some_iff] at described
  obtain ⟨entry, first, outlined⟩ := described
  have sameName : entry.string? AttributeName.name = function.name :=
    congrArg Subprogram.name outlined
  have sameLow : (entry.addresses.1 : Int) = function.low := congrArg Subprogram.low outlined
  have sameHigh : (entry.addresses.2 : Int) = function.high := congrArg Subprogram.high outlined
  have entryStarts := UnitSource.starts_of_functionStartingAt? first
  refine ⟨entry, first, sameName.symm, by omega, ?_, unsigned?_lowAddress_of_ne_zero entryStarts⟩
  rw [Subprogram.contains, Bool.and_eq_true, decide_eq_true_eq, decide_eq_true_eq, GivesCode]
  omega

theorem exists_subprogramAt?_of_contains {unit : CompilationUnit} (indexed : unit.Indexed)
    {function : Subprogram} (member : function ∈ unit.subprograms) {address : Int}
    (contained : function.contains address = true) :
    ∃ covering, unit.subprogramAt? address = some covering ∧
      covering.contains address = true := by
  cases found : unit.subprogramAt? address with
  | none =>
      rw [indexed.subprogramAt?_eq, List.find?_eq_none] at found
      exact absurd contained (found function member)
  | some covering =>
      rw [indexed.subprogramAt?_eq] at found
      have covers := List.find?_some found
      exact ⟨covering, rfl, covers⟩

end CompilationUnit

namespace Database

open Extraction

/-- The symbol at an address is the name that the first entry of its unit gives that starts
there, if there is one.  This entry accounts for the function that is looked up, and if it
gives code, some function is found at the address. -/
theorem symbolName?_of_ingest {context : BuildContext} {source : Feed UnitSource}
    {elapsed : String} {database : Database}
    (ingested : (ingest context source elapsed).outcome = .ok database) {address : Int}
    {unit : CompilationUnit} (owner : database.unitAt? address = some unit) :
    ∃ item ∈ source.items, (context.build item).outcome = .ok unit ∧
      database.symbolName? address =
        (item.functionStartingAt? address).bind (·.string? AttributeName.name) ∧
        ∀ function, unit.subprogramStartingAt? address = some function →
          ∃ entry, item.AccountsFor entry address function ∧
            (GivesCode entry → ∃ covering, database.subprogramAt? address = some covering ∧
              covering.contains address = true) := by
  obtain ⟨item, listed, built⟩ := exists_build_of_ingest ingested (List.mem_of_find?_eq_some owner)
  refine ⟨item, listed, built, ?_, fun function starts => ?_⟩
  · calc
      database.symbolName? address =
          ((unit.subprogramStartingAt? address).map Subprogram.withoutLines).bind
            Subprogram.name := by
        rw [symbolName?, owner, Option.bind_some, Option.bind_map]
        rfl
      _ = (item.functionStartingAt? address).bind (·.string? AttributeName.name) := by
        rw [CompilationUnit.subprogramStartingAt?_of_build built, Option.bind_map]
        rfl
  · obtain ⟨entry, accounts⟩ := CompilationUnit.exists_accountsFor_of_build built starts
    refine ⟨entry, accounts, fun givesCode => ?_⟩
    rw [CompilationUnit.subprogramStartingAt?_eq] at starts
    rw [subprogramAt?_of_unitAt? owner]
    exact CompilationUnit.exists_subprogramAt?_of_contains
      (CompilationUnit.indexed_of_build built) (List.mem_of_find?_eq_some starts)
      (accounts.contains.mpr givesCode)

/-- A function without addresses, as one that is only declared. -/
def declarationEntry (name : String) : Entry where
  tag := .subprogram
  offset := 0x20
  attributes := [(AttributeName.name, some (.ofText "DW_FORM_string" name))]
  children := ⟨[], none⟩

/-- A unit with code from address zero on, with a function that is declared and another one
that is defined. -/
def declaringSource : Feed UnitSource where
  items := [codeSource 0 0x20 [declarationEntry "puts", functionEntry "main" 0x10 0x10]]
  fault := none

/-- The symbol where the defined function starts is its name, and a function is found there. -/
theorem symbolName?_defined :
    ∃ database unit function,
      (ingest { files := {}, settings := {} } declaringSource "0.000s").outcome =
          .ok database ∧
        database.unitAt? 0x10 = some unit ∧
          unit.subprogramStartingAt? 0x10 = some function ∧
            database.symbolName? 0x10 = some "main" ∧ function.low = 0x10 ∧
              ∃ covering, database.subprogramAt? 0x10 = some covering ∧
                covering.contains 0x10 = true := by
  have answers : (ingest { files := {}, settings := {} } declaringSource
      "0.000s").outcome.toOption.map (fun database =>
        ((database.unitAt? 0x10).bind (·.subprogramStartingAt? 0x10)).isSome) =
      some true := by decide +kernel
  obtain ⟨database, ingested, answered⟩ := exists_ingest_of_answer answers
  obtain ⟨function, found⟩ := Option.isSome_iff_exists.mp answered
  obtain ⟨unit, owner, starts⟩ := Option.bind_eq_some_iff.mp found
  obtain ⟨item, listed, -, symbol, accounted⟩ := symbolName?_of_ingest ingested owner
  rw [declaringSource, List.mem_singleton] at listed
  subst listed
  obtain ⟨entry, accounts, covered⟩ := accounted function starts
  obtain rfl : functionEntry "main" 0x10 0x10 = entry := Option.some.inj accounts.first
  exact ⟨database, unit, function, ingested, owner, starts, symbol, accounts.low,
    covered (by decide)⟩

/-- At address zero the symbol is that of the declared function, and no function is found. -/
theorem symbolName?_declared :
    ∃ database,
      (ingest { files := {}, settings := {} } declaringSource "0.000s").outcome =
          .ok database ∧
        database.symbolName? 0 = some "puts" ∧ database.subprogramAt? 0 = none := by
  have answers : (ingest { files := {}, settings := {} } declaringSource
      "0.000s").outcome.toOption.map (fun database =>
        (database.symbolName? 0, (database.subprogramAt? 0).isNone)) =
      some (some "puts", true) := by decide +kernel
  obtain ⟨database, ingested, answered⟩ := exists_ingest_of_answer answers
  obtain ⟨symbol, nowhere⟩ := Prod.mk.inj answered
  exact ⟨database, ingested, symbol, Option.isNone_iff_eq_none.mp nowhere⟩

end Database
end DebugIndex
