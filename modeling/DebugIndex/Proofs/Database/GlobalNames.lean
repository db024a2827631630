import DebugIndex.Proofs.Database.Globals
import DebugIndex.Proofs.Database.NameIndex

/-!
# Global variables by name

In a database a name leads to the first global variable that has it, over all units in
their order, and the beginning of a name to all names of global variables that begin like
this, each once and in ascending order.
-/

namespace DebugIndex

namespace Extraction

theorem address_ne_zero_of_declaredGlobal? {byteOrder : Option ByteOrder} {unitOffset : Int}
    {entry : Entry} {declared : Declaration}
    (declares : declaredGlobal? byteOrder unitOffset entry = some declared) :
    declared.address ≠ 0 := by
  simp only [declaredGlobal?] at declares
  split at declares
  case isFalse => cases declares
  case isTrue =>
    simp only [Option.bind_eq_bind, Option.bind_eq_some_iff] at declares
    obtain ⟨name, -, location, -, address, -, given⟩ := declares
    split at given
    · cases given
    case isFalse usable =>
      obtain rfl := Option.some.inj given
      exact fun zero => usable (Or.inr (Int.natCast_eq_zero.mp zero))

end Extraction

namespace Database

variable {context : BuildContext} {source : Feed UnitSource} {elapsed : String}
  {database : Database}

theorem address_ne_zero_of_ingest
    (ingested : (ingest context source elapsed).outcome = .ok database) {item : Variable}
    (listed : item ∈ database.globals) : item.address ≠ 0 := by
  have declared : item.declaration ∈ declaredGlobals source :=
    globals_of_ingest ingested ▸ List.mem_map_of_mem listed
  obtain ⟨unit, -, ofUnit⟩ := List.mem_flatMap.mp declared
  obtain ⟨entry, -, declares⟩ := List.mem_filterMap.mp ofUnit
  exact Extraction.address_ne_zero_of_declaredGlobal? declares

theorem indexes_of_ingest
    (ingested : (ingest context source elapsed).outcome = .ok database) :
    database.names.Indexes database.globals := by
  obtain ⟨-, units, rfl, -⟩ := outcome_ingest_eq_ok_iff.mp ingested
  exact NameIndex.indexes_ofListWith NameOrder.lawful_listed _

theorem global?_eq_find?
    (ingested : (ingest context source elapsed).outcome = .ok database) (name : String) :
    database.global? name =
      (database.variablesIn none).find? fun item => item.name = some name :=
  (indexes_of_ingest ingested).get?_eq name

theorem globalNames_eq_filter
    (ingested : (ingest context source elapsed).outcome = .ok database) (start : String) :
    database.globalNames start =
      (database.names.entries.map Prod.fst).filter fun name =>
        start.toList.isPrefixOf name.toList :=
  (indexes_of_ingest ingested).namesFromWith_eq NameOrder.lawful_listed start

theorem namesFromWith_eq_globalNames {order : NameOrder} (lawful : order.Lawful)
    (ingested : (ingest context source elapsed).outcome = .ok database) :
    NameIndex.ofListWith order database.globals = database.names ∧
      ∀ start, database.names.namesFromWith order start = database.globalNames start := by
  have indexes := indexes_of_ingest ingested
  refine ⟨(NameIndex.indexes_ofListWith lawful _).unique indexes, fun start => ?_⟩
  rw [indexes.namesFromWith_eq lawful, globalNames_eq_filter ingested]

theorem globalAddress_of_global?
    (ingested : (ingest context source elapsed).outcome = .ok database) {name : String}
    {item : Variable} (leads : database.global? name = some item) :
    database.globalAddress name = item.address ∧ item.address ≠ 0 := by
  rw [globalAddress, leads]
  rw [global?_eq_find? ingested] at leads
  exact ⟨rfl, address_ne_zero_of_ingest ingested (List.mem_of_find?_eq_some leads)⟩

theorem globalAddress_eq_zero_iff
    (ingested : (ingest context source elapsed).outcome = .ok database) (name : String) :
    database.globalAddress name = 0 ↔
      ∀ item ∈ database.variablesIn none, item.name ≠ some name := by
  cases leads : database.global? name with
  | none =>
      have absent := List.find?_eq_none.mp (global?_eq_find? ingested name ▸ leads)
      simpa [globalAddress, leads] using absent
  | some item =>
      obtain ⟨address, placed⟩ := globalAddress_of_global? ingested leads
      rw [global?_eq_find? ingested] at leads
      have named : item.name = some name := by simpa using List.find?_some leads
      simp only [address, placed, false_iff]
      exact fun absent => absent item (List.mem_of_find?_eq_some leads) named

theorem pairwise_globalNames
    (ingested : (ingest context source elapsed).outcome = .ok database) (start : String) :
    (database.globalNames start).Pairwise (· < ·) := by
  rw [globalNames_eq_filter ingested]
  exact (indexes_of_ingest ingested).ascending.names.filter _

theorem mem_globalNames_iff
    (ingested : (ingest context source elapsed).outcome = .ok database) (start name : String) :
    name ∈ database.globalNames start ↔
      start.toList <+: name.toList ∧
        ∃ item ∈ database.variablesIn none, item.name = some name := by
  rw [globalNames_eq_filter ingested, List.mem_filter, (indexes_of_ingest ingested).mem_names_iff,
    List.isPrefixOf_iff_prefix, and_comm]
  rfl

theorem not_isPrefix_pointsOf (raw : Text.Raw) (name : String) :
    ¬ raw.points <+: Text.pointsOf name := by
  intro begins
  obtain ⟨point, listed, surrogate⟩ := List.any_eq_true.mp raw.surrogate
  obtain ⟨character, -, rfl⟩ := List.mem_map.mp (begins.subset listed)
  rw [Text.isSurrogate_toNat] at surrogate
  cases surrogate

/-- Whatever order names are kept in, a name leads to the first global variable that has
it, or to none and to address zero if there is none; and a text leads to the names of
global variables that begin with it, each once and in ascending order. -/
theorem globalNames_of_ingest {order : NameOrder} (lawful : order.Lawful)
    (ingested : (ingest context source elapsed).outcome = .ok database) :
    (NameIndex.ofListWith order database.globals = database.names ∧
        ∀ start, database.names.namesFromWith order start = database.globalNames start) ∧
      (∀ name,
        database.globalFor? (.text name) =
            .ok ((database.variablesIn none).find? fun item => item.name = some name) ∧
          (∀ item, database.global? name = some item →
            database.globalAddress name = item.address ∧ item.address ≠ 0) ∧
          (database.globalAddress name = 0 ↔
            ∀ item ∈ database.variablesIn none, item.name ≠ some name)) ∧
      (∀ start,
        database.globalNamesFor (.text start) = .ok (database.globalNames start) ∧
          (database.globalNames start).Pairwise (· < ·) ∧
          ∀ name, name ∈ database.globalNames start ↔
            start.toList <+: name.toList ∧
              ∃ item ∈ database.variablesIn none, item.name = some name) ∧
      ∀ raw : Text.Raw,
        database.globalFor? (.rawText raw) = .ok none ∧
          database.globalNamesFor (.rawText raw) = .ok [] ∧
          ∀ item ∈ database.variablesIn none, ∀ name, item.name = some name →
            ¬ raw.points <+: Text.pointsOf name := by
  refine ⟨namesFromWith_eq_globalNames lawful ingested, fun name => ⟨?_, ?_, ?_⟩,
    fun start => ⟨rfl, pairwise_globalNames ingested start, mem_globalNames_iff ingested start⟩,
    fun raw => ⟨rfl, rfl, fun _ _ name _ => not_isPrefix_pointsOf raw name⟩⟩
  · exact congrArg Except.ok (global?_eq_find? ingested name)
  · exact fun _ leads => globalAddress_of_global? ingested leads
  · exact globalAddress_eq_zero_iff ingested name

/-- Two units with variables whose names begin alike, one of which both of them have. -/
def sharedNameSources : Feed UnitSource where
  items :=
    [variableSource
        [variableEntry "counter" (some "DW_FORM_exprloc") [0, 0, 0x10, 0],
          variableEntry "count" (some "DW_FORM_exprloc") [0, 0, 0x10, 4]],
      variableSource
        [variableEntry "count" (some "DW_FORM_exprloc") [0, 0, 0x20, 0],
          variableEntry "cost" (some "DW_FORM_exprloc") [0, 0, 0x20, 4]]]
  fault := none

theorem globalNames_sharedNameSources :
    NameOrder.listed.Lawful ∧
      ∃ database,
        (ingest { files := {}, settings := {} } sharedNameSources "0.000s").outcome =
            .ok database ∧
          (database.globalNames "count", database.globalAddress "count") =
            (["count", "counter"], 0x1004) ∧
          (database.globalNames "count").Pairwise (· < ·) ∧
          (database.globalAddress "discount" = 0 ↔
            ∀ item ∈ database.variablesIn none, item.name ≠ some "discount") := by
  have answers : (ingest { files := {}, settings := {} } sharedNameSources
      "0.000s").outcome.toOption.map (fun database =>
        (database.globalNames "count", database.globalAddress "count")) =
      some (["count", "counter"], 0x1004) := by decide +kernel
  obtain ⟨database, ingested, answered⟩ := exists_ingest_of_answer answers
  have named := globalNames_of_ingest NameOrder.lawful_listed ingested
  exact ⟨NameOrder.lawful_listed, database, ingested, answered,
    (named.2.2.1 "count").2.1, (named.2.1 "discount").2.2⟩

end Database
end DebugIndex
