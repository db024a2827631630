import Mathlib.Data.List.Forall2
import DebugIndex.Proofs.CompilationUnit.Functions
import DebugIndex.Proofs.Database.DisjointRanges
import DebugIndex.Proofs.Database.Globals

/-!
# Places of variables

A variable is at an address or at an offset from its frame.  A global variable has the
opcode of addresses and an address, and its offset is zero.  A local variable or a parameter
has no address, and whatever its opcode is, a number behind it in a short location
expression is taken for an offset.  So a variable never has both an address and an offset,
and with any other opcode it has no address.  But a local variable can have the opcode of
addresses and an offset: exactly if its location expression starts with this opcode, and is
short enough for an offset that is not zero.
-/

namespace DebugIndex

/-- What the location expression of a variable says. -/
structure Place where
  opcode : Int
  address : Int
  offset : Int
  deriving DecidableEq

/-- With the opcode of addresses there is no offset, and with any other opcode no address. -/
structure Place.IsExclusive (place : Place) : Prop where
  offset_eq_zero : place.opcode = Extraction.addressOpcode.toNat → place.offset = 0
  address_eq_zero : place.opcode ≠ Extraction.addressOpcode.toNat → place.address = 0

instance (place : Place) : Decidable place.IsExclusive :=
  decidable_of_iff
    ((place.opcode = Extraction.addressOpcode.toNat → place.offset = 0) ∧
      (place.opcode ≠ Extraction.addressOpcode.toNat → place.address = 0))
    ⟨fun both => ⟨both.1, both.2⟩, fun exclusive =>
      ⟨exclusive.offset_eq_zero, exclusive.address_eq_zero⟩⟩

def Variable.place (item : Variable) : Place :=
  ⟨item.opcode, item.address, item.offset⟩

namespace Extraction

/-- The number behind the opcode of a location expression, which is signed for a variable
and unsigned for a parameter. -/
def operandOf (entry : Entry) : Int :=
  if entry.tag = .variableObject then Leb128.signed (locationOf entry).tail
  else Leb128.unsigned (locationOf entry).tail

/-- The place that an entry gives a local variable or a parameter. -/
def localPlace (entry : Entry) : Place where
  opcode := ((locationOf entry).head?.map fun opcode => (opcode.toNat : Int)).getD 0
  address := 0
  offset :=
    if 2 ≤ (locationOf entry).length ∧ (locationOf entry).length ≤ 5 then operandOf entry else 0

/-- Whether what stands behind the opcode of addresses is read as an offset. -/
def MisreadsAddress (entry : Entry) : Prop :=
  (locationOf entry).head? = some addressOpcode ∧
    (2 ≤ (locationOf entry).length ∧ (locationOf entry).length ≤ 5) ∧ operandOf entry ≠ 0

theorem place_localOf (unitOffset : Int) (entry : Entry) :
    (localOf unitOffset entry).place = localPlace entry := by
  simp only [localOf, localPlace]
  by_cases short : 2 ≤ (locationOf entry).length ∧ (locationOf entry).length ≤ 5
  · rw [if_pos short, if_pos short]
    rfl
  · rw [if_neg short, if_neg short]
    rfl

theorem opcode_localPlace_iff {entry : Entry} :
    (localPlace entry).opcode = addressOpcode.toNat ↔
      (locationOf entry).head? = some addressOpcode := by
  simp only [localPlace]
  cases (locationOf entry).head? with
  | none => decide
  | some opcode =>
      simp only [Option.map_some, Option.getD_some, Option.some.injEq, Int.natCast_inj,
        UInt8.toNat_inj]

/-- Unless it holds an address that is read as an offset, an entry gives a local variable
the place that its opcode calls for. -/
theorem isExclusive_localPlace_iff {entry : Entry} :
    (localPlace entry).IsExclusive ↔ ¬ MisreadsAddress entry := by
  have offset_eq : (localPlace entry).offset =
      if 2 ≤ (locationOf entry).length ∧ (locationOf entry).length ≤ 5 then operandOf entry
      else 0 := rfl
  rw [MisreadsAddress, ← opcode_localPlace_iff]
  constructor
  · rintro exclusive ⟨opcode, short, notZero⟩
    have noOffset := exclusive.offset_eq_zero opcode
    rw [offset_eq, if_pos short] at noOffset
    exact notZero noOffset
  · intro rightly
    refine ⟨fun opcode => ?_, fun _ => rfl⟩
    rw [offset_eq]
    split
    case isTrue short =>
      exact Decidable.not_not.mp fun notZero => rightly ⟨opcode, short, notZero⟩
    case isFalse => rfl

/-- An address other than zero is read only behind the opcode of addresses. -/
theorem head?_of_staticAddress {byteOrder : Option ByteOrder} {location : List UInt8}
    {address : Nat} (read : staticAddress byteOrder location = .ok address)
    (notZero : address ≠ 0) : location.head? = some addressOpcode := by
  simp only [staticAddress] at read
  split at read
  case isTrue static =>
    rw [isStatic, Bool.and_eq_true, decide_eq_true_eq] at static
    exact static.1
  case isFalse => exact absurd (Except.ok.inj read).symm notZero

theorem place_of_contributionOf {byteOrder : Option ByteOrder} {unitOffset : Int}
    {rows : List LineRow} {entry : Entry} {item : Variable}
    (contributed : (contributionOf byteOrder unitOffset rows entry).global? = some item) :
    item.place = ⟨addressOpcode.toNat, item.address, 0⟩ := by
  obtain ⟨address, read, notZero, rfl⟩ := exists_address_of_contributionOf contributed
  have opcode := head?_of_staticAddress read notZero
  simp only [Variable.place, variableOf, opcode, Option.map_some, Option.getD_some]

end Extraction

/-- A variable has the place that an entry gives it, which is one that its opcode calls for
unless an address is misread. -/
structure Variable.LocatedBy (item : Variable) (entry : Entry) : Prop where
  place : item.place = Extraction.localPlace entry
  exclusive : item.place.IsExclusive ↔ ¬ Extraction.MisreadsAddress entry

theorem Variable.locatedBy_of_place {item : Variable} {entry : Entry}
    (place : item.place = Extraction.localPlace entry) : item.LocatedBy entry where
  place := place
  exclusive := by
    rw [place]
    exact Extraction.isExclusive_localPlace_iff

namespace UnitSource

/-- The entries of a unit that describe local variables and parameters of its functions. -/
def localEntries (source : UnitSource) : List Entry :=
  source.functionEntries.flatMap Extraction.localEntries

end UnitSource

namespace BuildContext

open Extraction

theorem place_resolved (context : BuildContext) (types : TypeTable) (item : Variable) :
    (context.resolved types item).place = item.place := by
  obtain ⟨-, -, opcode_eq, address_eq, offset_eq⟩ :=
    Resolution.declared_resolve types (context.limits types) 0 item
  rw [Variable.place, resolved, opcode_eq, address_eq, offset_eq, Variable.place]

/-- The variables of the functions of a built unit have the places that entries give them. -/
theorem localPlaces_of_build {context : BuildContext} {source : UnitSource}
    {unit : CompilationUnit} (built : (context.build source).outcome = .ok unit) :
    (unit.subprograms.flatMap Subprogram.locals).map Variable.place =
      source.localEntries.map localPlace := by
  calc
    _ = ((unit.subprograms.map Subprogram.withoutLines).flatMap Subprogram.locals).map
          Variable.place := by
      rw [List.flatMap_map]
      rfl
    _ = source.localEntries.map localPlace := by
      simp only [subprograms_of_build built, UnitSource.localEntries, List.flatMap_map,
        List.map_flatMap, resolvedSubprogram, functionOf, List.map_map, Function.comp_def,
        place_resolved, place_localOf]

theorem place_of_mem_globals {context : BuildContext} {source : UnitSource}
    {unit : CompilationUnit} (built : (context.build source).outcome = .ok unit) {item : Variable}
    (listed : item ∈ unit.globals) : item.place = ⟨addressOpcode.toNat, item.address, 0⟩ := by
  obtain ⟨rows, globals_eq⟩ := exists_contributed_of_build built
  rw [globals_eq] at listed
  obtain ⟨declared, contributed, rfl⟩ := List.mem_map.mp listed
  obtain ⟨entry, -, fromEntry⟩ := List.mem_filterMap.mp contributed
  have samePlace := place_resolved context unit.types declared
  have sameAddress : (context.resolved unit.types declared).address = declared.address :=
    congrArg Place.address samePlace
  rw [samePlace, place_of_contributionOf fromEntry, sameAddress]

end BuildContext

namespace Database

open Extraction

def locals (database : Database) : List Variable :=
  database.units.flatMap fun unit => unit.subprograms.flatMap Subprogram.locals

section Ingested

variable {context : BuildContext} {source : Feed UnitSource} {elapsed : String}
  {database : Database}

theorem localPlaces_of_ingest
    (ingested : (ingest context source elapsed).outcome = .ok database) :
    database.locals.map Variable.place =
      (source.items.flatMap UnitSource.localEntries).map localPlace := by
  obtain ⟨-, units, rfl, builtAll⟩ := outcome_ingest_eq_ok_iff.mp ingested
  have located := Report.map_eq_map_of_outcome_each
    (fun _ _ built => BuildContext.localPlaces_of_build (outcome_buildUnit_eq_ok_iff.mp built))
    builtAll
  rw [locals, ofUnits, List.map_flatMap, List.flatMap_def, located, List.map_flatMap,
    List.flatMap_def]

theorem globalPlace_of_ingest
    (ingested : (ingest context source elapsed).outcome = .ok database) {item : Variable}
    (listed : item ∈ database.globals) : item.place = ⟨addressOpcode.toNat, item.address, 0⟩ := by
  obtain ⟨-, units, rfl, -⟩ := outcome_ingest_eq_ok_iff.mp ingested
  obtain ⟨unit, member, ofUnit⟩ := List.mem_flatMap.mp listed
  obtain ⟨origin, -, built⟩ := exists_build_of_ingest ingested member
  exact BuildContext.place_of_mem_globals built ofUnit

/-- The global variables of a built database are at addresses.  The variables and parameters
of its functions have the places that their entries give them: no address, and an offset
with the opcode of addresses exactly if an address is misread.  So no variable has an
address with another opcode, or both an address and an offset. -/
theorem places_of_ingest (ingested : (ingest context source elapsed).outcome = .ok database) :
    (∀ item ∈ database.globals, item.place = ⟨addressOpcode.toNat, item.address, 0⟩) ∧
      List.Forall₂ Variable.LocatedBy database.locals
          (source.items.flatMap UnitSource.localEntries) ∧
        ∀ item ∈ database.globals ++ database.locals,
          (item.opcode ≠ addressOpcode.toNat → item.address = 0) ∧
            (item.address = 0 ∨ item.offset = 0) := by
  have places := localPlaces_of_ingest ingested
  refine ⟨fun item => globalPlace_of_ingest ingested, ?_, fun item listed => ?_⟩
  · rw [← List.forall₂_eq_eq_eq, List.forall₂_map_left_iff, List.forall₂_map_right_iff] at places
    exact places.imp fun item entry => Variable.locatedBy_of_place
  · rcases List.mem_append.mp listed with ofGlobals | ofLocals
    · have place := globalPlace_of_ingest ingested ofGlobals
      have opcode_eq : item.opcode = addressOpcode.toNat := congrArg Place.opcode place
      have offset_eq : item.offset = 0 := congrArg Place.offset place
      exact ⟨fun other => absurd opcode_eq other, Or.inr offset_eq⟩
    · have located : item.place ∈ (source.items.flatMap UnitSource.localEntries).map localPlace :=
        places ▸ List.mem_map_of_mem ofLocals
      obtain ⟨entry, -, place⟩ := List.mem_map.mp located
      have address_eq : 0 = item.address := congrArg Place.address place
      exact ⟨fun _ => address_eq.symm, Or.inl address_eq.symm⟩

end Ingested

/-- A variable in a function that has an absolute address. -/
def staticEntry : Entry :=
  variableEntry "count" (some "DW_FORM_exprloc") [0x24, 0x20, 0, 0]

/-- A unit with a global variable, and with another variable in a function, both of them at
absolute addresses. -/
def staticSource : Feed UnitSource where
  items :=
    [codeSource 0x1000 0x1010
      [variableEntry "total" (some "DW_FORM_exprloc") [0, 0, 0x20, 0],
        { functionEntry "main" 0x1000 0x10 with children := ⟨[staticEntry], none⟩ }]]
  fault := none

theorem places_staticSource :
    ∃ database,
      (ingest { files := {}, settings := {} } staticSource "0.000s").outcome = .ok database ∧
        database.globals.map Variable.place = [⟨3, 0x2000, 0⟩] ∧
          List.Forall₂ Variable.LocatedBy database.locals [staticEntry] ∧
            ∀ item ∈ database.locals, item.address = 0 ∨ item.offset = 0 := by
  have answers : (ingest { files := {}, settings := {} } staticSource
      "0.000s").outcome.toOption.map (fun database => database.globals.map Variable.address) =
      some [0x2000] := by decide +kernel
  obtain ⟨database, ingested, addresses⟩ := exists_ingest_of_answer answers
  obtain ⟨globals, locals, either⟩ := places_of_ingest ingested
  refine ⟨database, ingested, ?_, locals, fun item listed =>
    (either item (List.mem_append_right _ listed)).2⟩
  calc
    database.globals.map Variable.place =
        (database.globals.map Variable.address).map fun address => ⟨3, address, 0⟩ := by
      rw [List.map_map]
      exact List.map_congr_left globals
    _ = [⟨3, 0x2000, 0⟩] := by
      rw [addresses]
      rfl

/-- The first byte of the address is read as the offset of the variable in the function. -/
theorem locals_staticSource :
    ∃ database,
      (ingest { files := {}, settings := {} } staticSource "0.000s").outcome = .ok database ∧
        database.locals.map Variable.place = [⟨3, 0, 0x24⟩] ∧
          ∀ item ∈ database.locals, ¬ item.place.IsExclusive := by
  have answers : (ingest { files := {}, settings := {} } staticSource
      "0.000s").outcome.toOption.map (fun database => database.locals.map Variable.place) =
      some [⟨3, 0, 0x24⟩] := by decide +kernel
  obtain ⟨database, ingested, answered⟩ := exists_ingest_of_answer answers
  refine ⟨database, ingested, answered, fun item listed => ?_⟩
  have place : item.place ∈ database.locals.map Variable.place := List.mem_map_of_mem listed
  rw [answered, List.mem_singleton] at place
  rw [place]
  decide

end Database
end DebugIndex
