import DebugIndex.Proofs.CompilationUnit.Contributions
import DebugIndex.Proofs.Database.Arguments
import DebugIndex.Proofs.Database.Ingestion
import DebugIndex.Proofs.TypeTable.Expansion

/-!
# Global variables

The global variables of a database are those that the entries of its units declare: each
variable entry with a name that is not empty and a location that is an absolute address
other than zero declares one, in the order of the units and of their entries.  What is
done with a variable afterwards changes neither its name nor its place.
-/

namespace DebugIndex

/-- What an entry says about the global variable that it declares. -/
structure Declaration where
  name : Option String
  typeOffset : Int
  address : Int
  deriving DecidableEq

def Variable.declaration (item : Variable) : Declaration :=
  ⟨item.name, item.typeOffset, item.address⟩

namespace Extraction

/-- The address that a location expression consists of: that in the four or eight bytes
behind the opcode of addresses. -/
def absoluteAddress? (byteOrder : Option ByteOrder) (location : List UInt8) : Option Nat :=
  match location with
  | [] => none
  | opcode :: operand =>
      if opcode = addressOpcode ∧ (operand.length = 4 ∨ operand.length = 8) then
        byteOrder.map fun order => order.value operand
      else none

/-- The global variable that a child of the top entry of a unit declares, if it has a name
and an address. -/
def declaredGlobal? (byteOrder : Option ByteOrder) (unitOffset : Int) (entry : Entry) :
    Option Declaration :=
  if entry.tag = .variableObject then do
    let name ← entry.string? AttributeName.name
    let location ← entry.block? AttributeName.location
    let address ← absoluteAddress? byteOrder location
    if name = "" ∨ address = 0 then none
    else some ⟨some name, entry.reference AttributeName.type unitOffset, address⟩
  else none

variable {byteOrder : Option ByteOrder} {unitOffset : Int} {rows : List LineRow} {entry : Entry}

theorem isStatic_cons {opcode : UInt8} {operand : List UInt8} :
    isStatic (opcode :: operand) = true ↔
      opcode = addressOpcode ∧ (operand.length = 4 ∨ operand.length = 8) := by
  simp [isStatic]

/-- A location that consists of an absolute address is read as that address. -/
theorem staticAddress_of_some {location : List UInt8} {address : Nat}
    (absolute : absoluteAddress? byteOrder location = some address) :
    staticAddress byteOrder location = .ok address := by
  cases location with
  | nil => cases absolute
  | cons opcode operand =>
      simp only [absoluteAddress?] at absolute
      split at absolute
      case isFalse => cases absolute
      case isTrue shaped =>
        obtain ⟨order, rfl, rfl⟩ := Option.map_eq_some_iff.mp absolute
        simp only [staticAddress, isStatic_cons.mpr shaped, if_true, List.tail_cons]

theorem eq_zero_of_staticAddress {location : List UInt8} {address : Nat}
    (relative : absoluteAddress? byteOrder location = none)
    (read : staticAddress byteOrder location = .ok address) : address = 0 := by
  cases location with
  | nil => exact (Except.ok.inj read).symm
  | cons opcode operand =>
      simp only [staticAddress] at read
      split at read
      case isFalse => exact (Except.ok.inj read).symm
      case isTrue static =>
        simp only [absoluteAddress?, isStatic_cons.mp static, and_self, if_true,
          Option.map_eq_none_iff] at relative
        rw [relative] at read
        cases read

theorem global?_globalOf_of_relative
    (relative : absoluteAddress? byteOrder (locationOf entry) = none) :
    (orNothing (globalOf byteOrder unitOffset entry)).global? = none := by
  cases read : staticAddress byteOrder (locationOf entry) with
  | error reason =>
      rw [globalOf_of_error read]
      rfl
  | ok address =>
      have noAddress : address = 0 := eq_zero_of_staticAddress relative read
      rw [globalOf_of_ok read, if_pos (Or.inr noAddress)]
      rfl

/-- A variable with an absolute address contributes itself if the address is not zero and
the name not empty. -/
theorem declaration_globalOf_of_absolute {address : Nat}
    (absolute : absoluteAddress? byteOrder (locationOf entry) = some address) :
    (orNothing (globalOf byteOrder unitOffset entry)).global?.map Variable.declaration =
      (entry.string? AttributeName.name).bind fun name =>
        if name = "" ∨ address = 0 then none
        else some ⟨some name, entry.reference AttributeName.type unitOffset, address⟩ := by
  rw [globalOf_of_ok (staticAddress_of_some absolute)]
  cases named : entry.string? AttributeName.name with
  | none => rfl
  | some name =>
      simp only [Option.getD_some, Option.bind_some]
      split
      · rfl
      · simp only [orNothing, Contribution.global?, Option.map_some, Variable.declaration,
          variableOf, named]

theorem declaration_contributionOf :
    (contributionOf byteOrder unitOffset rows entry).global?.map Variable.declaration =
      declaredGlobal? byteOrder unitOffset entry := by
  have located : absoluteAddress? byteOrder (locationOf entry) =
      (entry.block? AttributeName.location).bind (absoluteAddress? byteOrder) := by
    rw [locationOf]
    cases entry.block? AttributeName.location <;> rfl
  rw [global?_contributionOf, declaredGlobal?]
  split
  case isFalse => rfl
  case isTrue =>
    simp only [Option.bind_eq_bind, ← Option.bind_assoc, ← located]
    cases absolute : absoluteAddress? byteOrder (locationOf entry) with
    | none =>
        rw [global?_globalOf_of_relative absolute]
        cases entry.string? AttributeName.name <;> rfl
    | some address => exact declaration_globalOf_of_absolute absolute

end Extraction

/-- The global variables that the children of the top entry of a unit declare. -/
def UnitSource.declaredGlobals (source : UnitSource) : List Declaration :=
  source.children.filterMap (Extraction.declaredGlobal? source.byteOrder source.offset)

namespace CompilationUnit

theorem globals_withTable (source : UnitSource) (unit : CompilationUnit) :
    (BuildContext.withTable source unit).globals = unit.globals :=
  field_withTable (fun _ _ => rfl) source unit

theorem offset_withTable (source : UnitSource) (unit : CompilationUnit) :
    (BuildContext.withTable source unit).offset = unit.offset :=
  field_withTable (fun _ _ => rfl) source unit

theorem globals_withLines (unit : CompilationUnit) (lines : List String) :
    (unit.withLines lines).globals = unit.globals := by
  simp only [withLines]
  split <;> rfl

theorem globals_bindLines (unit : CompilationUnit) (lines : List String) :
    (unit.bindLines lines).globals = unit.globals :=
  field_bindLines globals_withLines (fun _ => rfl) (fun _ _ _ => rfl) unit lines

end CompilationUnit

namespace BuildContext

theorem declaration_resolved (context : BuildContext) (types : TypeTable) (item : Variable) :
    (context.resolved types item).declaration = item.declaration := by
  obtain ⟨name_eq, typeOffset_eq, -, address_eq, -⟩ :=
    Resolution.declared_resolve types (context.limits types) 0 item
  rw [Variable.declaration, resolved, name_eq, typeOffset_eq, address_eq, Variable.declaration]

/-- The global variables of a built unit are those that its entries contribute, with their
types resolved. -/
theorem exists_contributed_of_build {context : BuildContext} {source : UnitSource}
    {unit : CompilationUnit} (built : (context.build source).outcome = .ok unit) :
    ∃ rows, unit.globals =
      (source.children.filterMap fun entry =>
        (Extraction.contributionOf source.byteOrder source.offset rows entry).global?).map
          (context.resolved unit.types) := by
  obtain ⟨top, headed, fetched, described, rfl⟩ := stages_of_build built
  have bare := isBare_of_header described
  have children_eq : source.children = top.children.items := by
    rw [UnitSource.children, fetched]
  refine ⟨(withTable source headed.1).rows, ?_⟩
  simp only [resolvedUnit, CompilationUnit.globals_bindLines, globals_foldl_absorb,
    CompilationUnit.globals_withTable, CompilationUnit.offset_withTable, bare.globals,
    List.nil_append, offset_of_header described, children_eq]

/-- The global variables of a built unit are those that its source declares. -/
theorem globals_of_build {context : BuildContext} {source : UnitSource} {unit : CompilationUnit}
    (built : (context.build source).outcome = .ok unit) :
    unit.globals.map Variable.declaration = source.declaredGlobals := by
  obtain ⟨rows, globals_eq⟩ := exists_contributed_of_build built
  rw [globals_eq, List.map_map]
  simp only [Function.comp_def, declaration_resolved, List.map_filterMap,
    Extraction.declaration_contributionOf, UnitSource.declaredGlobals]

end BuildContext

namespace Database

/-- The global variables that the units of a source declare, in the order of the units. -/
def declaredGlobals (source : Feed UnitSource) : List Declaration :=
  source.items.flatMap UnitSource.declaredGlobals

variable {context : BuildContext} {source : Feed UnitSource} {elapsed : String}
  {database : Database}

theorem globals_of_ingest
    (ingested : (ingest context source elapsed).outcome = .ok database) :
    database.globals.map Variable.declaration = declaredGlobals source := by
  obtain ⟨-, units, rfl, builtAll⟩ := outcome_ingest_eq_ok_iff.mp ingested
  have declared := Report.map_eq_map_of_outcome_each
    (fun _ _ built => BuildContext.globals_of_build (outcome_buildUnit_eq_ok_iff.mp built)) builtAll
  rw [ofUnits, declaredGlobals, List.map_flatMap, List.flatMap_def, List.flatMap_def, declared]

/-- The global variables of a database are counted from one, across its units.  Each index
up to their number gives the one that is declared at that place, and any other index
none. -/
theorem nthVariableFor?_of_ingest
    (ingested : (ingest context source elapsed).outcome = .ok database) :
    (∀ position : Nat, (database.nthVariableFor? .null (.int (position + 1))).map
        (Option.map Variable.declaration) = .ok (declaredGlobals source)[position]?) ∧
      (∀ index : Int, index < 1 ∨ (declaredGlobals source).length < index →
        database.nthVariableFor? .null (.int index) = .ok none) ∧
        (database.variablesFor .null).map List.length = .ok (declaredGlobals source).length ∧
          (database.variablesFor (.int 0)).map List.length =
            .ok (declaredGlobals source).length := by
  have declared := globals_of_ingest ingested
  have counted : database.globals.length = (declaredGlobals source).length := by
    rw [← declared, List.length_map]
  refine ⟨?_, ?_, congrArg Except.ok counted, congrArg Except.ok counted⟩
  · intro position
    have onward : ¬ ((position : Int) + 1 < 1) := by omega
    rw [nthVariableFor?_null, nth?, if_neg onward, ← declared, List.getElem?_map,
      Int.add_sub_cancel, Int.toNat_natCast]
    rfl
  · intro index outside
    rw [nthVariableFor?_null, nth?_eq_none_iff.mpr (counted ▸ outside)]

/-- A variable with an absolute address as its location. -/
def variableEntry (name : String) (form : Option String) (operand : List UInt8) : Entry where
  tag := .variableObject
  offset := 0x40
  attributes :=
    [(AttributeName.name, some (.ofText "DW_FORM_string" name)),
      (AttributeName.location, some (.ofBytes form (Extraction.addressOpcode :: operand)))]
  children := ⟨[], none⟩

def variableSource (entries : List Entry) : UnitSource where
  top := .ok
    { tag := .other (some "DW_TAG_partial_unit")
      offset := 11
      attributes := []
      children := ⟨entries, none⟩ }

/-- A variable at address zero, one at another address, and one without a name. -/
def counterSource : UnitSource :=
  variableSource
    [variableEntry "ready" (some "DW_FORM_exprloc") [0, 0, 0, 0],
      variableEntry "counter" (some "DW_FORM_exprloc") [0, 0, 0x20, 0],
      variableEntry "" (some "DW_FORM_exprloc") [0, 0, 0x20, 4]]

theorem nthVariableFor?_counterSource :
    ∃ database,
      (ingest { files := {}, settings := {} } ⟨[counterSource], none⟩ "0.000s").outcome =
          .ok database ∧
        (database.nthVariableFor? .null (.int 1)).map (Option.map Variable.declaration) =
            .ok (some ⟨some "counter", 0, 0x2000⟩) ∧
          database.nthVariableFor? .null (.int 2) = .ok none := by
  have succeeds : (ingest { files := {}, settings := {} } ⟨[counterSource], none⟩
      "0.000s").outcome.isOk = true := by decide +kernel
  cases ingested : (ingest { files := {}, settings := {} } ⟨[counterSource], none⟩
      "0.000s").outcome with
  | error failure =>
      rw [ingested] at succeeds
      cases succeeds
  | ok database =>
      have globals := nthVariableFor?_of_ingest ingested
      exact ⟨database, rfl, globals.1 0, globals.2.1 2 (by decide)⟩

/-- A variable whose location comes without a form. -/
def formlessSource : UnitSource :=
  variableSource [variableEntry "plain" none [0, 0, 0x20, 0]]

/-- A location counts that is not said to be a block. -/
theorem variablesFor_formlessSource :
    (∀ entry ∈ formlessSource.children,
        entry.formClass? AttributeName.location ≠ some .block) ∧
      ((ingest { files := {}, settings := {} } ⟨[formlessSource], none⟩
        "0.000s").outcome.toOption.map fun database =>
          ((database.variablesFor .null).map List.length).toOption) = some (some 1) := by
  refine ⟨?_, by decide +kernel⟩
  intro entry member
  obtain rfl := List.mem_singleton.mp member
  decide

end Database
end DebugIndex
