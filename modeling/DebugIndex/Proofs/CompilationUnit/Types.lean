import DebugIndex.Proofs.CompilationUnit.Functions

/-!
# Types and their entries

The type table of a built unit holds the types that the children of its top entry describe, one
for each entry of a type, in the order of the entries.  A struct or union is described only if
its own children can be read to the end.
-/

namespace DebugIndex

namespace Extraction

/-- Whether an entry describes a type: an aggregate has to be read to the end. -/
def describesType (entry : Entry) : Bool :=
  entry.tag.isType && (!entry.tag.isAggregate || entry.children.fault.isNone)

def memberEntries (entry : Entry) : List Entry :=
  entry.children.items.filter fun child => child.tag = .member

/-- The type that an entry describes, with its members if it is an aggregate. -/
def describedType (unitOffset : Int) (entry : Entry) : TypeEntry :=
  { plainTypeOf unitOffset entry with
    members :=
      if entry.tag.isAggregate then (memberEntries entry).map (memberOf unitOffset) else [] }

def Contribution.type? : Contribution → Option TypeEntry
  | .type entry => some entry
  | _ => none

variable {byteOrder : Option ByteOrder} {unitOffset : Int} {rows : List LineRow} {entry : Entry}

theorem type?_globalOf : (orNothing (globalOf byteOrder unitOffset entry)).type? = none :=
  pick_globalOf rfl (fun _ => rfl) fun _ => rfl

@[simp]
theorem type?_subprogramOf : (orNothing (subprogramOf unitOffset rows entry)).type? = none := by
  simp only [subprogramOf]
  cases entry.children.fault <;> rfl

theorem type?_typeOf :
    (orNothing (typeOf unitOffset entry)).type? =
      if !entry.tag.isAggregate || entry.children.fault.isNone then
        some (describedType unitOffset entry)
      else none := by
  simp only [typeOf, describedType]
  cases entry.tag.isAggregate with
  | false => rfl
  | true => cases entry.children.fault <;> rfl

theorem type?_contributionOf :
    (contributionOf byteOrder unitOffset rows entry).type? =
      if describesType entry then some (describedType unitOffset entry) else none := by
  simp only [contributionOf, outcomeOf, describesType]
  by_cases isVariable : entry.tag = .variableObject
  · simpa [isVariable, Tag.isType] using type?_globalOf
  · simp only [isVariable, if_false]
    by_cases isType : entry.tag.isType = true
    · simpa only [isType, if_true, Bool.true_and] using type?_typeOf
    · by_cases isFunction : entry.tag = .subprogram
      · simp [isFunction, Tag.isType]
      · simp [isType, isFunction, orNothing, Contribution.type?]

theorem types_contribute (unit : CompilationUnit) (contribution : Contribution) :
    (contribute unit contribution).types.entries =
      unit.types.entries ++ contribution.type?.toList := by
  cases contribution <;> simp [contribute, Contribution.type?, CompilationUnit.addGlobal,
    CompilationUnit.addType, TypeTable.add, CompilationUnit.addSubprogram,
    CompilationUnit.addSubprogramWith]

end Extraction

namespace UnitSource

def typeEntries (source : UnitSource) : List Entry :=
  source.children.filter Extraction.describesType

end UnitSource

namespace BuildContext

open Extraction

theorem types_foldl_absorb (byteOrder : Option ByteOrder) (entries : List Entry)
    (unit : CompilationUnit) :
    (entries.foldl (absorb byteOrder) unit).types.entries =
      unit.types.entries ++ entries.filterMap fun entry =>
        (contributionOf byteOrder unit.offset unit.rows entry).type? :=
  @field_foldl_absorb _ (fun unit => unit.types.entries) _ types_contribute (fun _ _ => rfl)
    byteOrder entries unit

theorem types_extraction {context : BuildContext} {source : UnitSource} {top : Entry}
    (fetched : source.top = .ok top) :
    (context.extraction source).types.entries =
      source.typeEntries.map (describedType source.offset) := by
  have noTypes : (source.outline top).extracted.types.entries = [] := by
    rw [(source.isBare_outline top).types]
  simp only [extraction, fetched, resolvedUnit, types_foldl_absorb, noTypes,
    source.offset_outline, List.nil_append, type?_contributionOf, UnitSource.typeEntries]
  rw [← List.filterMap_filter, ← Function.comp_def some, List.filterMap_eq_map]

theorem types_of_build {context : BuildContext} {source : UnitSource} {unit : CompilationUnit}
    (built : (context.build source).outcome = .ok unit) :
    unit.types.entries = source.typeEntries.map (describedType source.offset) := by
  obtain ⟨top, -, fetched, -⟩ := stages_of_build built
  rw [← types_extraction fetched, ← extracted_of_build built]
  rfl

end BuildContext
end DebugIndex
