import DebugIndex.Proofs.CompilationUnit.HostIndependence

/-!
# Functions and their entries

The functions of a built unit are those that the children of its top entry describe, one for
each entry of a function whose own children can be read to the end, in the order of the
entries.  Name, addresses and variables of a function are those that its entry gives; only
the types of the variables are resolved afterwards.
-/

namespace DebugIndex

namespace Extraction

/-- Whether an entry describes a function: it has to be read to the end. -/
def describesFunction (entry : Entry) : Bool :=
  entry.tag = .subprogram && entry.children.fault.isNone

/-- The variables and parameters among the children of an entry. -/
def localEntries (entry : Entry) : List Entry :=
  entry.children.items.filter fun child => child.tag.isLocal

/-- The function that an entry describes, as far as the entry alone tells. -/
def functionOf (unitOffset : Int) (entry : Entry) : Subprogram where
  name := entry.string? AttributeName.name
  low := entry.addresses.1
  high := entry.addresses.2
  declarationLine := entry.unsigned AttributeName.declarationLine
  frameBase := frameBaseOf entry
  locals := (localEntries entry).map (localOf unitOffset)

/-- Without a line table an entry contributes the function that it describes. -/
theorem subprogram?_contributionOf_nil (byteOrder : Option ByteOrder) (unitOffset : Int)
    (entry : Entry) :
    (contributionOf byteOrder unitOffset [] entry).subprogram? =
      if describesFunction entry then some (functionOf unitOffset entry) else none := by
  rw [subprogram?_contributionOf]
  simp only [describesFunction, Bool.and_eq_true, decide_eq_true_eq]
  by_cases isFunction : entry.tag = .subprogram
  · simp only [isFunction, if_true, true_and, subprogramOf]
    cases entry.children.fault <;> rfl
  · simp only [isFunction, if_false, false_and]

end Extraction

namespace UnitSource

def functionEntries (source : UnitSource) : List Entry :=
  source.children.filter Extraction.describesFunction

theorem offset_outline (source : UnitSource) (top : Entry) :
    (source.outline top).extracted.offset = source.offset := by
  simp only [outline]
  split <;> rfl

theorem isBare_outline (source : UnitSource) (top : Entry) :
    BuildContext.IsBare (source.outline top).extracted := by
  simp only [outline]
  split <;> exact ⟨rfl, rfl, rfl, rfl, rfl, rfl⟩

end UnitSource

namespace BuildContext

open Extraction

theorem subprograms_extraction {context : BuildContext} {source : UnitSource} {top : Entry}
    (fetched : source.top = .ok top) :
    (context.extraction source).subprograms =
      source.functionEntries.map fun entry =>
        context.resolvedSubprogram (context.extraction source).types
          (functionOf source.offset entry) := by
  have bare : IsBare (source.outline top).extracted := source.isBare_outline top
  simp only [extraction, fetched, resolvedUnit, subprograms_foldl_absorb, bare.subprograms,
    bare.rows, source.offset_outline, List.nil_append, subprogram?_contributionOf_nil,
    UnitSource.functionEntries]
  rw [← List.filterMap_filter, ← Function.comp_def some, List.filterMap_eq_map, List.map_map]
  rfl

/-- Up to their lines, the functions of a built unit are those that its entries describe,
with the types of their variables resolved. -/
theorem subprograms_of_build {context : BuildContext} {source : UnitSource}
    {unit : CompilationUnit} (built : (context.build source).outcome = .ok unit) :
    unit.subprograms.map Subprogram.withoutLines =
      source.functionEntries.map fun entry =>
        context.resolvedSubprogram unit.types (functionOf source.offset entry) := by
  obtain ⟨top, -, fetched, -⟩ := stages_of_build built
  have extracted := extracted_of_build built
  have sameTypes : unit.extracted.types = (context.extraction source).types := by
    rw [extracted]
  have sameFunctions : unit.extracted.subprograms = (context.extraction source).subprograms := by
    rw [extracted]
  rw [subprograms_extraction fetched, ← sameTypes] at sameFunctions
  exact sameFunctions

end BuildContext
end DebugIndex
