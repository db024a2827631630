import Mathlib.Data.List.Forall2
import DebugIndex.Proofs.CompilationUnit.Types
import DebugIndex.Proofs.Database.DisjointRanges
import DebugIndex.Proofs.Database.Globals
import DebugIndex.Proofs.Entry.Numbers
import DebugIndex.Proofs.TypeTable.Origins

/-!
# Numbers of a unit and their entries

Each number that a built unit holds is given by an attribute of one of its entries: the language
and the range of the unit itself, the sizes and encodings of its types, and the ranges and
declaration lines of its functions.  So each of them is the plain number of the attribute,
exactly unless this refers to another entry and the reference is misread.  The sizes and
encodings of variables are those of types on their chains, whence a misread reference goes on
into every variable whose chain settles on it.
-/

namespace DebugIndex

open Extraction Resolution

/-- A type with the numbers that an entry gives. -/
structure TypeEntry.NumberedBy (described : TypeEntry) (entry : Entry) : Prop where
  byteSize : entry.Gives AttributeName.byteSize described.byteSize
  encoding : entry.Gives AttributeName.encoding described.encoding

/-- A function with the numbers that an entry gives. -/
structure Subprogram.NumberedBy (subprogram : Subprogram) (entry : Entry) : Prop where
  range : entry.GivesRange subprogram.low subprogram.high
  declarationLine : entry.Gives AttributeName.declarationLine subprogram.declarationLine

/-- A variable whose size and encoding come from no entry, or are given by entries of types on
its chain. -/
structure Variable.NumberedBy (item : Variable) (source : UnitSource) (table : TypeTable)
    (limits : Limits) : Prop where
  settled : item.SettledBy table limits
  byteSize : item.byteSize = 0 ∨
    ∃ entry ∈ source.typeEntries, describedType source.offset entry ∈
        visitedEntries table limits item ∧ entry.Gives AttributeName.byteSize item.byteSize
  encoding : item.encoding ∈ [0, signedEncoding, pointerEncoding] ∨
    ∃ entry ∈ source.typeEntries, describedType source.offset entry ∈
        visitedEntries table limits item ∧ entry.Gives AttributeName.encoding item.encoding

/-- A variable of a unit: a global one, a variable or parameter of a function, or one in the
member tree of these. -/
def CompilationUnit.Holds (unit : CompilationUnit) (item : Variable) : Prop :=
  ∃ root ∈ unit.globals ++ unit.subprograms.flatMap Subprogram.locals,
    item = root ∨ ∃ levels, Variable.IsBelow levels item root

/-- A unit whose numbers are those that the entries of a source give.  Only whole compilation
units have a language, and a range other than that of their rows. -/
structure CompilationUnit.NumberedBy (unit : CompilationUnit) (source : UnitSource)
    (limits : Limits) (top : Entry) : Prop where
  language : if top.tag = .compileUnit then top.Gives AttributeName.language unit.language
    else unit.language = 0
  ownRange : if top.tag = .compileUnit then top.GivesRange source.ownRange.1 source.ownRange.2
    else source.ownRange = (0, 0)
  range : unit.range =
    if source.isUnbounded then unit.rowRange?.getD source.ownRange else source.ownRange
  types : List.Forall₂ TypeEntry.NumberedBy unit.types.entries source.typeEntries
  functions : List.Forall₂ Subprogram.NumberedBy unit.subprograms source.functionEntries
  held : ∀ item, unit.Holds item → item.NumberedBy source unit.types limits

namespace Extraction

theorem numberedBy_describedType (unitOffset : Int) (entry : Entry) :
    (describedType unitOffset entry).NumberedBy entry :=
  ⟨Entry.gives_unsigned entry _, Entry.gives_unsigned entry _⟩

/-- The numbers of a function have nothing to do with its lines and its variables. -/
theorem numberedBy_of_withoutLines {context : BuildContext} {types : TypeTable}
    {unitOffset : Int} {subprogram : Subprogram} {entry : Entry}
    (described : subprogram.withoutLines =
      context.resolvedSubprogram types (functionOf unitOffset entry)) :
    subprogram.NumberedBy entry := by
  have numbered : (context.resolvedSubprogram types (functionOf unitOffset entry)).NumberedBy
      entry := ⟨Entry.givesRange_addresses entry, Entry.gives_unsigned entry _⟩
  rw [← described] at numbered
  exact ⟨numbered.range, numbered.declarationLine⟩

/-- Nothing is known about the size of a global variable before its type is resolved. -/
theorem unsized_of_contributionOf {byteOrder : Option ByteOrder} {unitOffset : Int}
    {rows : List LineRow} {entry : Entry} {item : Variable}
    (contributed : (contributionOf byteOrder unitOffset rows entry).global? = some item) :
    item.byteSize = 0 ∧ item.encoding = 0 := by
  obtain ⟨address, -, -, rfl⟩ := exists_address_of_contributionOf contributed
  exact ⟨rfl, rfl⟩

theorem unsized_localOf (unitOffset : Int) (entry : Entry) :
    (localOf unitOffset entry).byteSize = 0 ∧ (localOf unitOffset entry).encoding = 0 := by
  simp only [localOf]
  split <;> exact ⟨rfl, rfl⟩

end Extraction

/-- What is settled for a variable is given by the entries that the types of a table come
from. -/
theorem Variable.SettledBy.numberedBy {item : Variable} {table : TypeTable} {limits : Limits}
    (settled : item.SettledBy table limits) {source : UnitSource}
    (described : table.entries = source.typeEntries.map (describedType source.offset)) :
    item.NumberedBy source table limits := by
  have given {visited : TypeEntry} (isVisited : visited ∈ visitedEntries table limits item) :
      ∃ entry ∈ source.typeEntries, describedType source.offset entry = visited :=
    List.mem_map.mp (described ▸ TypeTable.mem_of_firstEntries isVisited)
  refine ⟨settled, ?_, ?_⟩
  · refine settled.byteSize_origin.imp_right ?_
    rintro ⟨visited, isVisited, own⟩
    obtain ⟨entry, listed, rfl⟩ := given isVisited
    exact ⟨entry, listed, isVisited, own ▸ (numberedBy_describedType _ entry).byteSize⟩
  · refine settled.encoding_origin.imp_right ?_
    rintro ⟨visited, isVisited, own⟩
    obtain ⟨entry, listed, rfl⟩ := given isVisited
    exact ⟨entry, listed, isVisited, own ▸ (numberedBy_describedType _ entry).encoding⟩

namespace BuildContext

variable {context : BuildContext} {source : UnitSource} {unit : CompilationUnit}

theorem language_of_build {top : Entry} (fetched : source.top = .ok top)
    (built : (context.build source).outcome = .ok unit) :
    unit.language = (source.outline top).language := by
  have kept : (source.children.foldl (absorb source.byteOrder)
      (source.outline top).extracted).language = (source.outline top).language := by
    refine kept_foldl_absorb (fun unit contribution => ?_) (fun _ _ => rfl) _ _ _
    cases contribution <;> rfl
  have extracted := congrArg CompilationUnit.language (extracted_of_build built)
  simp only [extraction, fetched] at extracted
  exact extracted.trans kept

/-- Each variable of a unit is what a variable without a size was resolved to. -/
theorem exists_unsized_of_build (built : (context.build source).outcome = .ok unit)
    {root : Variable} (listed : root ∈ unit.globals ++ unit.subprograms.flatMap Subprogram.locals) :
    ∃ item : Variable, (item.byteSize = 0 ∧ item.encoding = 0) ∧
      root = context.resolved unit.types item := by
  rcases List.mem_append.mp listed with ofGlobals | ofLocals
  · obtain ⟨rows, globals_eq⟩ := exists_contributed_of_build built
    rw [globals_eq] at ofGlobals
    obtain ⟨item, contributed, rfl⟩ := List.mem_map.mp ofGlobals
    obtain ⟨entry, -, fromEntry⟩ := List.mem_filterMap.mp contributed
    exact ⟨item, unsized_of_contributionOf fromEntry, rfl⟩
  · obtain ⟨subprogram, member, isLocal⟩ := List.mem_flatMap.mp ofLocals
    have without : subprogram.withoutLines ∈ unit.subprograms.map Subprogram.withoutLines :=
      List.mem_map_of_mem member
    rw [subprograms_of_build built] at without
    obtain ⟨entry, -, described⟩ := List.mem_map.mp without
    have locals_eq : subprogram.locals =
        ((localEntries entry).map (localOf source.offset)).map (context.resolved unit.types) :=
      (congrArg Subprogram.locals described).symm
    rw [locals_eq] at isLocal
    obtain ⟨item, fromEntry, rfl⟩ := List.mem_map.mp isLocal
    obtain ⟨child, -, rfl⟩ := List.mem_map.mp fromEntry
    exact ⟨localOf source.offset child, unsized_localOf source.offset child, rfl⟩

theorem settledBy_of_build (built : (context.build source).outcome = .ok unit) {item : Variable}
    (held : unit.Holds item) : item.SettledBy unit.types (context.limits unit.types) := by
  obtain ⟨root, listed, isRoot | ⟨levels, below⟩⟩ := held
  · obtain ⟨declared, unsized, rfl⟩ := exists_unsized_of_build built listed
    rw [isRoot]
    exact settledBy_resolve unsized.1 unsized.2
  · obtain ⟨declared, -, rfl⟩ := exists_unsized_of_build built listed
    exact settledBy_of_isBelow below

/-- Every number of a built unit is given by the entry that it is about: plainly, exactly unless
a reference is misread, and then it is that reference.  From the types, misread references go on
into the variables, and into their member trees. -/
theorem numbers_of_build (built : (context.build source).outcome = .ok unit) :
    ∃ top, source.top = .ok top ∧
      unit.NumberedBy source (context.limits unit.types) top := by
  obtain ⟨top, -, fetched, -⟩ := stages_of_build built
  refine ⟨top, fetched, ?_⟩
  have described := types_of_build built
  constructor
  case language =>
    rw [language_of_build fetched built, UnitSource.outline]
    split
    · exact Entry.gives_unsigned top _
    · rfl
  case ownRange =>
    rw [UnitSource.ownRange, fetched]
    split
    case isTrue whole =>
      simp only [whole, if_true]
      exact Entry.givesRange_addresses top
    case isFalse partly => simp only [partly, if_false]
  case range => exact CompilationUnit.range_of_build built
  case types =>
    rw [described, List.forall₂_map_left_iff, List.forall₂_same]
    exact fun entry _ => numberedBy_describedType source.offset entry
  case functions =>
    have functions := subprograms_of_build built
    rw [← List.forall₂_eq_eq_eq, List.forall₂_map_left_iff, List.forall₂_map_right_iff] at functions
    exact functions.imp fun _ _ => numberedBy_of_withoutLines
  case held => exact fun item held => (settledBy_of_build built held).numberedBy described

/-! ### A unit with references where numbers should be -/

open Database

/-- An attribute that refers to another entry of its unit. -/
def referring (name : String) (target : Int) : String × Option Attribute :=
  (name, some (.ofInt "DW_FORM_ref4" target))

def referringType : Entry where
  tag := .baseType
  offset := 0x30
  attributes :=
    [(AttributeName.name, some (.ofText "DW_FORM_string" "int")),
      referring AttributeName.byteSize 0x40, referring AttributeName.encoding 0x48]
  children := ⟨[], none⟩

def referringVariable : Entry :=
  let plain := variableEntry "counter" (some "DW_FORM_exprloc") [0, 0, 0x20, 0]
  { plain with attributes := plain.attributes ++ [referring AttributeName.type 0x30] }

def referringFunction : Entry :=
  let plain := functionEntry "main" 0x1000 0x10
  { plain with attributes := plain.attributes ++ [referring AttributeName.declarationLine 0x30] }

def referringSource : UnitSource :=
  variableSource [referringType, referringVariable, referringFunction]

theorem exists_build_referringSource :
    ∃ unit, (vacantContext.build referringSource).outcome = .ok unit ∧
      ((unit.types.entries.map fun described => (described.byteSize, described.encoding)) =
          [(0x40, 0x48)] ∧
        (unit.globals.map fun item => (item.byteSize, item.encoding)) = [(0x40, 0x48)] ∧
          unit.subprograms.map Subprogram.declarationLine = [0x30]) := by
  have answers : (vacantContext.build referringSource).outcome.toOption.map (fun unit =>
      (unit.types.entries.map fun described => (described.byteSize, described.encoding),
        unit.globals.map fun item => (item.byteSize, item.encoding),
          unit.subprograms.map Subprogram.declarationLine)) =
      some ([(0x40, 0x48)], [(0x40, 0x48)], [0x30]) := by decide +kernel
  obtain ⟨unit, built, answered⟩ := Report.exists_ok_of_answer answers
  simp only [Prod.mk.injEq] at answered
  exact ⟨unit, built, answered⟩

theorem numbers_referringSource :
    ∃ unit, (vacantContext.build referringSource).outcome = .ok unit ∧
      (∃ described, unit.types.entries = [described] ∧
        referringType.Misreads AttributeName.byteSize 0x40 ∧ described.byteSize = 0x40) ∧
      ∃ subprogram, unit.subprograms = [subprogram] ∧
        (∀ target, ¬ referringFunction.Misreads AttributeName.lowAddress target) ∧
          subprogram.low = referringFunction.plainNumber AttributeName.lowAddress := by
  have misreadSize : referringType.Misreads AttributeName.byteSize 0x40 :=
    ⟨by decide, rfl, by decide⟩
  have plainLow (target : Nat) : ¬ referringFunction.Misreads AttributeName.lowAddress target :=
    fun misread => absurd misread.refers (by decide)
  obtain ⟨unit, built, -⟩ := exists_build_referringSource
  obtain ⟨top, -, numbered⟩ := numbers_of_build built
  obtain ⟨described, noTypes, ofType, endOfTypes, types⟩ :=
    List.forall₂_cons_right_iff.mp numbered.types
  obtain ⟨subprogram, noFunctions, ofFunction, endOfFunctions, functions⟩ :=
    List.forall₂_cons_right_iff.mp numbered.functions
  obtain rfl := List.forall₂_nil_right_iff.mp endOfTypes
  obtain rfl := List.forall₂_nil_right_iff.mp endOfFunctions
  exact ⟨unit, built, ⟨described, types, misreadSize, ofType.byteSize.eq_target _ misreadSize⟩,
    subprogram, functions, plainLow, ofFunction.range.givesLow.eq_plainNumber_iff.mpr plainLow⟩

/-- The references are taken for the size and the encoding of the type, and of the variable. -/
theorem misreads_referringSource :
    referringType.refers AttributeName.byteSize = true ∧
      referringType.refers AttributeName.encoding = true ∧
        referringFunction.refers AttributeName.declarationLine = true ∧
      ∃ unit, (vacantContext.build referringSource).outcome = .ok unit ∧
        (unit.types.entries.map fun described => (described.byteSize, described.encoding)) =
            [(0x40, 0x48)] ∧
          (unit.globals.map fun item => (item.byteSize, item.encoding)) = [(0x40, 0x48)] ∧
            unit.subprograms.map Subprogram.declarationLine = [0x30] :=
  ⟨by decide, by decide, by decide, exists_build_referringSource⟩

end BuildContext
end DebugIndex
