import DebugIndex.Database.Query
import DebugIndex.Proofs.CompilationUnit.RangeIndex

/-!
# Searching for the function at an address

The function at an address is looked for in the sorted ranges of the first unit that
contains the address.  That is the same as a plain search: through the units in their
order, and through the functions of the unit that is found in the order in which they
were added.
-/

namespace DebugIndex
namespace CompilationUnit

/-- A unit as it is before any function is added to it. -/
def withoutFunctions (unit : CompilationUnit) : CompilationUnit :=
  { unit with subprograms := [], ranges := [] }

theorem indexed_withoutFunctions (unit : CompilationUnit) : unit.withoutFunctions.Indexed :=
  IndexesFunctions.nil

/-- A unit that starts without functions and gets some, one after the other. -/
def filledWith (keep : CodeRange → List CodeRange → List CodeRange) (unit : CompilationUnit)
    (subprograms : List Subprogram) : CompilationUnit :=
  subprograms.foldl (addSubprogramWith keep) unit.withoutFunctions

section Filling

variable {keep : CodeRange → List CodeRange → List CodeRange}

theorem foldl_addSubprogramWith (keeps : CodeRange.KeepsSorted keep)
    (added : List Subprogram) {unit : CompilationUnit} (indexed : unit.Indexed) :
    (added.foldl (addSubprogramWith keep) unit).Indexed ∧
      (added.foldl (addSubprogramWith keep) unit).subprograms = unit.subprograms ++ added ∧
        ∀ address,
          (added.foldl (addSubprogramWith keep) unit).contains address =
            unit.contains address := by
  induction added generalizing unit with
  | nil => exact ⟨indexed, by simp, fun _ => rfl⟩
  | cons subprogram added ih =>
      obtain ⟨filledIndexed, functions, contains⟩ :=
        ih (indexed.addSubprogramWith keeps subprogram)
      refine ⟨filledIndexed, ?_, fun address => contains address⟩
      rw [List.foldl_cons, functions]
      simp [addSubprogramWith]

theorem indexed_filledWith (keeps : CodeRange.KeepsSorted keep) (unit : CompilationUnit)
    (subprograms : List Subprogram) : (unit.filledWith keep subprograms).Indexed :=
  (foldl_addSubprogramWith keeps subprograms unit.indexed_withoutFunctions).1

theorem subprograms_filledWith (keeps : CodeRange.KeepsSorted keep) (unit : CompilationUnit)
    (subprograms : List Subprogram) :
    (unit.filledWith keep subprograms).subprograms = subprograms :=
  (foldl_addSubprogramWith keeps subprograms unit.indexed_withoutFunctions).2.1

theorem contains_filledWith (keeps : CodeRange.KeepsSorted keep) (unit : CompilationUnit)
    (subprograms : List Subprogram) (address : Int) :
    (unit.filledWith keep subprograms).contains address = unit.contains address :=
  (foldl_addSubprogramWith keeps subprograms unit.indexed_withoutFunctions).2.2 address

theorem contains_comp_filledWith (keeps : CodeRange.KeepsSorted keep) (address : Int) :
    ((fun unit : CompilationUnit => unit.contains address) ∘
        fun run : CompilationUnit × List Subprogram => run.1.filledWith keep run.2) =
      fun run => run.1.contains address := by
  funext run
  exact contains_filledWith keeps run.1 run.2 address

end Filling
end CompilationUnit

namespace Database

open CompilationUnit

section Filling

variable {keep : CodeRange → List CodeRange → List CodeRange}

theorem unitAt?_filledWith (keeps : CodeRange.KeepsSorted keep)
    (runs : List (CompilationUnit × List Subprogram)) (address : Int) :
    (ofUnits (runs.map fun run => run.1.filledWith keep run.2)).unitAt? address =
      (runs.find? fun run => run.1.contains address).map fun run =>
        run.1.filledWith keep run.2 := by
  rw [unitAt?, ofUnits, List.find?_map, contains_comp_filledWith keeps]

theorem unitIndexAt?_filledWith (keeps : CodeRange.KeepsSorted keep)
    (runs : List (CompilationUnit × List Subprogram)) (address : Int) :
    (ofUnits (runs.map fun run => run.1.filledWith keep run.2)).unitIndexAt? address =
      runs.findIdx? fun run => run.1.contains address := by
  rw [unitIndexAt?, ofUnits, List.findIdx?_map, contains_comp_filledWith keeps]

end Filling

/-- The function at an address, for units whose functions were added one after the
other, is the one that a search through all of them in order comes to first. -/
theorem subprogramAt?_filledWith {keep : CodeRange → List CodeRange → List CodeRange}
    (keeps : CodeRange.KeepsSorted keep) (runs : List (CompilationUnit × List Subprogram))
    (address : Int) :
    (ofUnits (runs.map fun run => run.1.filledWith keep run.2)).subprogramAt? address =
        ((runs.find? fun run => run.1.contains address).bind fun run =>
          run.2.find? fun subprogram => subprogram.contains address) ∧
      (ofUnits (runs.map fun run => run.1.filledWith keep run.2)).subprogramIndexAt? address =
        ((runs.findIdx? fun run => run.1.contains address).bind fun index =>
          (runs[index]?.bind fun run =>
            run.2.findIdx? fun subprogram => subprogram.contains address).map (index, ·)) := by
  constructor
  · rw [Database.subprogramAt?, unitAt?_filledWith keeps, Option.bind_map]
    congr 1
    funext run
    rw [Function.comp_apply, (indexed_filledWith keeps run.1 run.2).subprogramAt?_eq,
      subprograms_filledWith keeps]
  · have positions : ∀ index : Nat,
        ((ofUnits (runs.map fun run => run.1.filledWith keep run.2)).units[index]?.bind
          fun unit => unit.positionAt? address) =
        runs[index]?.bind fun run =>
          run.2.findIdx? fun subprogram => subprogram.contains address := by
      intro index
      rw [ofUnits, List.getElem?_map, Option.bind_map]
      congr 1
      funext run
      rw [Function.comp_apply, (indexed_filledWith keeps run.1 run.2).positionAt?_eq,
        subprograms_filledWith keeps]
    rw [subprogramIndexAt?, unitIndexAt?_filledWith keeps]
    congr 1
    funext index
    rw [positions]

/-- A unit with a function nested in a later one, a twin of it and a function without
code, and behind it a unit that has the same addresses again. -/
def overlappingRuns : List (CompilationUnit × List Subprogram) :=
  [({ low := 0x1000, high := 0x2000 },
      [{ name := some "nested", low := 0x1010, high := 0x1020 },
        { name := some "whole", low := 0x1000, high := 0x1100 },
        { name := some "twin", low := 0x1010, high := 0x1020 },
        { name := some "declared", low := 0x1014, high := 0x1014 }]),
    ({ low := 0x1000, high := 0x3000 },
      [{ name := some "hidden", low := 0x1000, high := 0x3000 }])]

theorem subprogramAt?_overlappingRuns :
    CodeRange.KeepsSorted CodeRange.insert ∧
      ((ofUnits (overlappingRuns.map fun run =>
          run.1.filledWith CodeRange.insert run.2)).subprogramAt? 0x1014).bind
            Subprogram.name = some "nested" ∧
        (ofUnits (overlappingRuns.map fun run =>
          run.1.filledWith CodeRange.insert run.2)).subprogramIndexAt? 0x1030 = some (0, 1) ∧
          (ofUnits (overlappingRuns.map fun run =>
            run.1.filledWith CodeRange.insert run.2)).subprogramIndexAt? 0x1200 = none := by
  refine ⟨CodeRange.keepsSorted_insert, ?_, ?_, ?_⟩
  · rw [(subprogramAt?_filledWith CodeRange.keepsSorted_insert overlappingRuns 0x1014).1]
    rfl
  · rw [(subprogramAt?_filledWith CodeRange.keepsSorted_insert overlappingRuns 0x1030).2]
    rfl
  · rw [(subprogramAt?_filledWith CodeRange.keepsSorted_insert overlappingRuns 0x1200).2]
    rfl

end Database
end DebugIndex
