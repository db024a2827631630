import DebugIndex.Database.Argument

/-!
# Whole arguments

A query that is put with whole numbers is answered, and its answer is that of the query
for addresses and indices.
-/

namespace DebugIndex

theorem nth?_eq_none_iff {α : Type} {items : List α} {index : Int} :
    nth? items index = none ↔ index < 1 ∨ items.length < index := by
  simp only [nth?]
  split
  case isTrue before => simp only [before, true_or]
  case isFalse =>
    rw [List.getElem?_eq_none_iff]
    omega

namespace Database

/-- A whole number is an index counted from one if it is neither below one nor above the
count. -/
theorem ordinalAmong?_int (count : Nat) (index : Int) :
    ordinalAmong? count (.int index) =
      .ok (if index < 1 ∨ count < index then none else some index) := by
  have outside : (((Value.int index).order? 1 = some .lt) ∨
      (Value.int index).order? count = some .gt) ↔ index < 1 ∨ count < index := by
    simp only [Value.order?, Value.whole?, Option.map_some, Option.some.injEq, Int.compare_eq_lt,
      Int.compare_eq_gt]
  simp only [ordinalAmong?, index?, Value.isNumber, Bool.not_true, Bool.false_eq_true, if_false,
    Bool.or_eq_true, decide_eq_true_eq, outside]
  split <;> rfl

/-- What is found at an index, but nowhere outside of a count, is found with a whole number
as the index. -/
theorem ordinalAmong?_map_bind {α : Type} {count : Nat} {find : Int → Option α}
    (absent : ∀ index : Int, index < 1 ∨ count < index → find index = none) (index : Int) :
    ((ordinalAmong? count (.int index)).map fun number => number.bind find) =
      .ok (find index) := by
  rw [ordinalAmong?_int]
  split
  case isTrue outside =>
    rw [absent index outside]
    rfl
  case isFalse => rfl

variable (database : Database)

theorem functionLineTextFor?_int (address line : Int) :
    database.functionLineTextFor? (.int address) (.int line) =
      .ok (database.functionLineText? address line) := rfl

theorem unitLineTextFor?_int (address line : Int) :
    database.unitLineTextFor? (.int address) (.int line) =
      .ok (database.unitLineText? address line) := by
  have pointed : database.position (.int address) = .ok (.exactly address) := rfl
  rw [unitLineTextFor?, pointed, unitLineText?]
  simp only [Except.bind, Position.floor?, Option.bind_some]
  cases database.unitAt? address with
  | none => rfl
  | some unit =>
      refine ordinalAmong?_map_bind (fun index outside => ?_) line
      rw [CompilationUnit.lineText?, nth?_eq_none_iff.mpr outside, Option.join_none]

/-- The variables of a scope that is a whole number are those at the address. -/
theorem variablesFor_int (address : Int) :
    database.variablesFor (.int address) = .ok (database.variablesIn (some address)) := by
  have pointed : database.position (.int address) = .ok (.exactly address) := rfl
  by_cases zero : address = 0
  · subst zero
    rfl
  · have counts : (Value.int address).truthy = true := by
      simp [Value.truthy, zero]
    simp only [variablesFor, counts, if_true, pointed, variablesIn, zero, if_false]
    rfl

theorem nthVariableFor?_null (index : Int) :
    database.nthVariableFor? .null (.int index) = .ok (nth? database.globals index) :=
  ordinalAmong?_map_bind (fun _ outside => nth?_eq_none_iff.mpr outside) index

end Database
end DebugIndex
