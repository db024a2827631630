import DebugIndex.Settings.Interpreter
import DebugIndex.Settings.Nesting
import DebugIndex.Text.Identifier
import DebugIndex.Text.Name.Lookup

/-!
# The interpreter of the program

The program brings an interpreter of its own along, for a part of the language: assignments, hints
and the items of lists and maps, with all names that Unicode gives.  Operators, calls and whatever
else the language has make no sense to it.
-/

namespace DebugIndex

def Lexicon.unicode : Lexicon where
  point? := Text.Name.point?
  isName := Text.isIdentifier
  normalize := Text.normalize

namespace Interpreter

/-- The name of the map that holds the predefined names.  If the map of a file has this
name, no name is predefined. -/
def predefinedName : String := "__builtins__"

/-- What a name stands for that a file with a map of a name does not assign. -/
def predefined (mapName name : String) : Option Value :=
  if mapName = predefinedName then none else Predefined.value? name

/-- The most brackets that the program's interpreter takes. -/
def standardBrackets : Nat := 200

/-- The statements of a file, none of which is nested too deep. -/
def statements? (characters : List Char) : Option (List Statement) := do
  let scan ← Token.scan? .unicode characters
  if scan.openBrackets ≠ 0 ∨ standardBrackets < Token.deepest 0 scan.tokens then none
  else
    let statements ← Grammar.statements scan.tokens
    if statements.all (·.fits .measured) then some statements else none

/-- Carry out a file as far as its language is known. -/
def carryOut (mapName : String) (characters : List Char) : Execution :=
  match (statements? characters).bind (Evaluation.run? (predefined mapName) mapName) with
  | some assigned => .bound assigned
  | none => .failed

end Interpreter

/-! ## Room for literals -/

namespace Expression

theorem itemsReach_cons {single : Expression} (literal : single.isLiteral = true)
    (limits : NestingLimits) (first second others : Nat) (more : List Expression) :
    itemsReach limits first second others (single :: more) =
      max (single.reach limits + first) (itemsReach limits second others others more) := by
  cases single with
  | star inner => cases literal
  | _ => rfl

theorem itemsReach_le_succ {items : List Expression} (literal : areLiteral items = true)
    (limits : NestingLimits) {first second others nextFirst nextSecond nextOthers : Nat}
    (firstLe : first ≤ nextFirst + 1) (secondLe : second ≤ nextSecond + 1)
    (othersLe : others ≤ nextOthers + 1) :
    itemsReach limits first second others items ≤
      itemsReach limits nextFirst nextSecond nextOthers items + 1 := by
  induction items generalizing first second nextFirst nextSecond with
  | nil => simp [itemsReach]
  | cons single rest ih =>
      obtain ⟨literalFirst, literalRest⟩ := Bool.and_eq_true_iff.mp literal
      have behind := ih literalRest secondLe othersLe
      rw [itemsReach_cons literalFirst, itemsReach_cons literalFirst]
      omega

/-- A parenthesis reaches as far around a tuple as around anything else, or one level farther. -/
theorem reach_group_le (inner : Expression) (literal : inner.isLiteral = true) :
    reach .measured (.group inner) ≤ inner.reach .measured + 29 := by
  cases inner with
  | tuple items =>
      have bounded := itemsReach_le_succ literal .measured (by decide : 0 ≤ 0 + 1)
        (by decide : 2 ≤ 2 + 1) (by decide : 3 ≤ 2 + 1)
      simp only [reach, NestingLimits.measured] at bounded ⊢
      omega
  | _ => simp [reach, NestingLimits.measured]

mutual

/-- The measured reach of a literal is bounded by its depth: no phrase takes more than thirty
levels. -/
theorem reach_le : ∀ value : Expression, value.isLiteral = true →
    value.reach .measured ≤ 30 * value.depth + 2
  | .constant value, _ => by
      simp only [reach, NestingLimits.measured]
      split <;> omega
  | .name _, _ => by simp [reach]
  | .group inner, literal => by
      have bounded := reach_le inner literal
      have around := reach_group_le inner literal
      rw [depth]
      omega
  | .sign _ inner, literal => by
      have bounded := reach_le inner literal
      simp only [reach, depth]
      omega
  | .list items, literal => by
      have bounded := itemsReach_le items literal (by decide : 29 ≤ 30) (by decide : 30 ≤ 30)
        (by decide : 30 ≤ 30)
      simp only [reach, depth, NestingLimits.measured] at bounded ⊢
      omega
  | .tuple items, literal => by
      have bounded := itemsReach_le items literal (by decide : 0 ≤ 30) (by decide : 2 ≤ 30)
        (by decide : 2 ≤ 30)
      simp only [reach, depth, NestingLimits.measured] at bounded ⊢
      omega
  | .map entries, literal => by
      have bounded := entriesReach_le entries literal (by decide : 29 ≤ 30)
      simp only [reach, depth, NestingLimits.measured] at bounded ⊢
      omega

theorem itemsReach_le : ∀ items : List Expression, areLiteral items = true →
    ∀ {first second others : Nat}, first ≤ 30 → second ≤ 30 → others ≤ 30 →
      itemsReach .measured first second others items ≤ 30 * itemsDepth items + 32
  | [], _, _, _, _, _, _, _ => by simp [itemsReach]
  | single :: more, literal, first, second, others, firstLe, secondLe, othersLe => by
      obtain ⟨literalFirst, literalMore⟩ := Bool.and_eq_true_iff.mp literal
      have boundedFirst := reach_le single literalFirst
      have boundedMore := itemsReach_le more literalMore secondLe othersLe othersLe
      rw [itemsReach_cons literalFirst, itemsDepth]
      omega

theorem entriesReach_le : ∀ entries : List (Option Expression × Expression),
    haveLiteral entries = true → ∀ {first : Nat}, first ≤ 30 →
      entriesReach .measured first entries ≤ 30 * entriesDepth entries + 32
  | [], _, _, _ => by simp [entriesReach]
  | (some key, content) :: more, literal, first, firstLe => by
      obtain ⟨literalEntry, literalMore⟩ := Bool.and_eq_true_iff.mp literal
      obtain ⟨literalKey, literalContent⟩ := Bool.and_eq_true_iff.mp literalEntry
      have boundedKey := reach_le key literalKey
      have boundedContent := reach_le content literalContent
      have boundedMore := entriesReach_le more literalMore (by decide : 30 ≤ 30)
      simp only [entriesReach, entriesDepth, NestingLimits.measured] at *
      omega

end

mutual

theorem height_le : ∀ value : Expression, value.isLiteral = true → value.height ≤ value.depth + 1
  | .constant _, _ | .name _, _ => by simp [height]
  | .group inner, literal => by
      have bounded := height_le inner literal
      simp only [height, depth]
      omega
  | .sign _ inner, literal => by
      have bounded := height_le inner literal
      simp only [height, depth]
      omega
  | .list items, literal | .tuple items, literal => by
      have bounded := itemsHeight_le items literal
      simp only [height, depth]
      omega
  | .map entries, literal => by
      have bounded := entriesHeight_le entries literal
      simp only [height, depth]
      omega

theorem itemsHeight_le : ∀ items : List Expression, areLiteral items = true →
    itemsHeight items ≤ itemsDepth items + 1
  | [], _ => by simp [itemsHeight]
  | single :: more, literal => by
      obtain ⟨literalFirst, literalMore⟩ := Bool.and_eq_true_iff.mp literal
      have boundedFirst := height_le single literalFirst
      have boundedMore := itemsHeight_le more literalMore
      simp only [itemsHeight, itemsDepth]
      omega

theorem entriesHeight_le : ∀ entries : List (Option Expression × Expression),
    haveLiteral entries = true → entriesHeight entries ≤ entriesDepth entries + 1
  | [], _ => by simp [entriesHeight]
  | (some key, content) :: more, literal => by
      obtain ⟨literalEntry, literalMore⟩ := Bool.and_eq_true_iff.mp literal
      obtain ⟨literalKey, literalContent⟩ := Bool.and_eq_true_iff.mp literalEntry
      have boundedKey := height_le key literalKey
      have boundedContent := height_le content literalContent
      have boundedMore := entriesHeight_le more literalMore
      simp only [entriesHeight, entriesDepth]
      omega

end

theorem fits_of_depth_le {value : Expression} (literal : value.isLiteral = true)
    (shallow : value.depth ≤ 101) :
    value.fits .measured (value.valueReach .measured) = true := by
  have reached := reach_le value literal
  have high := height_le value literal
  have far : 5967 ≤ value.valueReach .measured := by
    rw [valueReach]
    split <;> decide
  have most : NestingLimits.measured.mostHeight = 2981 := rfl
  rw [fits, Bool.and_eq_true, decide_eq_true_iff, decide_eq_true_iff]
  omega

end Expression

/-- The interpreter of the program.  Writing a value takes as many calls as it has levels, of which
a thousand can be under way, some of them before the writing begins. -/
def Interpreter.standard : Interpreter where
  mostBrackets := standardBrackets
  takes value := value.fits .measured (value.valueReach .measured)
  mostLevels := 980
  beyond := carryOut
  brackets_le := by decide
  takes_of_depth_le _ := Expression.fits_of_depth_le

end DebugIndex
