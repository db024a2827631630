import DebugIndex.Proofs.Settings.QuotedText
import DebugIndex.Settings.File

/-!
# How values are spelled

A value that can be written is made of nothing, truth values, numbers and texts, in lists and
tuples.  It has one spelling in a settings file: its characters, the tokens that they make, and
the expression that the tokens stand for are given here side by side, each by recursion on the
value.  A number that is not finite is spelled by a name.  All that is read back of the others is
the value with lists in place of tuples.
-/

namespace DebugIndex
namespace Value

/-- Whether a value is plain, with lists and tuples nested at most so deep. -/
inductive IsPlain : (depth : Nat) → Value → Prop
  | null {depth : Nat} : IsPlain depth .null
  | bool {depth : Nat} (truth : Bool) : IsPlain depth (.bool truth)
  | int {depth : Nat} (whole : Int) : IsPlain depth (.int whole)
  | text {depth : Nat} (characters : String) : IsPlain depth (.text characters)
  | rawText {depth : Nat} (raw : Text.Raw) : IsPlain depth (.rawText raw)
  | list {depth : Nat} {items : List Value} (plain : ∀ item ∈ items, IsPlain depth item) :
      IsPlain (depth + 1) (.list items)
  | tuple {depth : Nat} {items : List Value} (plain : ∀ item ∈ items, IsPlain depth item) :
      IsPlain (depth + 1) (.tuple items)

mutual

/-- Whether a value can be written where so many levels can be gone down: maps, bytes and objects
can not, nor can whole numbers with too many digits. -/
def isWritable (levels : Nat) : Value → Bool
  | .list items | .tuple items => areWritable levels items
  | .map _ | .bytes _ | .object .. => false
  | value => value.isShort

/-- Whether all items of a list can be written, each of them one level down. -/
def areWritable (levels : Nat) : List Value → Bool
  | [] => true
  | item :: rest =>
      match levels with
      | 0 => false
      | levels + 1 => isWritable levels item && areWritable (levels + 1) rest

end

/-- Whether a value has a spelling. -/
inductive IsSpelled : Value → Prop
  | null : IsSpelled .null
  | bool (truth : Bool) : IsSpelled (.bool truth)
  | int {whole : Int} (short : Numeral.isShort whole = true) : IsSpelled (.int whole)
  | float (number : Binary64) : IsSpelled (.float number)
  | text (characters : String) : IsSpelled (.text characters)
  | rawText (raw : Text.Raw) : IsSpelled (.rawText raw)
  | list {items : List Value} (spelled : ∀ item ∈ items, IsSpelled item) :
      IsSpelled (.list items)
  | tuple {items : List Value} (spelled : ∀ item ∈ items, IsSpelled item) :
      IsSpelled (.tuple items)

mutual

def nesting : Value → Nat
  | .list items | .tuple items => itemsNesting items + 1
  | _ => 0

/-- How deep lists and tuples are nested in the deepest of some values. -/
def itemsNesting : List Value → Nat
  | [] => 0
  | item :: rest => max (nesting item) (itemsNesting rest)

end

mutual

/-- Whether no infinity and nothing that is no number is among the numbers in a value. -/
def isFinite : Value → Bool
  | .float number => (number matches .finite ..)
  | .list items | .tuple items => areFinite items
  | _ => true

/-- Whether this is so for all of some values. -/
def areFinite : List Value → Bool
  | [] => true
  | item :: rest => isFinite item && areFinite rest

end

mutual

def listed : Value → Value
  | .list items | .tuple items => .list (listedItems items)
  | value => value

/-- Values with lists in place of tuples. -/
def listedItems : List Value → List Value
  | [] => []
  | item :: rest => listed item :: listedItems rest

end

/-! ## The spelling of a value -/

mutual

/-- The characters of a value in a settings file. -/
def spelling : Value → List Char
  | .list items | .tuple items => '[' :: itemsSpelling items ++ [']']
  | value => value.written.toList

/-- The characters of the items of a list, each with a comma behind it. -/
def itemsSpelling : List Value → List Char
  | [] => []
  | item :: rest => spelling item ++ ',' :: ' ' :: itemsSpelling rest

end

/-- The token of a number without its sign: a name unless the number is finite. -/
def sizeToken : Binary64 → Token
  | .nan => .name "nan"
  | .infinite _ => .name "inf"
  | .finite _ significand exponent canonical =>
      .constant (.float (.finite false significand exponent canonical))

/-- The expression of a number without its sign: a name unless the number is finite. -/
def sizeExpression : Binary64 → Expression
  | .nan => .name "nan"
  | .infinite _ => .name "inf"
  | .finite _ significand exponent canonical =>
      .constant (.float (.finite false significand exponent canonical))

def hasMinus : Binary64 → Bool
  | .nan => false
  | .infinite negative => negative
  | .finite negative .. => negative

mutual

def tokens : Value → List Token
  | .null => [.keyword "None"]
  | .bool truth => [.keyword (if truth then "True" else "False")]
  | .int whole =>
      if whole < 0 then [.mark '-', .constant (.int whole.natAbs)]
      else [.constant (.int whole.natAbs)]
  | .float number =>
      if hasMinus number then [.mark '-', sizeToken number] else [sizeToken number]
  | .list items | .tuple items => .mark '[' :: itemsTokens items ++ [.mark ']']
  | value => (value.points?.map .text).toList

def itemsTokens : List Value → List Token
  | [] => []
  | item :: rest => tokens item ++ .mark ',' :: itemsTokens rest

end

mutual

def expression : Value → Expression
  | .int whole =>
      if whole < 0 then .sign true (.constant (.int whole.natAbs))
      else .constant (.int whole.natAbs)
  | .float number =>
      if hasMinus number then .sign true (sizeExpression number) else sizeExpression number
  | .list items | .tuple items => .list (itemsExpressions items)
  | value => .constant value

def itemsExpressions : List Value → List Expression
  | [] => []
  | item :: rest => expression item :: itemsExpressions rest

end

theorem itemsTokens_eq_flatMap (items : List Value) :
    itemsTokens items = items.flatMap fun item => tokens item ++ [Token.mark ','] := by
  induction items with
  | nil => rfl
  | cons item rest ih => simp [itemsTokens, ih]

theorem itemsExpressions_eq_map (items : List Value) :
    itemsExpressions items = items.map expression := by
  induction items with
  | nil => rfl
  | cons item rest ih => simp [itemsExpressions, ih]

/-! ## Values with a spelling -/

theorem areWritable_succ_eq_true_iff {levels : Nat} {items : List Value} :
    areWritable (levels + 1) items = true ↔ ∀ item ∈ items, item.isWritable levels = true := by
  induction items with
  | nil => simp [areWritable]
  | cons item rest ih => simp [areWritable, ih]

theorem isWritable_of_mem {levels : Nat} {items : List Value}
    (writable : areWritable levels items = true) {item : Value} (member : item ∈ items) :
    ∃ fewer, levels = fewer + 1 ∧ item.isWritable fewer = true := by
  cases levels with
  | zero =>
      cases items with
      | nil => cases member
      | cons first rest => cases writable
  | succ fewer => exact ⟨fewer, rfl, areWritable_succ_eq_true_iff.mp writable item member⟩

theorem areFinite_eq_true_iff {items : List Value} :
    areFinite items = true ↔ ∀ item ∈ items, item.isFinite = true := by
  induction items with
  | nil => simp [areFinite]
  | cons item rest ih => simp [areFinite, ih]

theorem itemsNesting_le_iff {items : List Value} {most : Nat} :
    itemsNesting items ≤ most ↔ ∀ item ∈ items, item.nesting ≤ most := by
  induction items with
  | nil => simp [itemsNesting]
  | cons item rest ih => rw [itemsNesting, Nat.max_le, ih, List.forall_mem_cons]

theorem isSpelled_of_isWritable {levels : Nat} (value : Value)
    (writable : value.isWritable levels = true) : value.IsSpelled := by
  cases value with
  | null => exact .null
  | bool truth => exact .bool truth
  | int whole =>
      simp only [isWritable, isShort] at writable
      exact .int writable
  | float number => exact .float number
  | text characters => exact .text characters
  | rawText raw => exact .rawText raw
  | bytes content | map entries | object kind shown =>
      rw [isWritable] at writable
      cases writable
  | list items =>
      refine .list fun item member => ?_
      obtain ⟨fewer, rfl, itemWritable⟩ := isWritable_of_mem writable member
      exact isSpelled_of_isWritable item itemWritable
  | tuple items =>
      refine .tuple fun item member => ?_
      obtain ⟨fewer, rfl, itemWritable⟩ := isWritable_of_mem writable member
      exact isSpelled_of_isWritable item itemWritable

theorem IsPlain.nesting_le {depth : Nat} {value : Value} (plain : value.IsPlain depth) :
    value.nesting ≤ depth := by
  induction plain with
  | null | bool truth | int whole | text characters | rawText raw => exact Nat.zero_le _
  | list plain ih | tuple plain ih =>
      exact Nat.succ_le_succ (itemsNesting_le_iff.mpr ih)

theorem IsPlain.isFinite {depth : Nat} {value : Value} (plain : value.IsPlain depth) :
    value.isFinite = true := by
  induction plain with
  | null | bool truth | int whole | text characters | rawText raw => rfl
  | list plain ih | tuple plain ih => exact areFinite_eq_true_iff.mpr ih

end Value

namespace SettingsFile

open Value

/-! ## What is written -/

namespace Written

@[simp]
theorem andThen_of_none (text : String) (next : Written) :
    (Written.mk text none).andThen next = ⟨text ++ next.text, next.refusal⟩ := rfl

theorem andThen_refusal_eq_none_iff {written next : Written} :
    (written.andThen next).refusal = none ↔ written.refusal = none ∧ next.refusal = none := by
  obtain ⟨text, refusal⟩ := written
  cases refusal <;> simp [andThen]

end Written

theorem ofValue_refusal_eq_none_iff {before behind : String} {value : Value} :
    (Written.ofValue before value behind).refusal = none ↔ value.isShort = true := by
  cases short : value.isShort <;> simp [Written.ofValue, short]

theorem ofValue_of_short {before behind : String} {value : Value} (short : value.isShort = true) :
    Written.ofValue before value behind = ⟨before ++ value.written ++ behind, none⟩ := by
  rw [Written.ofValue, if_pos short]

theorem writeItems_of_areWritable {levels : Nat} {items : List Value}
    (writable : areWritable levels items = true)
    (each : ∀ item ∈ items, ∀ {fewer : Nat}, item.isWritable fewer = true →
      writeValue fewer item = ⟨String.ofList item.spelling, none⟩) :
    writeItems levels items = ⟨String.ofList (itemsSpelling items), none⟩ := by
  induction items with
  | nil => rfl
  | cons item rest ih =>
      obtain ⟨first, others⟩ := List.forall_mem_cons.mp each
      cases levels with
      | zero => cases writable
      | succ fewer =>
          rw [areWritable, Bool.and_eq_true] at writable
          simp [writeItems, first writable.1, ih writable.2 others, Written.andThen_of_none,
            itemsSpelling, ← String.toList_inj]

theorem writeValue_of_isWritable {levels : Nat} (value : Value)
    (writable : value.isWritable levels = true) :
    writeValue levels value = ⟨String.ofList value.spelling, none⟩ := by
  cases value with
  | null | bool truth | float number | text characters | rawText raw =>
      simp [writeValue, Written.ofValue, isShort, spelling]
  | int whole =>
      have short : (Value.int whole).isShort = true := by simpa [isWritable] using writable
      simp [writeValue, ofValue_of_short short, spelling]
  | bytes content | map entries | object kind shown =>
      rw [isWritable] at writable
      cases writable
  | list items | tuple items =>
      have written := writeItems_of_areWritable writable fun item member _ itemWritable =>
        writeValue_of_isWritable item itemWritable
      simp [writeValue, written, Written.andThen_of_none, spelling, ← String.toList_inj]

mutual

theorem writeValue_refusal_eq_none_iff (levels : Nat) (value : Value) :
    (writeValue levels value).refusal = none ↔ value.isWritable levels = true := by
  cases value with
  | list items | tuple items =>
      simp [writeValue, isWritable, Written.andThen_refusal_eq_none_iff,
        writeItems_refusal_eq_none_iff levels items]
  | map entries | bytes content | object kind shown => simp [writeValue, isWritable]
  | null | bool truth | int whole | float number | text characters | rawText raw =>
      simp only [writeValue, ofValue_refusal_eq_none_iff, isWritable]

/-- A list is written in full exactly if each of its items can be written one level down. -/
theorem writeItems_refusal_eq_none_iff (levels : Nat) (items : List Value) :
    (writeItems levels items).refusal = none ↔ areWritable levels items = true := by
  cases items with
  | nil => simp [writeItems, areWritable]
  | cons item rest =>
      cases levels with
      | zero => simp [writeItems, areWritable]
      | succ fewer =>
          simp [writeItems, areWritable, Written.andThen_refusal_eq_none_iff,
            writeValue_refusal_eq_none_iff fewer item,
            writeItems_refusal_eq_none_iff (fewer + 1) rest]

end

end SettingsFile
end DebugIndex
