import DebugIndex.Entry.Basic

/-!
# Numbers of attributes

The form of an attribute is asked for only to leave blocks out when the attribute is read as a
number.  So a reference to another entry is read as a number too, which is the offset of that
entry, or the way to it, and says nothing about what the attribute is about.  What an attribute
gives is its plain number, with references left out, exactly unless a reference is misread; then
it is that reference.
-/

namespace DebugIndex

/-- Whether attributes of a form refer to other entries. -/
def FormClass.isReference : FormClass → Bool
  | .localReference | .globalReference => true
  | _ => false

namespace Entry

def refers (entry : Entry) (name : String) : Bool :=
  (entry.formClass? name).any FormClass.isReference

/-- The number of an attribute where only numbers count: a block, a reference and all else that
is not a natural number is zero. -/
def plainNumber (entry : Entry) (name : String) : Nat :=
  if entry.formClass? name = some .block ∨ entry.refers name = true then 0
  else
    match entry.value? name with
    | some (.int whole) => whole.toNat
    | _ => 0

/-- An attribute that refers to another entry, by a reference that can be taken for a number. -/
structure Misreads (entry : Entry) (name : String) (target : Nat) : Prop where
  refers : entry.refers name = true
  value_eq : entry.value? name = some (.int target)
  ne_zero : target ≠ 0

/-- What an attribute gives where a number is asked for: the plain number, exactly unless a
reference is misread, and else that reference. -/
structure Gives (entry : Entry) (name : String) (number : Int) : Prop where
  eq_plainNumber_iff : number = entry.plainNumber name ↔ ∀ target, ¬ entry.Misreads name target
  eq_target : ∀ target, entry.Misreads name target → number = target

/-- What an entry gives where a range of addresses is asked for.  A high address that is an
unsigned constant counts from the low one. -/
structure GivesRange (entry : Entry) (low high : Int) : Prop where
  givesLow : entry.Gives AttributeName.lowAddress low
  givesHigh : ∃ number, entry.Gives AttributeName.highAddress number ∧
    high =
      if number ≠ 0 ∧ entry.formClass? AttributeName.highAddress = some .unsignedConstant then
        number + low
      else number

variable {entry : Entry} {name : String} {target : Nat}

theorem formClass?_ne_block (refers : entry.refers name = true) :
    entry.formClass? name ≠ some .block := by
  intro block
  rw [Entry.refers, block] at refers
  cases refers

theorem plainNumber_of_refers (refers : entry.refers name = true) :
    entry.plainNumber name = 0 :=
  if_pos (Or.inr refers)

theorem unsigned_of_not_refers (refersNot : entry.refers name = false) :
    entry.unsigned name = entry.plainNumber name := by
  simp only [unsigned, unsigned?, plainNumber, refersNot, Bool.false_eq_true, or_false]
  split
  case isTrue => rfl
  case isFalse =>
    cases entry.value? name with
    | none => rfl
    | some value =>
        cases value with
        | int whole =>
            simp only
            split
            case isTrue negative => rw [Int.toNat_of_nonpos (by omega), Option.getD_none]
            case isFalse => rfl
        | _ => rfl

theorem unsigned_of_misreads (misread : entry.Misreads name target) :
    entry.unsigned name = target := by
  obtain ⟨refers, value_eq, -⟩ := misread
  have natural : ¬ (target : Int) < 0 := by omega
  rw [unsigned, unsigned?, if_neg (formClass?_ne_block refers), value_eq]
  simp only [natural, if_false, Int.toNat_natCast, Option.getD_some]

/-- A number other than zero that is read from a reference is that reference. -/
theorem misreads_unsigned (refers : entry.refers name = true) (notZero : entry.unsigned name ≠ 0) :
    entry.Misreads name (entry.unsigned name) := by
  refine ⟨refers, ?_, notZero⟩
  rw [unsigned, unsigned?, if_neg (formClass?_ne_block refers)] at notZero ⊢
  cases value_eq : entry.value? name with
  | none => simp [value_eq] at notZero
  | some value =>
      cases value with
      | int whole =>
          simp only [value_eq] at notZero ⊢
          split at notZero
          · simp at notZero
          case isFalse natural =>
            rw [if_neg natural, Option.getD_some, Int.toNat_of_nonneg (by omega)]
      | _ => simp [value_eq] at notZero

theorem gives_unsigned (entry : Entry) (name : String) :
    entry.Gives name (entry.unsigned name) := by
  refine ⟨?_, fun target misread => congrArg Nat.cast (unsigned_of_misreads misread)⟩
  rw [Int.natCast_inj]
  cases refers : entry.refers name with
  | false =>
      simp only [unsigned_of_not_refers refers, true_iff]
      intro target misread
      exact Bool.false_ne_true (refers.symm.trans misread.refers)
  | true =>
      rw [plainNumber_of_refers refers]
      constructor
      · intro zero target misread
        exact misread.ne_zero ((unsigned_of_misreads misread).symm.trans zero)
      · intro noMisread
        by_cases zero : entry.unsigned name = 0
        · exact zero
        · exact absurd (misreads_unsigned refers zero) (noMisread _)

theorem givesRange_addresses (entry : Entry) :
    entry.GivesRange entry.addresses.1 entry.addresses.2 := by
  simp only [addresses]
  split
  case isTrue counted =>
    refine ⟨gives_unsigned entry _, _, gives_unsigned entry _, ?_⟩
    rw [if_pos ⟨Int.natCast_ne_zero.mpr counted.1, counted.2⟩, Int.natCast_add]
  case isFalse plain =>
    refine ⟨gives_unsigned entry _, _, gives_unsigned entry _, ?_⟩
    rw [if_neg fun counted => plain ⟨Int.natCast_ne_zero.mp counted.1, counted.2⟩]

end Entry
end DebugIndex
