import DebugIndex.Proofs.CompilationUnit.Slices

/-!
# Contributions of entries

An entry either can not be read, which depends on the entry and the byte order alone, or
contributes to its unit.  What a unit holds once its entries are read is, kind by kind,
what they contribute, in their order.
-/

namespace DebugIndex

/-- The children of the top entry of a unit, as far as they can be read. -/
def UnitSource.children (source : UnitSource) : List Entry :=
  match source.top with
  | .ok top => top.children.items
  | .error _ => []

namespace CompilationUnit

/-- The unit with more frame bases counted. -/
def countFrames (frames : Nat) (unit : CompilationUnit) : CompilationUnit :=
  { unit with frameCount := unit.frameCount + frames }

end CompilationUnit

namespace Extraction

/-- Why an entry can not be read, if it can not: the address of a global variable calls
for a byte order, and the children of an aggregate or a function have to be read to the
end.  Entries of other kinds can always be read. -/
def malformation? (byteOrder : Option ByteOrder) (entry : Entry) : Option EntryError :=
  if entry.tag = .variableObject then
    if isStatic (locationOf entry) ∧ byteOrder = none then some .unknownByteOrder else none
  else if entry.tag.isAggregate ∨ entry.tag = .subprogram then
    entry.children.fault.map .children
  else none

def frameBases (entry : Entry) : Nat :=
  if entry.tag = .subprogram ∧ entry.has AttributeName.frameBase then 1 else 0

variable {byteOrder : Option ByteOrder} {unitOffset : Int} {rows : List LineRow} {entry : Entry}

theorem frames_outcomeOf :
    (outcomeOf byteOrder unitOffset rows entry).frames = frameBases entry := by
  by_cases isFunction : entry.tag = .subprogram
  · simp [outcomeOf, frameBases, isFunction, Tag.isType]
  · simp only [outcomeOf, frameBases, isFunction, false_and, if_false]
    split
    · rfl
    · split <;> rfl

theorem staticAddress_eq_error_iff {location : List UInt8} {reason : EntryError} :
    staticAddress byteOrder location = .error reason ↔
      isStatic location = true ∧ byteOrder = none ∧ reason = .unknownByteOrder := by
  simp only [staticAddress]
  cases isStatic location with
  | false => simp
  | true => cases byteOrder <;> simp [eq_comm]

theorem globalOf_of_error {reason : EntryError}
    (read : staticAddress byteOrder (locationOf entry) = .error reason) :
    globalOf byteOrder unitOffset entry = .error reason := by
  rw [globalOf, read]
  rfl

theorem globalOf_of_ok {address : Nat}
    (read : staticAddress byteOrder (locationOf entry) = .ok address) :
    globalOf byteOrder unitOffset entry =
      .ok (if (entry.string? AttributeName.name).getD "" = "" ∨ address = 0 then
          .dropped (entry.string? AttributeName.name)
        else .global { variableOf unitOffset entry with address := address }) := by
  rw [globalOf, read]
  simp only [← Int.natCast_eq_zero (n := address)]
  rfl

theorem globalOf_eq_error_iff {reason : EntryError} :
    globalOf byteOrder unitOffset entry = .error reason ↔
      isStatic (locationOf entry) = true ∧ byteOrder = none ∧ reason = .unknownByteOrder := by
  rw [← staticAddress_eq_error_iff]
  cases read : staticAddress byteOrder (locationOf entry) with
  | error found => rw [globalOf_of_error read, Except.error.injEq, Except.error.injEq]
  | ok address => simp only [globalOf_of_ok read, reduceCtorEq]

theorem typeOf_eq_error_iff {reason : EntryError} :
    typeOf unitOffset entry = .error reason ↔
      entry.tag.isAggregate = true ∧ entry.children.fault.map .children = some reason := by
  simp only [typeOf]
  cases entry.tag.isAggregate with
  | false => simp
  | true => cases entry.children.fault <;> simp

theorem subprogramOf_eq_error_iff {reason : EntryError} :
    subprogramOf unitOffset rows entry = .error reason ↔
      entry.children.fault.map .children = some reason := by
  simp only [subprogramOf]
  cases entry.children.fault <;> simp

/-- Reading an entry fails exactly if the entry is malformed, whatever the unit. -/
theorem contribution_outcomeOf_eq_error_iff {reason : EntryError} :
    (outcomeOf byteOrder unitOffset rows entry).contribution = .error reason ↔
      malformation? byteOrder entry = some reason := by
  by_cases isVariable : entry.tag = .variableObject
  · simp only [outcomeOf, malformation?, isVariable, if_true, globalOf_eq_error_iff]
    split
    case isTrue unreadable => simp [unreadable, eq_comm]
    case isFalse readable =>
      simp only [reduceCtorEq, iff_false]
      rintro ⟨isStatic, noOrder, -⟩
      exact readable ⟨isStatic, noOrder⟩
  · by_cases isFunction : entry.tag = .subprogram
    · simp [outcomeOf, malformation?, isFunction, Tag.isType, subprogramOf_eq_error_iff]
    · by_cases isType : entry.tag.isType = true
      · simp only [outcomeOf, malformation?, isVariable, isFunction, isType, if_true, if_false,
          or_false, typeOf_eq_error_iff]
        split
        case isTrue aggregate => simp [aggregate]
        case isFalse plain => simp [plain]
      · have notAggregate : entry.tag.isAggregate = false := by
          cases tag : entry.tag <;> simp_all [Tag.isType, Tag.isAggregate]
        simp [outcomeOf, malformation?, isVariable, isFunction, isType, notAggregate]

/-! ## Kinds of contributions -/

def Contribution.global? : Contribution → Option Variable
  | .global item => some item
  | _ => none

def Contribution.subprogram? : Contribution → Option Subprogram
  | .subprogram added => some added
  | _ => none

/-- The contribution that was read, or nothing if reading it failed. -/
def orNothing : Except EntryError Contribution → Contribution
  | .ok contribution => contribution
  | .error _ => .nothing

/-- What an entry contributes: nothing if it can not be read. -/
def contributionOf (byteOrder : Option ByteOrder) (unitOffset : Int) (rows : List LineRow)
    (entry : Entry) : Contribution :=
  orNothing (outcomeOf byteOrder unitOffset rows entry).contribution

theorem pick_globalOf {α : Type} {pick : Contribution → Option α} (nothing : pick .nothing = none)
    (dropped : ∀ name, pick (.dropped name) = none) (global : ∀ item, pick (.global item) = none) :
    pick (orNothing (globalOf byteOrder unitOffset entry)) = none := by
  cases read : staticAddress byteOrder (locationOf entry) with
  | error reason => rwa [globalOf_of_error read]
  | ok address =>
      rw [globalOf_of_ok read, orNothing]
      split
      · exact dropped _
      · exact global _

theorem subprogram?_globalOf :
    (orNothing (globalOf byteOrder unitOffset entry)).subprogram? = none :=
  pick_globalOf rfl (fun _ => rfl) fun _ => rfl

theorem global?_typeOf : (orNothing (typeOf unitOffset entry)).global? = none := by
  simp only [typeOf]
  split
  · cases entry.children.fault <;> rfl
  · rfl

theorem subprogram?_typeOf : (orNothing (typeOf unitOffset entry)).subprogram? = none := by
  simp only [typeOf]
  split
  · cases entry.children.fault <;> rfl
  · rfl

@[simp]
theorem global?_subprogramOf : (orNothing (subprogramOf unitOffset rows entry)).global? = none := by
  simp only [subprogramOf]
  cases entry.children.fault <;> rfl

theorem global?_contributionOf :
    (contributionOf byteOrder unitOffset rows entry).global? =
      if entry.tag = .variableObject then
        (orNothing (globalOf byteOrder unitOffset entry)).global?
      else none := by
  simp only [contributionOf, outcomeOf]
  by_cases isVariable : entry.tag = .variableObject
  · simp only [isVariable, if_true]
  · simp only [isVariable, if_false]
    cases entry.tag.isType with
    | true => exact global?_typeOf
    | false =>
        by_cases isFunction : entry.tag = .subprogram
        · simp [isFunction]
        · simp [isFunction, orNothing, Contribution.global?]

/-- The global variable that an entry contributes is the one that it describes, at the address
that is read from its location. -/
theorem exists_address_of_contributionOf {item : Variable}
    (contributed : (contributionOf byteOrder unitOffset rows entry).global? = some item) :
    ∃ address : Nat, staticAddress byteOrder (locationOf entry) = .ok address ∧ address ≠ 0 ∧
      item = { variableOf unitOffset entry with address := address } := by
  rw [global?_contributionOf] at contributed
  split at contributed
  case isFalse => cases contributed
  case isTrue =>
    cases read : staticAddress byteOrder (locationOf entry) with
    | error reason =>
        rw [globalOf_of_error read] at contributed
        cases contributed
    | ok address =>
        rw [globalOf_of_ok read] at contributed
        split at contributed
        · cases contributed
        case isFalse kept =>
          obtain rfl := Option.some.inj contributed
          exact ⟨address, rfl, fun zero => kept (Or.inr zero), rfl⟩

theorem subprogram?_contributionOf :
    (contributionOf byteOrder unitOffset rows entry).subprogram? =
      if entry.tag = .subprogram then
        (orNothing (subprogramOf unitOffset rows entry)).subprogram?
      else none := by
  simp only [contributionOf, outcomeOf]
  by_cases isFunction : entry.tag = .subprogram
  · simp [isFunction, Tag.isType]
  · simp only [isFunction, if_false]
    by_cases isVariable : entry.tag = .variableObject
    · simpa [isVariable] using subprogram?_globalOf
    · simp only [isVariable, if_false]
      cases entry.tag.isType with
      | true => exact subprogram?_typeOf
      | false => rfl

theorem globals_contribute (unit : CompilationUnit) (contribution : Contribution) :
    (contribute unit contribution).globals = unit.globals ++ contribution.global?.toList := by
  cases contribution <;> simp [contribute, Contribution.global?, CompilationUnit.addGlobal,
    CompilationUnit.addType, CompilationUnit.addSubprogram, CompilationUnit.addSubprogramWith]

theorem subprograms_contribute (unit : CompilationUnit) (contribution : Contribution) :
    (contribute unit contribution).subprograms =
      unit.subprograms ++ contribution.subprogram?.toList := by
  cases contribution <;> simp [contribute, Contribution.subprogram?, CompilationUnit.addGlobal,
    CompilationUnit.addType, CompilationUnit.addSubprogram, CompilationUnit.addSubprogramWith]

end Extraction

namespace BuildContext

open Extraction

theorem absorb_eq (byteOrder : Option ByteOrder) (unit : CompilationUnit) (entry : Entry) :
    absorb byteOrder unit entry =
      contribute (unit.countFrames (frameBases entry))
        (contributionOf byteOrder unit.offset unit.rows entry) := by
  simp only [absorb, contributionOf, frames_outcomeOf]
  cases (outcomeOf byteOrder unit.offset unit.rows entry).contribution <;> rfl

theorem offset_absorb (byteOrder : Option ByteOrder) (unit : CompilationUnit) (entry : Entry) :
    (absorb byteOrder unit entry).offset = unit.offset := by
  rw [absorb_eq]
  cases contributionOf byteOrder unit.offset unit.rows entry <;> rfl

/-- If each entry adds to a field what is picked from its contribution, the field holds in
the end what is picked from the contributions of all entries, in their order. -/
theorem field_foldl_absorb {α : Type} {field : CompilationUnit → List α}
    {pick : Contribution → Option α}
    (adds : ∀ unit contribution, field (contribute unit contribution) =
      field unit ++ (pick contribution).toList)
    (ignores : ∀ unit frames, field (unit.countFrames frames) = field unit)
    (byteOrder : Option ByteOrder) (entries : List Entry) (unit : CompilationUnit) :
    field (entries.foldl (absorb byteOrder) unit) =
      field unit ++ entries.filterMap fun entry =>
        pick (contributionOf byteOrder unit.offset unit.rows entry) := by
  induction entries generalizing unit with
  | nil => simp
  | cons entry rest ih =>
      have added : field (absorb byteOrder unit entry) = field unit ++
          (pick (contributionOf byteOrder unit.offset unit.rows entry)).toList := by
        rw [absorb_eq, adds, ignores]
      rw [List.foldl_cons, ih, offset_absorb, CompilationUnit.rows_absorb, added,
        List.append_assoc, List.filterMap_cons]
      cases pick (contributionOf byteOrder unit.offset unit.rows entry) <;> rfl

/-- What no contribution and no frame base changes stays the same while entries are read. -/
theorem kept_foldl_absorb {α : Type} {field : CompilationUnit → α}
    (keeps : ∀ unit contribution, field (contribute unit contribution) = field unit)
    (ignores : ∀ unit frames, field (unit.countFrames frames) = field unit)
    (byteOrder : Option ByteOrder) (entries : List Entry) (unit : CompilationUnit) :
    field (entries.foldl (absorb byteOrder) unit) = field unit := by
  induction entries generalizing unit with
  | nil => rfl
  | cons entry rest ih => rw [List.foldl_cons, ih, absorb_eq, keeps, ignores]

theorem globals_foldl_absorb (byteOrder : Option ByteOrder) (entries : List Entry)
    (unit : CompilationUnit) :
    (entries.foldl (absorb byteOrder) unit).globals =
      unit.globals ++ entries.filterMap fun entry =>
        (contributionOf byteOrder unit.offset unit.rows entry).global? :=
  field_foldl_absorb globals_contribute (fun _ _ => rfl) byteOrder entries unit

theorem subprograms_foldl_absorb (byteOrder : Option ByteOrder) (entries : List Entry)
    (unit : CompilationUnit) :
    (entries.foldl (absorb byteOrder) unit).subprograms =
      unit.subprograms ++ entries.filterMap fun entry =>
        (contributionOf byteOrder unit.offset unit.rows entry).subprogram? :=
  field_foldl_absorb subprograms_contribute (fun _ _ => rfl) byteOrder entries unit

end BuildContext
end DebugIndex
