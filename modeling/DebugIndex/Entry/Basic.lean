import DebugIndex.Entry.Tag
import DebugIndex.Reader.Fault
import DebugIndex.Text.Utf8
import DebugIndex.Value.Basic

/-!
# Debugging information entries

An entry has a tag, an offset, named attributes and children.  Attributes are
read tolerantly: one that is absent, unreadable or of an unexpected kind gives
no value, and never an error.
-/

namespace DebugIndex

/-- An attribute as the reader delivers it.  Texts have been decoded from bytes, so they are made
of characters. -/
structure Attribute where
  form : Option String
  value : Value
  decoded : value.isRaw = false := by rfl

namespace Attribute

def ofInt (form : Option String) (number : Int) : Attribute := ⟨form, .int number, rfl⟩

def ofText (form : Option String) (characters : String) : Attribute := ⟨form, .text characters, rfl⟩

def ofBytes (form : Option String) (content : List UInt8) : Attribute := ⟨form, .bytes content, rfl⟩

/-- The class of an attribute's form, if it has a form. -/
def formClass? (content : Attribute) : Option FormClass :=
  content.form.map FormClass.ofName

end Attribute

/-- A debugging information entry.  An attribute whose content the reader cannot
give is recorded by its name alone. -/
structure Entry where
  tag : Tag
  offset : Int
  attributes : List (String × Option Attribute)
  children : Feed Entry

namespace Entry

def has (entry : Entry) (name : String) : Bool :=
  (entry.attributes.lookup name).isSome

/-- The attribute of a name, if it can be read. -/
def find? (entry : Entry) (name : String) : Option Attribute :=
  (entry.attributes.lookup name).join

def value? (entry : Entry) (name : String) : Option Value :=
  (entry.find? name).map Attribute.value

def form? (entry : Entry) (name : String) : Option String :=
  (entry.find? name).bind Attribute.form

def formClass? (entry : Entry) (name : String) : Option FormClass :=
  (entry.find? name).bind Attribute.formClass?

/-- The text of an attribute; bytes are read as UTF-8. -/
def string? (entry : Entry) (name : String) : Option String :=
  match entry.value? name with
  | some (.bytes content) => some (String.ofList (Text.Utf8.decodeLossy content))
  | some (.text characters) => some characters
  | _ => none

/-- The natural number of an attribute whose form is not a block. -/
def unsigned? (entry : Entry) (name : String) : Option Nat :=
  if entry.formClass? name = some .block then none
  else
    match entry.value? name with
    | some (.int whole) => if whole < 0 then none else some whole.toNat
    | _ => none

/-- The natural number of an attribute, zero if there is none. -/
def unsigned (entry : Entry) (name : String) : Nat :=
  (entry.unsigned? name).getD 0

/-- The whole number of an attribute. -/
def signed? (entry : Entry) (name : String) : Option Int :=
  match entry.value? name with
  | some (.int whole) => some whole
  | _ => none

/-- The whole number of an attribute, zero if there is none. -/
def signed (entry : Entry) (name : String) : Int :=
  (entry.signed? name).getD 0

/-- The byte that a value stands for in a block that is given as a list or tuple. -/
def byteOf? (value : Value) : Option UInt8 :=
  value.whole?.bind fun whole =>
    if 0 ≤ whole ∧ whole ≤ 255 then some (UInt8.ofNat whole.toNat) else none

/-- The bytes of an attribute whose form is a block or is not known. -/
def block? (entry : Entry) (name : String) : Option (List UInt8) :=
  match entry.formClass? name with
  | none | some .block =>
      match entry.value? name with
      | some (.bytes content) => some content
      | some (.list items) | some (.tuple items) => items.mapM byteOf?
      | _ => none
  | _ => none

/-- The offset of the entry that an attribute refers to: references within the
unit count from the start of the unit.  Zero if the attribute is no reference. -/
def reference (entry : Entry) (name : String) (unitOffset : Int) : Int :=
  match entry.signed? name, entry.formClass? name with
  | some target, some .globalReference => target
  | some target, some .localReference => target + unitOffset
  | _, _ => 0

end Entry

/-! The names of the attributes that are read. -/

namespace AttributeName

def name : String := "DW_AT_name"
def directory : String := "DW_AT_comp_dir"
def producer : String := "DW_AT_producer"
def language : String := "DW_AT_language"
def lowAddress : String := "DW_AT_low_pc"
def highAddress : String := "DW_AT_high_pc"
def type : String := "DW_AT_type"
def location : String := "DW_AT_location"
def byteSize : String := "DW_AT_byte_size"
def encoding : String := "DW_AT_encoding"
def memberLocation : String := "DW_AT_data_member_location"
def declarationLine : String := "DW_AT_decl_line"
def frameBase : String := "DW_AT_frame_base"

end AttributeName

/-- The low and high address of an entry, zero where missing.  A high address
given as an unsigned constant counts from the low one. -/
def Entry.addresses (entry : Entry) : Nat × Nat :=
  let low := entry.unsigned AttributeName.lowAddress
  let high := entry.unsigned AttributeName.highAddress
  if high ≠ 0 ∧ entry.formClass? AttributeName.highAddress = some .unsignedConstant then
    (low, high + low)
  else (low, high)

end DebugIndex
