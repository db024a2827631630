import DebugIndex.CompilationUnit.Basic
import DebugIndex.Leb128
import DebugIndex.Reader.Unit

/-!
# Extraction

What a child of a unit's top entry contributes to the unit: a global variable, a
type, a function, or nothing.  An entry whose own children can not be read to
the end contributes nothing but the count of its frame base.
-/

namespace DebugIndex
namespace Extraction

def addressOpcode : UInt8 := 0x03

/-- Why an entry contributes nothing although its tag says that it should. -/
inductive EntryError
  | children (fault : Fault)
  | unknownByteOrder
  deriving DecidableEq

namespace EntryError

/-- The wording of the reason. -/
def text : EntryError → String
  | .children fault => fault.text
  | .unknownByteOrder => "byteorder must be either 'little' or 'big'"

end EntryError

/-- What an entry contributes to its unit. -/
inductive Contribution
  | nothing
  | dropped (name : Option String)
  | global (item : Variable)
  | type (entry : TypeEntry)
  | subprogram (subprogram : Subprogram)

/-- What reading an entry led to: the number of frame bases that were counted,
and the contribution of the entry or the reason why there is none. -/
structure Outcome where
  frames : Nat := 0
  contribution : Except EntryError Contribution

/-- The location expression of an entry, empty if there is none. -/
def locationOf (entry : Entry) : List UInt8 :=
  (entry.block? AttributeName.location).getD []

/-- The variable of an entry with its name, type and location opcode. -/
def variableOf (unitOffset : Int) (entry : Entry) : Variable where
  name := entry.string? AttributeName.name
  typeOffset := entry.reference AttributeName.type unitOffset
  opcode := ((locationOf entry).head?.map fun opcode => (opcode.toNat : Int)).getD 0

/-- Whether a location expression is a single absolute address of four or eight bytes. -/
def isStatic (location : List UInt8) : Bool :=
  location.head? = some addressOpcode && (location.length = 5 || location.length = 9)

/-- The absolute address in a location expression, zero if it holds none. -/
def staticAddress (byteOrder : Option ByteOrder) (location : List UInt8) :
    Except EntryError Nat :=
  if isStatic location then
    match byteOrder with
    | some order => .ok (order.value location.tail)
    | none => .error .unknownByteOrder
  else .ok 0

/-- A global needs a name and an address that is not zero. -/
def globalOf (byteOrder : Option ByteOrder) (unitOffset : Int) (entry : Entry) :
    Except EntryError Contribution :=
  (staticAddress byteOrder (locationOf entry)).map fun address =>
    let item := variableOf unitOffset entry
    if item.name.getD "" = "" ∨ address = 0 then .dropped item.name
    else .global { item with address := address }

/-- A local variable or parameter.  The offset in a location of two to five bytes
is signed for a variable and unsigned for a parameter. -/
def localOf (unitOffset : Int) (entry : Entry) : Variable :=
  let location := locationOf entry
  let item := variableOf unitOffset entry
  if 2 ≤ location.length ∧ location.length ≤ 5 then
    { item with
      offset :=
        if entry.tag = .variableObject then Leb128.signed location.tail
        else Leb128.unsigned location.tail }
  else item

/-- The place of a member: a constant, or the operand of a short expression. -/
def memberLocation (entry : Entry) : Int :=
  match entry.formClass? AttributeName.memberLocation with
  | some .unsignedConstant => entry.unsigned AttributeName.memberLocation
  | some .signedConstant => entry.signed AttributeName.memberLocation
  | _ =>
      let location := (entry.block? AttributeName.memberLocation).getD []
      if 2 ≤ location.length ∧ location.length ≤ 4 then Leb128.unsigned location.tail else 0

def memberOf (unitOffset : Int) (entry : Entry) : Member where
  name := entry.string? AttributeName.name
  typeOffset := entry.reference AttributeName.type unitOffset
  location := memberLocation entry

/-- A type entry without its members. -/
def plainTypeOf (unitOffset : Int) (entry : Entry) : TypeEntry where
  tag := entry.tag
  offset := entry.offset
  typeOffset := entry.reference AttributeName.type unitOffset
  byteSize := entry.unsigned AttributeName.byteSize
  encoding := entry.unsigned AttributeName.encoding
  name := entry.string? AttributeName.name

/-- The type that an entry describes.  Only a struct or union has members. -/
def typeOf (unitOffset : Int) (entry : Entry) : Except EntryError Contribution :=
  let described := plainTypeOf unitOffset entry
  if entry.tag.isAggregate then
    match entry.children.fault with
    | some fault => .error (.children fault)
    | none =>
        let members := entry.children.items.filter fun child => child.tag = .member
        .ok (.type { described with members := members.map (memberOf unitOffset) })
  else .ok (.type described)

/-- The frame base of a function: its first opcode, or its constant value. -/
def frameBaseOf (entry : Entry) : Int :=
  match entry.block? AttributeName.frameBase with
  | some (opcode :: _) => opcode.toNat
  | _ => entry.unsigned AttributeName.frameBase

/-- The rows whose address lies between two addresses, both included: the row at
the high address of a function belongs to the function too. -/
def slice (rows : List LineRow) (low high : Int) : List LineRow :=
  rows.filter fun row => low ≤ row.address ∧ row.address ≤ high

/-- The function that an entry describes, with its part of the line table. -/
def subprogramOf (unitOffset : Int) (rows : List LineRow) (entry : Entry) :
    Except EntryError Contribution :=
  match entry.children.fault with
  | some fault => .error (.children fault)
  | none =>
      let range := entry.addresses
      let locals := entry.children.items.filter fun child => child.tag.isLocal
      .ok (.subprogram
        { name := entry.string? AttributeName.name
          low := range.1
          high := range.2
          declarationLine := entry.unsigned AttributeName.declarationLine
          frameBase := frameBaseOf entry
          rows := slice rows range.1 range.2
          locals := locals.map (localOf unitOffset) })

/-- Read one child of the top entry of a unit. -/
def outcomeOf (byteOrder : Option ByteOrder) (unitOffset : Int) (rows : List LineRow)
    (entry : Entry) : Outcome :=
  if entry.tag = .variableObject then { contribution := globalOf byteOrder unitOffset entry }
  else if entry.tag.isType then { contribution := typeOf unitOffset entry }
  else if entry.tag = .subprogram then
    { frames := if entry.has AttributeName.frameBase then 1 else 0
      contribution := subprogramOf unitOffset rows entry }
  else { contribution := .ok .nothing }

def contribute (unit : CompilationUnit) : Contribution → CompilationUnit
  | .nothing | .dropped _ => unit
  | .global item => unit.addGlobal item
  | .type entry => unit.addType entry
  | .subprogram subprogram => unit.addSubprogram subprogram

end Extraction
end DebugIndex
