import DebugIndex.Capability
import DebugIndex.Text.Numeral
import DebugIndex.Text.Blank

/-!
# Variables

A variable is a global with an absolute address, a local or parameter with an
offset from its frame, or a member with an offset inside its aggregate.  Its
type, once resolved, is a display name, a size, an encoding, capabilities and,
for an aggregate, the members.
-/

namespace DebugIndex

/-- A named, typed storage location.  The opcode is the first byte of the
location expression, zero if there is none. -/
structure Variable where
  name : Option String := none
  typeOffset : Int := 0
  opcode : Int := 0
  address : Int := 0
  offset : Int := 0
  typeName : String := ""
  capabilities : Nat := 0
  byteSize : Int := 0
  encoding : Int := 0
  members : List Variable := []

namespace Variable

/-- Whether the type of a variable runs through a pointer. -/
def isPointer (item : Variable) : Bool :=
  Capability.pointer.isIn item.capabilities

/-- Whether the type of a variable is a struct or a union. -/
def isComposite (item : Variable) : Bool :=
  Capability.isComposite item.capabilities

/-- A variable in one line: type, name and place. -/
def text (item : Variable) : String :=
  let place :=
    if item.address ≠ 0 then "@" ++ Numeral.address item.address
    else "@fb" ++ Numeral.signed item.offset
  Text.trim item.typeName ++ " " ++ item.name.getD "None" ++ " " ++ place

end Variable
end DebugIndex
