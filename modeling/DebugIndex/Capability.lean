/-!
# Type capabilities

What a chain of type references says about a variable, kept as one bit for each
capability so that the capabilities of a chain are the union of those of its
entries.
-/

namespace DebugIndex

/-- A structural trait of a type. -/
inductive Capability
  | struct
  | union
  | pointer
  | array
  | subrange
  | const
  | typedef
  | enum
  | subroutine
  deriving DecidableEq

namespace Capability

def position : Capability → Nat
  | .struct => 0
  | .pointer => 1
  | .subrange => 2
  | .array => 3
  | .const => 4
  | .typedef => 5
  | .enum => 6
  | .subroutine => 7
  | .union => 8

def name : Capability → String
  | .struct => "struct"
  | .union => "union"
  | .pointer => "pointer"
  | .array => "array"
  | .subrange => "subrange"
  | .const => "const"
  | .typedef => "typedef"
  | .enum => "enum"
  | .subroutine => "subroutine"

/-- All capabilities in the order in which they are described. -/
def all : List Capability :=
  [.struct, .union, .pointer, .array, .subrange, .const, .typedef, .enum, .subroutine]

def mask (capability : Capability) : Nat :=
  Nat.pow 2 capability.position

/-- Whether the bits of a whole number, in two's complement, include a capability. -/
def isIn (capability : Capability) : Int → Bool
  | .ofNat bits => bits.testBit capability.position
  | .negSucc bits => !bits.testBit capability.position

/-- The words of the capabilities that are set, in order, separated by commas. -/
def describe (bits : Int) : String :=
  ", ".intercalate ((all.filter fun capability => capability.isIn bits).map name)

def isComposite (bits : Int) : Bool :=
  struct.isIn bits || union.isIn bits

end Capability
end DebugIndex
