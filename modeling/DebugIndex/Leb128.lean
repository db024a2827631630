/-!
# Variable-length integers

A number is written in groups of seven bits, least significant first, one group
to a byte.  The high bit of a byte says that another group follows.  Reading
stops at the first byte without it, or where the bytes end; what has been read
by then is the number.
-/

namespace DebugIndex
namespace Leb128

/-- The groups read so far: their value, how many bits they span, and the last byte. -/
structure Groups where
  value : Nat
  width : Nat
  last : UInt8
  deriving DecidableEq

def Groups.add (groups : Groups) (byte : UInt8) : Groups where
  value := groups.value + (byte.toNat % 128) * Nat.pow 2 groups.width
  width := groups.width + 7
  last := byte

/-- Read groups up to the first byte that has no successor. -/
def readGroups : Groups → List UInt8 → Groups
  | groups, [] => groups
  | groups, byte :: rest =>
      if byte < 0x80 then groups.add byte
      else readGroups (groups.add byte) rest

def groupsOf (bytes : List UInt8) : Groups :=
  readGroups ⟨0, 0, 0⟩ bytes

def unsigned (bytes : List UInt8) : Nat :=
  (groupsOf bytes).value

/-- The signed number at the start of a list of bytes: the highest bit of the
last group carries the sign. -/
def signed (bytes : List UInt8) : Int :=
  let groups := groupsOf bytes
  if groups.width ≠ 0 ∧ 64 ≤ groups.last.toNat % 128 then
    (groups.value : Int) - Nat.pow 2 groups.width
  else groups.value

end Leb128
end DebugIndex
