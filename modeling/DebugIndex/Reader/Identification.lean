import DebugIndex.Reader.Unit

/-!
# Identification of executables

The first bytes of a file say whether it is an executable at all.  What lies in
its sections is left to a reader that knows them; without one, an executable
counts as one without debug information.
-/

namespace DebugIndex
namespace Identification

/-- The bytes at the beginning of every executable. -/
def magic : List UInt8 := [0x7f, 0x45, 0x4c, 0x46]

def notExecutable : Fault := ⟨.malformedFile, "Magic number does not match"⟩

/-- Whether the sixth byte says that numbers are stored with the low byte first. -/
def isLittleEndian (content : List UInt8) : Bool :=
  content[5]? = some 1

def read (content : List UInt8) : Except Fault Image :=
  if magic.isPrefixOf content then .ok { littleEndian := isLittleEndian content }
  else .error notExecutable

end Identification
end DebugIndex
