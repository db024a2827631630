import DebugIndex.Text.Quoted

/-!
# Reader faults

A reader of debug information can fail at any point.  What it has delivered by
then stays valid, so a sequence that is read comes as its items together with
the fault that cut it short, if one did.
-/

namespace DebugIndex

/-- The kinds of failure of a reader. -/
inductive FaultKind
  | outOfMemory
  | badValue
  | system
  | missingKey
  | malformedFile
  | malformedHeader
  | malformedDebugInfo
  deriving DecidableEq

/-- A failure of a reader and what it says. -/
structure Fault where
  kind : FaultKind
  message : String
  deriving DecidableEq

namespace Fault

/-- What a fault says inside a sentence: a missing key is quoted. -/
def text (fault : Fault) : String :=
  if fault.kind = .missingKey then Text.quoted fault.message else fault.message

/-- Whether the fault is exhausted memory, which nothing tolerates. -/
def isFatal (fault : Fault) : Bool :=
  fault.kind = .outOfMemory

/-- Whether the fault says that the file or its debug information is malformed. -/
def isMalformed (fault : Fault) : Bool :=
  match fault.kind with
  | .malformedFile | .malformedHeader | .malformedDebugInfo => true
  | _ => false

end Fault

/-- The items that a reader delivered, and the fault that ended them early. -/
structure Feed (α : Type) where
  items : List α
  fault : Option Fault := none

end DebugIndex
