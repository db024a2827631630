import DebugIndex.Text.Numeral

/-!
# Source status

What became of the source file that a compilation unit claims to come from.
-/

namespace DebugIndex

/-- The state of a source file: found and read, impossible to find or open, newer
than the executable, or impossible to inspect. -/
inductive SourceStatus
  | ok
  | noFile
  | outdatedFile
  | noFileInfo
  deriving DecidableEq

namespace SourceStatus

def code : SourceStatus → Nat
  | .ok => 0
  | .noFile => 1
  | .outdatedFile => 2
  | .noFileInfo => 3

def name : SourceStatus → String
  | .ok => "Ok"
  | .noFile => "NoFile"
  | .outdatedFile => "OutdatedFile"
  | .noFileInfo => "NoFileInfo"

def ofCode? : Int → Option SourceStatus
  | 0 => some .ok
  | 1 => some .noFile
  | 2 => some .outdatedFile
  | 3 => some .noFileInfo
  | _ => none

/-- The word for the status of a number, also for a number that has none. -/
def nameOfCode (code : Int) : String :=
  match ofCode? code with
  | some status => status.name
  | none => "<unknown status " ++ Numeral.decimal code ++ ">"

end SourceStatus
end DebugIndex
