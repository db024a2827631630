import DebugIndex.Database.QueryError
import DebugIndex.Reader.Fault
import DebugIndex.Settings.Basic
import DebugIndex.SourceText

/-!
# Failures

Everything that can keep an index from being built or described.  Most trouble with
debug information is tolerated and becomes an event; what is listed here is not.
-/

namespace DebugIndex

/-- Why an executable could not be opened. -/
inductive OpenError
  | file (failure : FileError) (path : String)
  | reader (fault : Fault)

namespace OpenError

def message : OpenError → String
  | .file failure path => failure.message path
  | .reader fault => fault.text

end OpenError

/-- Why no index could be built or described. -/
inductive Failure
  | reader (fault : Fault)
  | outOfMemory (offset : Int) (cause : Fault)
  | encoding (cause : EncodingError)
  | limit (value : Value)
  | searchPaths (value : Value)
  | tooLong (value : Value)
  | lineCount (count : Int)
  | settings (cause : SettingsError)
  | query (cause : QueryError)
  | notPath (value : Value)
  | file (failure : FileError) (path : String)
  | unopened (path : String) (cause : OpenError)
  | noDebugInformation (path : String)
  | unreadable (path : String) (cause : Fault)

namespace Failure

def message : Failure → String
  | .reader fault => fault.message
  | .outOfMemory offset _ => "Out of memory building unit at offset " ++ Numeral.address offset
  | .encoding cause => cause.message
  | .limit value => (QueryError.unordered ">=" (Value.int 0).kind value.kind).message
  | .searchPaths value => "'" ++ value.kind ++ "' object is not iterable"
  | .tooLong _ => Numeral.tooLong
  | .lineCount _ => "cannot fit 'int' into an index-sized integer"
  | .settings cause => cause.message
  | .query cause => cause.message
  | .notPath value => "expected str, bytes or os.PathLike object, not " ++ value.kind
  | .file failure path => failure.message path
  | .unopened path cause => "Cannot read ELF file " ++ path ++ ": " ++ cause.message
  | .noDebugInformation path => "No debug information in " ++ path
  | .unreadable path cause => "Error reading debug info from " ++ path ++ ": " ++ cause.text

/-- Whether the failure says that no index can be had of an executable, rather
than that something else went wrong on the way. -/
def isIndexFailure : Failure → Bool
  | .outOfMemory .. | .unopened .. | .noDebugInformation _ | .unreadable .. => true
  | _ => false

end Failure
end DebugIndex
