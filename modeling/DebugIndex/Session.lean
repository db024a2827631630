import DebugIndex.Database.Argument
import DebugIndex.Message.Trace
import DebugIndex.Settings.Store

/-!
# Sessions

A session is a database together with the settings that it was made with and
what they govern while it is used: whether progress is traced, and whether
output is coloured.  A change of either setting takes effect at once.
-/

namespace DebugIndex

/-- A database in use.  The colours are governed by the setting's own value. -/
structure Session where
  database : Database
  store : SettingsStore
  files : FileSystem
  colors : Value
  tracing : Bool

namespace Session

/-- What a database is built from. -/
structure Request where
  files : FileSystem
  store : SettingsStore
  codecs : Text.Codecs := {}
  mostLines : Nat := 4294967296
  searchPaths : Option (List Value) := none
  executableModified : Option Int := none
  elapsed : String := ""

/-- The search paths that count: those of the request, or those of the settings. -/
def searchPathsOf (request : Request) : Except Value (List Value) :=
  match request.searchPaths with
  | some paths => .ok paths
  | none => Database.searchPathsOf request.store.settings.searchPaths

/-- What the units are built with. -/
def contextOf (request : Request) (searchPaths : List Value) : BuildContext where
  files := request.files
  settings := request.store.settings
  codecs := request.codecs
  mostLines := request.mostLines
  searchPaths := searchPaths
  executableModified := request.executableModified

def traces (settings : Settings) : Bool :=
  settings.verbose.truthy

def start (request : Request) (source : Feed UnitSource) : Report Session :=
  (Report.ofExcept Failure.searchPaths (searchPathsOf request)).bind fun searchPaths =>
    (Database.ingest (contextOf request searchPaths) source request.elapsed).bind fun database =>
      Report.pure
        { database := database
          store := { request.store with listening := true }
          files := request.files
          colors := request.store.settings.colors
          tracing := traces request.store.settings }

def notice (session : Session) (change : Key × Value) : Session :=
  match change.1 with
  | .verbose | .colors =>
      { session with
        colors := session.store.settings.colors
        tracing := traces session.store.settings }
  | _ => session

def set (session : Session) (key value : Value) : Session × Except SettingsError Unit :=
  let change := session.store.set session.files key value
  let changed := { session with store := change.store, files := change.files }
  (change.told.foldl notice changed, change.outcome)

def get (session : Session) (key : Value) : Except SettingsError Value :=
  session.store.settings.lookup key

/-- The messages of a trace: one if tracing is on. -/
def trace (session : Session) (values : List Value) : List Message :=
  if session.tracing then [.ofLevel .debug (Trace.text values)] else []

end Session
end DebugIndex
