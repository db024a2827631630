import DebugIndex.Text.Utf8
import DebugIndex.FileSystem
import DebugIndex.Value.Text

/-!
# Settings

Seven keys, each with a value of any kind.  What a value means is decided where
it is used, so that an odd value troubles only those who need it.
-/

namespace DebugIndex

/-- The keys of settings. -/
inductive Key
  | colors
  | formatVersion
  | maxDepth
  | maxSteps
  | searchPaths
  | encoding
  | verbose
  deriving DecidableEq

namespace Key

/-- The keys in the order in which settings are listed and written. -/
def all : List Key :=
  [.colors, .formatVersion, .maxDepth, .maxSteps, .searchPaths, .encoding, .verbose]

def name : Key → String
  | .colors => "symdb.colors"
  | .formatVersion => "symdb.conf.formatversion"
  | .maxDepth => "symdb.resolve.max_depth"
  | .maxSteps => "symdb.resolve.max_steps"
  | .searchPaths => "symdb.search.paths"
  | .encoding => "symdb.src.encoding"
  | .verbose => "symdb.verbose"

def ofName? (name : String) : Option Key :=
  all.find? fun key => key.name = name

def ofValue? : Value → Option Key
  | .text name => ofName? name
  | _ => none

theorem mem_all (key : Key) : key ∈ all := by
  cases key <;> decide

theorem ofName?_name (key : Key) : ofName? key.name = some key := by
  cases key <;> decide

end Key

/-- How a settings file leaves those who carry it out: with a failure that is not meant to be
tolerated, or never, as it does not come to an end. -/
inductive Escape
  | raised (kind text : String)
  | endless

/-- What is said about it. -/
def Escape.message : Escape → String
  | .raised _ text => text
  | .endless => ""

/-- Why settings can not be used, read or written. -/
inductive SettingsError
  | unknownKey (key : Value)
  | notText (defect : Text.Utf8.Defect)
  | escaped (escape : Escape)
  | unwritable (value : Value)
  | tooLong (value : Value)
  | tooDeep
  | file (failure : FileError) (path : String)

namespace SettingsError

/-- The bytes of a defect and where they stand. -/
def placeOf (defect : Text.Utf8.Defect) : String :=
  match defect.bytes with
  | [byte] =>
      "byte 0x" ++ Numeral.hexPadded 2 byte.toNat ++ " in position " ++
        Numeral.decimal defect.position
  | bytes =>
      "bytes in position " ++ Numeral.decimal defect.position ++ "-" ++
        Numeral.decimal (defect.position + bytes.length - 1)

/-- The wording of the failure. -/
def message : SettingsError → String
  | .unknownKey key => "Not a valid conf key: " ++ key.plain
  | .notText defect =>
      "'utf-8' codec can't decode " ++ placeOf defect ++ ": " ++ defect.reason.description
  | .escaped escape => escape.message
  | .unwritable value => "Cannot serialize config value of type <class '" ++ value.kind ++ "'>"
  | .tooLong _ => Numeral.tooLong
  | .tooDeep => "maximum recursion depth exceeded"
  | .file failure path => failure.message path

end SettingsError

def settingsVersion : Int := 1

/-- A value for every key. -/
structure Settings where
  colors : Value := .bool true
  formatVersion : Value := .int settingsVersion
  maxDepth : Value := .int 8
  maxSteps : Value := .int 64
  searchPaths : Value := .list []
  encoding : Value := .text "latin-1"
  verbose : Value := .bool false

namespace Settings

def get (settings : Settings) : Key → Value
  | .colors => settings.colors
  | .formatVersion => settings.formatVersion
  | .maxDepth => settings.maxDepth
  | .maxSteps => settings.maxSteps
  | .searchPaths => settings.searchPaths
  | .encoding => settings.encoding
  | .verbose => settings.verbose

def set (settings : Settings) (key : Key) (value : Value) : Settings :=
  match key with
  | .colors => { settings with colors := value }
  | .formatVersion => { settings with formatVersion := value }
  | .maxDepth => { settings with maxDepth := value }
  | .maxSteps => { settings with maxSteps := value }
  | .searchPaths => { settings with searchPaths := value }
  | .encoding => { settings with encoding := value }
  | .verbose => { settings with verbose := value }

@[simp]
theorem get_set (settings : Settings) (key other : Key) (value : Value) :
    (settings.set key value).get other = if other = key then value else settings.get other := by
  cases key <;> cases other <;> rfl

/-- The keys with their values, in order, as the entries of a map. -/
def entries (settings : Settings) : List (Value × Value) :=
  Key.all.map fun key => (.text key.name, settings.get key)

def lookup (settings : Settings) (key : Value) : Except SettingsError Value :=
  match Key.ofValue? key with
  | some known => .ok (settings.get known)
  | none => .error (.unknownKey key)

/-- Take over entries one after the other, refusing the first unknown key. -/
def override (settings : Settings) (entries : List (Value × Value)) :
    Except SettingsError Settings :=
  entries.foldlM
    (fun overridden entry =>
      match Key.ofValue? entry.1 with
      | some key => .ok (overridden.set key entry.2)
      | none => .error (.unknownKey entry.1))
    settings

end Settings
end DebugIndex
