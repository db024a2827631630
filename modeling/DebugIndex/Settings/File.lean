import DebugIndex.Message.Basic
import DebugIndex.Settings.Interpreter

/-!
# Settings files

A settings file assigns a format version and a map.  Reading lays the entries of
the map over defaults; a file that makes no sense leaves the defaults alone and
says so.  Writing gives every entry of a map a line of its own.
-/

namespace DebugIndex
namespace SettingsFile

def versionName : String := "formatversion"

/-- A text with every kind of line end turned into a newline. -/
def plainLines : List Char → List Char
  | [] => []
  | '\r' :: '\n' :: rest => '\n' :: plainLines rest
  | '\r' :: rest => '\n' :: plainLines rest
  | character :: rest => character :: plainLines rest

def readText (files : FileSystem) (path : String) : Except SettingsError (List Char) :=
  match files.read path with
  | .error failure => .error (.file failure path)
  | .ok content =>
      match Text.Utf8.decode content with
      | .ok characters => .ok (plainLines characters)
      | .error defect => .error (.notText defect)

/-- The variables of a file, and whether it made sense.  A file that makes none counts as an empty
map of the current version. -/
def variablesOf (interpreter : Interpreter) (mapName : String) (characters : List Char) :
    Except SettingsError (List (String × Value) × Bool) :=
  match interpreter.run mapName characters with
  | .bound assigned => .ok (assigned, true)
  | .failed => .ok ([(versionName, .int settingsVersion), (mapName, .map [])], false)
  | .escaped escape => .error (.escaped escape)

/-- The entries that the variables of a file hold, and what is wrong with them. -/
def entriesOf (path mapName : String) (assigned : List (String × Value)) :
    Except SettingsError (List (Value × Value) × List Message) :=
  let version := (assigned.lookup versionName).getD .null
  if version.whole?.any (· ≤ settingsVersion) then
    match assigned.lookup mapName with
    | some (.map entries) => .ok (entries, [])
    | _ => .ok ([], [.ofLevel .err ("Error in format for config file '" ++ path ++ "'")])
  else if version.isShort then
    .ok ([], [.ofLevel .err
      ("Error: Cannot read config file '" ++ path ++ "' with version " ++ version.plain)])
  else .error (.tooLong version)

/-- The entries of a file's text, and what is wrong with it. -/
def parse (interpreter : Interpreter) (path mapName : String) (characters : List Char) :
    Except SettingsError (List (Value × Value) × List Message) := do
  let (assigned, sensible) ← variablesOf interpreter mapName characters
  let (entries, messages) ← entriesOf path mapName assigned
  let warning := .ofLevel .warn ("Warning: error parsing config file '" ++ path ++ "'")
  return (entries, if sensible then messages else warning :: messages)

/-- Entries laid over others, one after the other. -/
def overlay (defaults entries : List (Value × Value)) : List (Value × Value) :=
  entries.foldl (fun known entry => Value.put known entry.1 entry.2) defaults

/-- Read a file on top of defaults: the entries, and the messages about it.  Only
a path with a null character, a file that is not text or is left by what it does itself, and
an unknown version that can not be shown are refused. -/
def load (interpreter : Interpreter) (files : FileSystem) (path mapName : String)
    (defaults : List (Value × Value)) :
    Except SettingsError (List (Value × Value) × List Message) :=
  match readText files path with
  | .ok characters =>
      (parse interpreter path mapName characters).map fun (entries, messages) =>
        (overlay defaults entries, messages)
  | .error (.file failure path) =>
      if failure.isReported then
        .ok (defaults, [.ofLevel .warn
          ("Warning: could not read config file '" ++ path ++ "': " ++ failure.message path)])
      else .error (.file failure path)
  | .error error => .error error

/-- A text that has been written, up to the first value that can not be written,
and why it can not. -/
structure Written where
  text : String
  refusal : Option SettingsError := none

namespace Written

/-- Go on writing, unless a value could not be written. -/
def andThen (written : Written) (next : Written) : Written :=
  if written.refusal.isSome then written
  else ⟨written.text ++ next.text, next.refusal⟩

/-- Write the text of a value between two others, if the value has a text. -/
def ofValue (before : String) (value : Value) (behind : String) : Written :=
  if value.isShort then ⟨before ++ value.written ++ behind, none⟩
  else ⟨"", some (.tooLong value)⟩

end Written

mutual

/-- Write a value in which no more than some levels can be gone down.  Tuples are written as lists;
maps, bytes and objects can not be written. -/
def writeValue (levels : Nat) : Value → Written
  | .list items | .tuple items =>
      ((Written.mk "[" none).andThen (writeItems levels items)).andThen ⟨"]", none⟩
  | .map entries => ⟨"", some (.unwritable (.map entries))⟩
  | .bytes content => ⟨"", some (.unwritable (.bytes content))⟩
  | .object kind shown => ⟨"", some (.unwritable (.object kind shown))⟩
  | value => .ofValue "" value ""

def writeItems (levels : Nat) : List Value → Written
  | [] => ⟨"", none⟩
  | item :: rest =>
      match levels with
      | 0 => ⟨"", some .tooDeep⟩
      | levels + 1 =>
          ((writeValue levels item).andThen ⟨", ", none⟩).andThen (writeItems (levels + 1) rest)

end

/-- Write an entry of a map on a line of its own.  Of an entry under the null key
only the value is written. -/
def writeEntry (levels : Nat) : Value × Value → Written
  | (.null, value) => writeValue levels value
  | (key, value) =>
      ((Written.ofValue "  " key ": ").andThen (writeValue levels value)).andThen ⟨",\n", none⟩

def writeEntries (levels : Nat) : List (Value × Value) → Written
  | [] => ⟨"", none⟩
  | entry :: rest => (writeEntry levels entry).andThen (writeEntries levels rest)

/-- The beginning of a file: its version and the name of its map. -/
def opening (mapName : String) : String :=
  versionName ++ " = " ++ Numeral.decimal settingsVersion ++ "\n" ++ mapName ++ " = \x7b\n\n"

/-- The end of a file. -/
def closing : String := "\n\x7d\n"

def render (levels : Nat) (mapName : String) (entries : List (Value × Value)) : Written :=
  ((Written.mk (opening mapName) none).andThen (writeEntries levels entries)).andThen
    ⟨closing, none⟩

/-- Write a file.  A value that can not be written cuts the file off in front of it. -/
def save (levels : Nat) (files : FileSystem) (path mapName : String)
    (entries : List (Value × Value)) : FileSystem × Except SettingsError Unit :=
  let written := render levels mapName entries
  let saved := files.write path (Text.Utf8.encode written.text) 0
  (saved.1,
    match saved.2, written.refusal with
    | .error failure, _ => .error (.file failure path)
    | .ok (), some refusal => .error refusal
    | .ok (), none => .ok ())

end SettingsFile
end DebugIndex
