import DebugIndex.Settings.File

/-!
# Settings stores

A store holds settings and knows where they came from.  Settings that came with
a file are written back to it whenever one of them changes.  Whoever listens to a
store is told about each change before it is written.
-/

namespace DebugIndex

/-- Settings, the file that they belong to, whether they are written back to it, how many levels of
a value can be gone down then, and whether anybody listens to changes. -/
structure SettingsStore where
  settings : Settings := {}
  path : String
  persistent : Bool := false
  levels : Nat := 0
  listening : Bool := false

namespace SettingsStore

/-- The variable of a settings file that holds the settings. -/
def mapName : String := "config"

/-- A store with given entries over the defaults, apart from any file. -/
def ofEntries (path : String) (entries : List (Value × Value)) :
    Except SettingsError SettingsStore :=
  (({} : Settings).override entries).map fun settings => { settings := settings, path := path }

/-- The settings in the entries of a map, and the entries with an unknown key. -/
def settingsOf (entries : List (Value × Value)) : Settings × List (Value × Value) :=
  entries.foldl
    (fun gathered entry =>
      match Key.ofValue? entry.1 with
      | some key => (gathered.1.set key entry.2, gathered.2)
      | none => (gathered.1, gathered.2 ++ [entry]))
    ({}, [])

/-- What is said about a key that is not known. -/
def unknownKeyMessage (key : Value) : Message :=
  .ofLevel .warn ("Ignoring unknown config key '" ++ key.plain ++ "'")

/-- What loading a store led to: the messages on the way, and the store. -/
structure Loading where
  messages : List Message := []
  outcome : Except SettingsError SettingsStore

/-- A store with the settings in entries, each unknown key of which gets a message.
An unknown key that can not be shown is refused. -/
def ofFileEntries (levels : Nat) (path : String) (entries : List (Value × Value)) : Loading :=
  let sorted := settingsOf entries
  let unknown := sorted.2.map Prod.fst
  { messages := (unknown.takeWhile Value.isShort).map unknownKeyMessage
    outcome :=
      match unknown.find? fun key => !key.isShort with
      | some key => .error (.tooLong key)
      | none =>
          .ok { settings := sorted.1, path := path, persistent := true, levels := levels } }

/-- A store with the settings of a file, or with the defaults if there is no such
file, and the messages about the file. -/
def load (interpreter : Interpreter) (files : FileSystem) (path : String) : Loading :=
  if files.has path then
    match SettingsFile.load interpreter files path mapName ({} : Settings).entries with
    | .error error => { outcome := .error error }
    | .ok (entries, messages) =>
        let loading := ofFileEntries interpreter.mostLevels path entries
        { loading with messages := messages ++ loading.messages }
  else { outcome := .ok { path := path } }

/-- A store after a change: the files, the changes that a listener is told, and
whether everything went well. -/
structure Change where
  store : SettingsStore
  files : FileSystem
  told : List (Key × Value)
  outcome : Except SettingsError Unit

def persist (store : SettingsStore) (files : FileSystem) :
    SettingsStore × FileSystem × Except SettingsError Unit :=
  if store.persistent then
    let current :=
      { store with
        settings := store.settings.set .formatVersion (.int settingsVersion) }
    let saved := SettingsFile.save store.levels files store.path mapName current.settings.entries
    (current, saved.1, saved.2)
  else (store, files, .ok ())

/-- Give a key a value, tell whoever listens, and write the settings back. -/
def set (store : SettingsStore) (files : FileSystem) (key value : Value) : Change :=
  match Key.ofValue? key with
  | none => ⟨store, files, [], .error (.unknownKey key)⟩
  | some known =>
      let changed := { store with settings := store.settings.set known value }
      let persisted := changed.persist files
      ⟨persisted.1, persisted.2.1, if store.listening then [(known, value)] else [],
        persisted.2.2⟩

end SettingsStore
end DebugIndex
