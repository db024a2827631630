import DebugIndex.Proofs.Settings.CarryingOut
import DebugIndex.Proofs.Settings.Loading

/-!
# Settings that are written and read again

A settings file that has been written in full is read without a complaint, as the entries that
have been written, with lists in place of tuples.  A store whose settings came with a file writes
them back on every change, so a store that is loaded from the file after some changes has the
settings that the changed one has.
-/

namespace DebugIndex

/-! ## Files -/

namespace SettingsFile

variable {levels : Nat} {files changed : FileSystem} {path mapName : String} {names : List String}
variable {entries : List (Value × Value)}

/-- To every interpreter a file with entries under different keys holds these entries, with lists in
place of tuples, unless it makes no sense. -/
theorem ofText_spelling (interpreter : Interpreter)
    (spelled : ∀ entry ∈ entries, Value.IsSpelledEntry entry)
    (different : entries.Pairwise fun first second => first.1.same second.1 = false) :
    Content.ofText interpreter (plainLines (spelling "config" entries)) =
      if isReadable interpreter entries then
        .holding (entries.map fun entry => (entry.1, entry.2.listed))
      else .senseless := by
  have carriedOut : interpreter.run SettingsStore.mapName
      (plainLines (spelling "config" entries)) = _ := run_spelling interpreter spelled different
  by_cases readable : isReadable interpreter entries = true
  · rw [Content.ofText, carriedOut, if_pos readable, if_pos readable]
    rfl
  · rw [Content.ofText, carriedOut, if_neg readable, if_neg readable]

theorem readText_of_read {text : String} (found : files.read path = .ok (Text.Utf8.encode text)) :
    readText files path = .ok (plainLines text.toList) :=
  SettingsStore.readText_of_decode found (Text.Utf8.decode_encode text)

/-! ### Saving -/

theorem save_of_placeToWrite_error {failure : FileError}
    (refused : files.placeToWrite path = .error failure) :
    save levels files path mapName entries = (files, .error (.file failure path)) := by
  simp only [save, FileSystem.write_of_placeToWrite_error refused]

theorem fst_save (opened : files.placeToWrite path = .ok names) :
    (save levels files path mapName entries).1 =
      files.place names (.file
        (files.kept path (Text.Utf8.encode (render levels mapName entries).text)) 0) := by
  rw [save, FileSystem.fst_write opened]

/-- Saving fails if it is broken off, or else if a value can not be written. -/
theorem snd_save_eq_error_iff (opened : files.placeToWrite path = .ok names)
    {failure : SettingsError} :
    (save levels files path mapName entries).2 = .error failure ↔
      (∃ cause, files.finish path (Text.Utf8.encode (render levels mapName entries).text) =
          .error cause ∧ failure = .file cause path) ∨
        files.finish path (Text.Utf8.encode (render levels mapName entries).text) = .ok () ∧
          (render levels mapName entries).refusal = some failure := by
  rw [save, FileSystem.snd_write opened]
  cases files.finish path (Text.Utf8.encode (render levels mapName entries).text) with
  | error cause => simp [eq_comm]
  | ok => cases (render levels mapName entries).refusal <;> simp

theorem snd_save_eq_ok_iff :
    (save levels files path mapName entries).2 = .ok () ↔
      (files.write path (Text.Utf8.encode (render levels mapName entries).text) 0).2 = .ok () ∧
        (render levels mapName entries).refusal = none := by
  rw [save]
  cases (files.write path (Text.Utf8.encode (render levels mapName entries).text) 0).2 with
  | error cause => simp
  | ok => cases (render levels mapName entries).refusal <;> simp

/-- What has been saved in full, in place of a file that can be read, is there and is its
spelling. -/
theorem read_save {held : List UInt8} (found : files.read path = .ok held)
    (named : ∀ entry ∈ entries, ∃ name, entry.1 = .text name)
    (saved : (save levels files path mapName entries).2 = .ok ()) :
    (∀ entry ∈ entries, entry.2.isWritable levels = true) ∧
      (save levels files path mapName entries).1.read path =
        .ok (Text.Utf8.encode (String.ofList (spelling mapName entries))) := by
  obtain ⟨done, accepted⟩ := snd_save_eq_ok_iff.mp saved
  have writable := (render_refusal_eq_none_iff named).mp accepted
  have rendered : render levels mapName entries = _ := render_of_isWritable named writable
  exact ⟨writable, (FileSystem.read_fst_write found done).trans (by rw [rendered])⟩

end SettingsFile

/-! ## Stores -/

namespace SettingsStore

variable {interpreter later : Interpreter} {files final : FileSystem} {path : String} {depth : Nat}
variable {store changed : SettingsStore} {changes : List (Value × Value)} {key value : Value}
variable {name : Key} {names : List String}

/-- Give keys values one after the other, up to the first that is refused. -/
def setAll (store : SettingsStore) (files : FileSystem) :
    List (Value × Value) → Except SettingsError (SettingsStore × FileSystem)
  | [] => .ok (store, files)
  | (key, value) :: rest =>
      let change := store.set files key value
      change.outcome.bind fun _ => change.store.setAll change.files rest

theorem setAll_cons (done : (store.set files key value).outcome = .ok ())
    (rest : List (Value × Value)) :
    store.setAll files ((key, value) :: rest) =
      (store.set files key value).store.setAll (store.set files key value).files rest := by
  rw [setAll, done]
  rfl

theorem exists_text_of_mem_entries {settings : Settings} :
    ∀ entry ∈ settings.entries, ∃ name, entry.1 = .text name := by
  intro entry member
  obtain ⟨key, -, rfl⟩ := List.mem_map.mp member
  exact ⟨_, rfl⟩

theorem forall_mem_entries {settings : Settings} {holds : Value → Prop}
    (all : ∀ key, holds (settings.get key)) : ∀ entry ∈ settings.entries, holds entry.2 :=
  List.forall_mem_map.mpr fun key _ => all key

/-! ### Changes -/

def settingsAfter (store : SettingsStore) (name : Key) (value : Value) : Settings :=
  (store.settings.set name value).set .formatVersion (.int settingsVersion)

/-- What holds of all settings, of a new value and of the version holds after the change. -/
theorem forall_get_settingsAfter {holds : Value → Prop}
    (all : ∀ key, holds (store.settings.get key)) (new : holds value)
    (version : holds (.int settingsVersion)) (name key : Key) :
    holds ((store.settingsAfter name value).get key) :=
  Settings.forall_get_set (Settings.forall_get_set all new name) version .formatVersion key

theorem get_settingsAfter (store : SettingsStore) (name other : Key) (value : Value) :
    (store.settingsAfter name value).get other =
      if other = .formatVersion then .int settingsVersion
      else if other = name then value else store.settings.get other := by
  rw [settingsAfter, Settings.get_set, Settings.get_set]

/-- What a store writes to its file: the text, and why it goes no further. -/
def written (store : SettingsStore) : SettingsFile.Written :=
  SettingsFile.render store.levels mapName store.settings.entries

def bytes (store : SettingsStore) : List UInt8 :=
  Text.Utf8.encode store.written.text

/-- A store after the change of a known key has been written back. -/
def after (store : SettingsStore) (name : Key) (value : Value) : SettingsStore :=
  { store with settings := store.settingsAfter name value }

theorem set_of_unknown (unknown : Key.ofValue? key = none) :
    store.set files key value = ⟨store, files, [], .error (.unknownKey key)⟩ := by
  simp only [set, unknown]

theorem set_of_persistent (persistent : store.persistent = true)
    (known : Key.ofValue? key = some name) :
    store.set files key value =
      ⟨store.after name value,
        (SettingsFile.save store.levels files store.path mapName
          (store.settingsAfter name value).entries).1,
        if store.listening then [(name, value)] else [],
        (SettingsFile.save store.levels files store.path mapName
          (store.settingsAfter name value).entries).2⟩ := by
  simp only [set, known, persist, after, persistent, if_true]
  rfl

/-- Whether the settings of a store belong to a file that can be read. -/
structure IsKept (path : String) (store : SettingsStore) (files : FileSystem) : Prop where
  found : ∃ held, files.read path = .ok held
  path_eq : store.path = path
  persistent : store.persistent = true

/-- Whether the file of a store holds its settings in full. -/
structure IsWritten (path : String) (store : SettingsStore) (files : FileSystem) : Prop where
  writable : ∀ entry ∈ store.settings.entries, entry.2.isWritable store.levels = true
  read : files.read path = .ok
    (Text.Utf8.encode (String.ofList (SettingsFile.spelling mapName store.settings.entries)))

namespace IsWritten

theorem spelled (written : IsWritten path store files) :
    ∀ entry ∈ store.settings.entries, Value.IsSpelledEntry entry := fun entry member =>
  ⟨exists_text_of_mem_entries entry member,
    Value.isSpelled_of_isWritable _ (written.writable entry member)⟩

theorem readText (written : IsWritten path store files) :
    SettingsFile.readText files path =
      .ok (SettingsFile.plainLines (SettingsFile.spelling mapName store.settings.entries)) := by
  rw [SettingsFile.readText_of_read written.read, String.toList_ofList]

end IsWritten

/-- A change that nothing keeps from being written leaves the settings in the file. -/
theorem set_isWritten (kept : IsKept path store files)
    (done : (store.set files key value).outcome = .ok ()) :
    IsKept path (store.set files key value).store (store.set files key value).files ∧
      IsWritten path (store.set files key value).store (store.set files key value).files := by
  obtain ⟨⟨held, found⟩, rfl, persistent⟩ := kept
  cases known : Key.ofValue? key with
  | none =>
      rw [set_of_unknown known] at done
      cases done
  | some name =>
      rw [set_of_persistent persistent known] at done ⊢
      obtain ⟨writable, read⟩ := SettingsFile.read_save found exists_text_of_mem_entries done
      exact ⟨⟨⟨_, read⟩, rfl, persistent⟩, writable, read⟩

/-- After changes that nothing keeps from being written, the file holds the settings, if there
was any change or it held them before. -/
theorem setAll_isWritten (kept : IsKept path store files)
    (written : changes ≠ [] ∨ IsWritten path store files)
    (done : store.setAll files changes = .ok (changed, final)) :
    IsWritten path changed final := by
  induction changes generalizing store files with
  | nil =>
      cases done
      exact written.resolve_left fun other => other rfl
  | cons change rest ih =>
      obtain ⟨key, value⟩ := change
      cases outcome : (store.set files key value).outcome with
      | error failure =>
          rw [setAll, outcome] at done
          cases done
      | ok =>
          rw [setAll_cons outcome] at done
          obtain ⟨keptAfter, writtenAfter⟩ := set_isWritten kept outcome
          exact ih keptAfter (Or.inr writtenAfter) done

/-- What holds of all settings, of all new values and of the version holds after the changes. -/
theorem forall_get_setAll {holds : Value → Prop} (persistent : store.persistent = true)
    (all : ∀ key, holds (store.settings.get key)) (new : ∀ change ∈ changes, holds change.2)
    (version : holds (.int settingsVersion))
    (done : store.setAll files changes = .ok (changed, final)) :
    ∀ key, holds (changed.settings.get key) := by
  induction changes generalizing store files with
  | nil =>
      cases done
      exact all
  | cons change rest ih =>
      obtain ⟨key, value⟩ := change
      obtain ⟨newFirst, newRest⟩ := List.forall_mem_cons.mp new
      cases outcome : (store.set files key value).outcome with
      | error failure =>
          rw [setAll, outcome] at done
          cases done
      | ok =>
          rw [setAll_cons outcome] at done
          cases known : Key.ofValue? key with
          | none =>
              rw [set_of_unknown known] at outcome
              cases outcome
          | some name =>
              rw [set_of_persistent persistent known] at done
              refine ih ?_ ?_ newRest done
              · exact persistent
              · exact forall_get_settingsAfter all newFirst version name

/-! ### Changes that are written -/

/-- Whether nothing keeps the settings of a store from being written. -/
structure IsWritable (store : SettingsStore) (files : FileSystem) : Prop where
  leads : ∃ names, files.LeadsTo store.path names
  free : files.obstacles = {}
  persistent : store.persistent = true
  writable : ∀ key, (store.settings.get key).isWritable store.levels = true

/-- Nothing keeps the change of a known key from being opened and finished: the file gets the new
text, as far as it can be written. -/
theorem set_of_isWritable (kept : IsWritable store files) (leads : files.LeadsTo store.path names)
    (known : Key.ofValue? key = some name) :
    store.set files key value =
      ⟨store.after name value, files.place names (.file (store.after name value).bytes 0),
        if store.listening then [(name, value)] else [],
        match (store.after name value).written.refusal with
        | some refusal => .error refusal
        | none => .ok ()⟩ := by
  have opened : files.placeToWrite store.path = .ok names := by
    rw [leads.placeToWrite, kept.free]
    rfl
  have rendered : (store.after name value).written =
      SettingsFile.render store.levels mapName (store.settingsAfter name value).entries := rfl
  rw [set_of_persistent kept.persistent known, SettingsFile.fst_save opened, SettingsFile.save,
    FileSystem.snd_write opened, bytes, rendered]
  simp only [FileSystem.kept, FileSystem.finish, kept.free]
  cases (SettingsFile.render store.levels mapName
    (store.settingsAfter name value).entries).refusal <;> rfl

theorem isWritable_version (levels : Nat) :
    (Value.int settingsVersion).isWritable levels = true := by
  have short : (Value.int settingsVersion).isShort = true := by decide +kernel
  simpa [Value.isWritable] using short

/-- If all settings and a new value can be written, a store is written in full after the change. -/
theorem refusal_after (writable : ∀ key, (store.settings.get key).isWritable store.levels = true)
    (new : value.isWritable store.levels = true) (name : Key) :
    (store.after name value).written.refusal = none := by
  have all := @forall_get_settingsAfter store value
    (fun value => value.isWritable store.levels = true) writable new (isWritable_version _) name
  exact (SettingsFile.render_refusal_eq_none_iff exists_text_of_mem_entries).mpr
    (@forall_mem_entries _ (fun value => value.isWritable store.levels = true) all)

theorem exists_set (kept : IsWritable store files) (known : Key.ofValue? key = some name)
    (writable : value.isWritable store.levels = true) :
    ∃ changed, store.set files key value =
        ⟨store.after name value, changed, if store.listening then [(name, value)] else [],
          .ok ()⟩ ∧
      IsWritable (store.after name value) changed := by
  have writableAfter := @forall_get_settingsAfter store value
    (fun value => value.isWritable store.levels = true) kept.writable writable
    (isWritable_version _) name
  obtain ⟨names, leads⟩ := kept.leads
  refine ⟨files.place names (.file (store.after name value).bytes 0), ?_,
    ⟨names, leads.place _ 0⟩, kept.free, kept.persistent, writableAfter⟩
  rw [set_of_isWritable kept leads known, refusal_after kept.writable writable]

/-! ### Loading -/

/-- The text of a file that holds the settings of a store makes sense as their entries, or not at
all. -/
theorem ofText_of_isWritten (later : Interpreter) (written : IsWritten path store files) :
    SettingsFile.Content.ofText later (SettingsFile.plainLines
        (SettingsFile.spelling mapName store.settings.entries)) =
      if SettingsFile.isReadable later store.settings.entries then
        .holding store.settings.listed.entries
      else .senseless :=
  SettingsFile.ofText_spelling later written.spelled store.settings.pairwise_entries

/-- The settings of a store whose file holds them are loaded from it without a message, unless the
file makes no sense: the defaults take their place then. -/
theorem load_of_isWritten (later : Interpreter) (written : IsWritten path store files) :
    load later files path =
      if SettingsFile.isReadable later store.settings.entries then
        ⟨[], .ok { settings := store.settings.listed, path := path, persistent := true,
                   levels := later.mostLevels }⟩
      else
        ⟨[SettingsFile.senseWarning path],
          .ok { path := path, persistent := true, levels := later.mostLevels }⟩ := by
  have there := FileSystem.has_of_read written.read
  have said := ofText_of_isWritten later written
  cases readable : SettingsFile.isReadable later store.settings.entries with
  | true =>
      rw [readable, if_pos rfl] at said
      have tolerated : (SettingsFile.Content.ofText later (SettingsFile.plainLines
          (SettingsFile.spelling mapName store.settings.entries))).refusal? = none := by
        rw [said]
        rfl
      rw [load_of_not_refused there written.readText tolerated, said, if_pos rfl]
      simp only [SettingsFile.Content.entries, Settings.overlaid_entries]
      rfl
  | false =>
      rw [readable] at said
      rw [load_of_not_refused there written.readText (by rw [said]; rfl), said]
      rfl

/-- A store that came with a file belongs to it, and can go down as many levels as whoever carried
the file out. -/
theorem eq_of_load (there : files.has path = true)
    (loaded : (load interpreter files path).outcome = .ok store) :
    store.path = path ∧ store.persistent = true ∧ store.levels = interpreter.mostLevels := by
  rw [load, if_pos there] at loaded
  split at loaded
  case h_1 => cases loaded
  case h_2 =>
    simp only [ofFileEntries] at loaded
    split at loaded
    case h_1 => cases loaded
    case h_2 =>
      cases loaded
      exact ⟨rfl, rfl, rfl⟩

/-! ### Files with given settings -/

/-- The store that the program loads from a settings file with given settings. -/
def storeOf (settings : Settings) : SettingsStore where
  settings := settings
  path := ".dwarf_symdb.conf"
  persistent := true
  levels := Interpreter.standard.mostLevels

def filesOf (settings : Settings) : FileSystem :=
  filesWith (storeOf settings).bytes

theorem leadsTo_filesWith (content : List UInt8) :
    (filesWith content).LeadsTo ".dwarf_symdb.conf" [".dwarf_symdb.conf"] := by
  obtain ⟨⟨modified, found⟩, -⟩ := FileSystem.read_eq_ok_iff.mp (read_filesWith content)
  obtain ⟨⟨accepted, unhindered⟩, -⟩ := FileSystem.inspect_eq_ok_iff.mp found
  refine ⟨accepted, unhindered, ?_, content, 0, rfl⟩
  have relative : ".dwarf_symdb.conf".startsWith "/" = false := by simp
  rw [FileSystem.origin, relative]
  rfl

theorem isWritable_storeOf {settings : Settings}
    (writable : ∀ key, (settings.get key).isWritable Interpreter.standard.mostLevels = true) :
    IsWritable (storeOf settings) (filesOf settings) where
  leads := ⟨_, leadsTo_filesWith _⟩
  free := rfl
  persistent := rfl
  writable := writable

theorem isKept_filesOf (settings : Settings) :
    IsKept ".dwarf_symdb.conf" (storeOf settings) (filesOf settings) :=
  ⟨⟨_, read_filesWith _⟩, rfl, rfl⟩

/-- Settings that can be written and make sense are loaded from the file that holds them. -/
theorem load_filesOf {settings : Settings}
    (kept : IsWritable (storeOf settings) (filesOf settings))
    (readable : SettingsFile.isReadable .standard settings.entries = true) :
    load .standard (filesOf settings) ".dwarf_symdb.conf" =
      ⟨[], .ok (storeOf settings.listed)⟩ := by
  have writable : ∀ entry ∈ settings.entries,
      entry.2.isWritable Interpreter.standard.mostLevels = true :=
    @forall_mem_entries settings
      (fun value => value.isWritable Interpreter.standard.mostLevels = true) kept.writable
  have rendered : (storeOf settings).written = _ :=
    SettingsFile.render_of_isWritable exists_text_of_mem_entries writable
  have written : IsWritten ".dwarf_symdb.conf" (storeOf settings) (filesOf settings) :=
    ⟨writable, by rw [filesOf, read_filesWith, bytes, rendered]⟩
  exact (load_of_isWritten .standard written).trans (if_pos readable)

theorem isPlain_default : ∀ key, (({} : Settings).get key).IsPlain 2
  | .colors | .verbose => .bool _
  | .formatVersion | .maxDepth | .maxSteps => .int _
  | .searchPaths => .list (by simp)
  | .encoding => .text _

theorem isWritable_default :
    ∀ key, (({} : Settings).get key).isWritable Interpreter.standard.mostLevels = true
  | .colors | .searchPaths | .encoding | .verbose => rfl
  | .formatVersion | .maxDepth | .maxSteps => by decide +kernel

theorem isWritable_defaultStore : IsWritable (storeOf {}) (filesOf {}) :=
  isWritable_storeOf isWritable_default

theorem load_defaultFiles :
    load .standard (filesOf {}) ".dwarf_symdb.conf" = ⟨[], .ok (storeOf {})⟩ :=
  load_filesOf isWritable_defaultStore (by decide +kernel)

/-- Settings in which one value is not the default. -/
def shallowSettings : Settings :=
  ({} : Settings).set .maxDepth (.int 3)

theorem isWritable_shallowSettings :
    IsWritable (storeOf shallowSettings) (filesOf shallowSettings) :=
  isWritable_storeOf (@Settings.forall_get_set {} (.int 3)
    (fun value => value.isWritable Interpreter.standard.mostLevels = true) isWritable_default
    (by decide +kernel) .maxDepth)

theorem load_shallowSettings :
    load .standard (filesOf shallowSettings) ".dwarf_symdb.conf" =
      ⟨[], .ok (storeOf shallowSettings)⟩ :=
  load_filesOf isWritable_shallowSettings (by decide +kernel)

/-! ### Settings after changes -/

/-- Settings that came with a file are read again from it after any changes, with lists in place
of tuples and without a message, if they are plain and all changes have been written: to whoever
carries it out, the text of the file is the map of their entries. -/
theorem load_setAll (interpreter later : Interpreter) (shallow : depth < 100)
    {held : List UInt8} (found : files.read path = .ok held) (listening : Bool)
    (loaded : (load interpreter files path).outcome = .ok store)
    (plainStore : ∀ key, (store.settings.get key).IsPlain depth) (anyChange : changes ≠ [])
    (plainChanges : ∀ change ∈ changes, change.2.IsPlain depth)
    (done : { store with listening := listening }.setAll files changes = .ok (changed, final)) :
    (load later final path).messages = [] ∧
      (SettingsFile.readText final path).bind (SettingsFile.parse later path mapName) =
        .ok (changed.settings.entries.map fun entry => (entry.1, entry.2.listed), []) ∧
      ∃ reloaded, (load later final path).outcome = .ok reloaded ∧
        ∀ key, reloaded.settings.lookup key = (changed.settings.lookup key).map Value.listed := by
  obtain ⟨path_eq, persistent, -⟩ := eq_of_load (FileSystem.has_of_read found) loaded
  have keptAtFirst : IsKept path { store with listening := listening } files :=
    ⟨⟨held, found⟩, path_eq, persistent⟩
  have written := setAll_isWritten keptAtFirst (Or.inl anyChange) done
  have plainAfter : ∀ entry ∈ changed.settings.entries, entry.2.IsPlain depth := by
    refine forall_mem_entries (forall_get_setAll ?_ ?_ plainChanges (.int _) done)
    · exact persistent
    · exact plainStore
  have readable : SettingsFile.isReadable later changed.settings.entries = true :=
    SettingsFile.isReadable_of_finite later written.spelled
      (fun entry member => (plainAfter entry member).isFinite)
      (fun entry member => Nat.lt_of_le_of_lt (plainAfter entry member).nesting_le shallow)
  have said := (ofText_of_isWritten later written).trans (if_pos readable)
  rw [load_of_isWritten later written, if_pos readable, written.readText, Except.bind,
    SettingsFile.parse_eq, said]
  exact ⟨rfl, rfl, _, rfl, Settings.lookup_listed _⟩

/-- A tuple with quotes, a line end and a negative number in it. -/
def searchPaths : Value :=
  .tuple [.text "it's a \"Schlo\u00df\"\n", .list [.int (-3)]]

theorem load_setAll_searchPaths :
    load .standard (filesOf {}) ".dwarf_symdb.conf" = ⟨[], .ok (storeOf {})⟩ ∧
      ∃ changed final reloaded,
        (storeOf {}).setAll (filesOf {})
          [(.text "symdb.search.paths", searchPaths), (.text "symdb.verbose", .null)] =
            .ok (changed, final) ∧
        changed.settings.lookup (.text "symdb.search.paths") = .ok searchPaths ∧
        (load .standard final ".dwarf_symdb.conf").messages = [] ∧
        (load .standard final ".dwarf_symdb.conf").outcome = .ok reloaded ∧
        reloaded.settings.lookup (.text "symdb.search.paths") =
          .ok (.list [.text "it's a \"Schlo\u00df\"\n", .list [.int (-3)]]) := by
  have plain : searchPaths.IsPlain 2 :=
    .tuple (List.forall_mem_cons.mpr ⟨.text _, List.forall_mem_cons.mpr
      ⟨.list (List.forall_mem_cons.mpr ⟨.int _, by simp⟩), by simp⟩⟩)
  obtain ⟨second, done, writable⟩ := @exists_set _ _ (.text "symdb.search.paths") searchPaths
    .searchPaths isWritable_defaultStore rfl (by decide +kernel)
  obtain ⟨third, doneLast, -⟩ := @exists_set _ _ (.text "symdb.verbose") .null .verbose writable rfl
    rfl
  have written : (storeOf {}).setAll (filesOf {})
      [(.text "symdb.search.paths", searchPaths), (.text "symdb.verbose", .null)] =
        .ok (((storeOf {}).after .searchPaths searchPaths).after .verbose .null, third) := by
    rw [setAll, done, setAll, doneLast]
    rfl
  obtain ⟨messages, -, reloaded, outcome, same⟩ := load_setAll .standard .standard
    (by decide : 2 < 100) (read_filesWith _) false (congrArg Loading.outcome load_defaultFiles)
    isPlain_default (by simp)
    (List.forall_mem_cons.mpr ⟨plain, List.forall_mem_cons.mpr ⟨.null, by simp⟩⟩) written
  exact ⟨load_defaultFiles, _, _, reloaded, written, rfl, messages, outcome, same _⟩

end SettingsStore
end DebugIndex
