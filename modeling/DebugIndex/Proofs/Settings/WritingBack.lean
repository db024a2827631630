import DebugIndex.Proofs.Settings.RoundTrip

/-!
# Settings that are written back

Changes are written back to a file exactly if the store was loaded where the file was and the system
opens it.  What the file held is of no matter, nor whether it could be read: a file that makes no
sense is overwritten by the next change like any other.  No change ever reaches another place.
-/

namespace DebugIndex
namespace SettingsStore

variable {interpreter : Interpreter} {files : FileSystem} {path : String} {names : List String}
variable {store : SettingsStore} {changes : List (Value × Value)} {key value : Value}

/-! ## Single changes -/

theorem exists_store_set (store : SettingsStore) (files : FileSystem) (key value : Value) :
    ∃ settings, (store.set files key value).store = { store with settings := settings } := by
  cases known : Key.ofValue? key with
  | none => exact ⟨store.settings, by rw [set_of_unknown known]⟩
  | some name =>
      simp only [set, known, persist]
      split
      case isTrue => exact ⟨_, rfl⟩
      case isFalse => exact ⟨_, rfl⟩

theorem path_set : (store.set files key value).store.path = store.path := by
  obtain ⟨settings, after⟩ := exists_store_set store files key value
  rw [after]

theorem persistent_set :
    (store.set files key value).store.persistent = store.persistent := by
  obtain ⟨settings, after⟩ := exists_store_set store files key value
  rw [after]

theorem files_set_of_not_persistent (apart : store.persistent = false) :
    (store.set files key value).files = files := by
  rw [set]
  split
  · rfl
  · simp only [persist, apart, Bool.false_eq_true, if_false]

theorem files_set_of_refused {cause : FileError}
    (refused : files.placeToWrite store.path = .error cause) :
    (store.set files key value).files = files := by
  cases persistent : store.persistent with
  | false => exact files_set_of_not_persistent persistent
  | true =>
      cases known : Key.ofValue? key with
      | none => rw [set_of_unknown known]
      | some name =>
          rw [set_of_persistent persistent known]
          exact congrArg Prod.fst (SettingsFile.save_of_placeToWrite_error refused)

/-- The file that is kept of the settings of a store, as far as they can be written. -/
def keptFile (files : FileSystem) (store : SettingsStore) : Node :=
  .file (files.kept store.path store.bytes) 0

/-- A change of a known key of a persistent store writes the file of the store and nothing else. -/
theorem files_set_of_placeToWrite (persistent : store.persistent = true)
    (opened : files.placeToWrite store.path = .ok names)
    (known : (Key.ofValue? key).isSome = true) :
    (store.set files key value).files =
      files.place names (keptFile files (store.set files key value).store) := by
  obtain ⟨name, known⟩ := Option.isSome_iff_exists.mp known
  rw [set_of_persistent persistent known]
  exact SettingsFile.fst_save opened

/-! ## Many changes -/

/-- Give keys values one after the other, and go on after each that is refused. -/
def setEach (store : SettingsStore) (files : FileSystem) :
    List (Value × Value) → SettingsStore × FileSystem
  | [] => (store, files)
  | (key, value) :: rest =>
      let change := store.set files key value
      change.store.setEach change.files rest

theorem setEach_of_unknown (unknown : ∀ change ∈ changes, Key.ofValue? change.1 = none) :
    store.setEach files changes = (store, files) := by
  induction changes with
  | nil => rfl
  | cons change rest ih =>
      obtain ⟨first, others⟩ := List.forall_mem_cons.mp unknown
      rw [setEach, set_of_unknown first]
      exact ih others

theorem files_setEach_of_not_persistent (apart : store.persistent = false) :
    (store.setEach files changes).2 = files := by
  induction changes generalizing store with
  | nil => rfl
  | cons change rest ih =>
      rw [setEach]
      simp only [files_set_of_not_persistent apart]
      exact ih (persistent_set.trans apart)

theorem files_setEach_of_refused {cause : FileError}
    (refused : files.placeToWrite store.path = .error cause) :
    (store.setEach files changes).2 = files := by
  induction changes generalizing store with
  | nil => rfl
  | cons change rest ih =>
      rw [setEach]
      simp only [files_set_of_refused refused]
      exact ih (by rwa [path_set])

/-- Once a known key has changed, the file of a persistent store is written, and nothing else is. -/
theorem files_setEach_of_placeToWrite (there : files.has store.path = true)
    (persistent : store.persistent = true) (opened : files.placeToWrite store.path = .ok names)
    (known : ∃ change ∈ changes, (Key.ofValue? change.1).isSome = true) :
    (store.setEach files changes).2 =
      files.place names (keptFile files (store.setEach files changes).1) := by
  induction changes generalizing store files with
  | nil =>
      obtain ⟨change, member, -⟩ := known
      cases member
  | cons change rest ih =>
      obtain ⟨key, value⟩ := change
      rw [setEach]
      cases first : Key.ofValue? key with
      | none =>
          rw [set_of_unknown first]
          refine ih there persistent opened ?_
          simpa [first] using known
      | some name =>
          have written := @files_set_of_placeToWrite files names store key value persistent opened
            (Option.isSome_iff_exists.mpr ⟨name, first⟩)
          -- the file keeps what this change has written unless a known key changes again
          by_cases more : ∃ change ∈ rest, (Key.ofValue? change.1).isSome = true
          · have leads := FileSystem.leadsTo_of_placeToWrite there opened
            rw [written]
            refine (ih ?_ (persistent_set.trans persistent) ?_ more).trans
              (FileSystem.place_place _ _)
            · rw [path_set]
              exact (leads.place _ _).has
            · rw [path_set]
              exact (leads.placeToWrite_place _ _).trans opened
          · rw [setEach_of_unknown (by simpa using more)]
            exact written

/-! ## Where settings come from -/

theorem not_persistent_of_ofEntries {entries : List (Value × Value)}
    (given : ofEntries path entries = .ok store) : store.persistent = false := by
  rw [ofEntries] at given
  cases overridden : ({} : Settings).override entries with
  | error failure =>
      rw [overridden] at given
      cases given
  | ok settings =>
      rw [overridden] at given
      cases given
      rfl

theorem not_persistent_of_load (missing : files.has path = false)
    (loaded : (load interpreter files path).outcome = .ok store) : store.persistent = false := by
  rw [load, missing, if_neg Bool.false_ne_true] at loaded
  cases loaded
  rfl

/-- No changes of settings that are given, or of settings for which there was no file, or of unknown
keys write anything, nor do any if the system does not open the file.  If there was a file, whatever
it held and whatever was said about it, then once a known key has changed, the file is written with
all settings, as far as it is kept, and nothing else is. -/
theorem files_setEach (interpreter : Interpreter) (listening : Bool)
    (changes : List (Value × Value)) :
    (∀ entries store, ofEntries path entries = .ok store →
      ({ store with listening := listening }.setEach files changes).2 = files) ∧
    ∀ store, (load interpreter files path).outcome = .ok store →
      ((files.has path = false ∨ (∀ change ∈ changes, Key.ofValue? change.1 = none) ∨
            ∃ cause, files.placeToWrite path = .error cause) ∧
          ({ store with listening := listening }.setEach files changes).2 = files) ∨
        files.has path = true ∧
          (∃ change ∈ changes, (Key.ofValue? change.1).isSome = true) ∧
          ∃ names, files.placeToWrite path = .ok names ∧
            ({ store with listening := listening }.setEach files changes).2 =
              files.place names (keptFile files
                ({ store with listening := listening }.setEach files changes).1) := by
  refine ⟨fun entries store given => ?_, fun store loaded => ?_⟩
  · have apart := not_persistent_of_ofEntries given
    exact files_setEach_of_not_persistent apart
  cases there : files.has path with
  | false =>
      have apart := not_persistent_of_load there loaded
      exact Or.inl ⟨Or.inl rfl, files_setEach_of_not_persistent apart⟩
  | true =>
      obtain ⟨rfl, persistent, -⟩ := eq_of_load there loaded
      by_cases known : ∃ change ∈ changes, (Key.ofValue? change.1).isSome = true
      · cases opened : files.placeToWrite store.path with
        | error cause =>
            refine Or.inl ⟨Or.inr (Or.inr ⟨cause, rfl⟩), ?_⟩
            exact files_setEach_of_refused (by exact opened)
        | ok names =>
            refine Or.inr ⟨rfl, known, names, rfl, ?_⟩
            exact files_setEach_of_placeToWrite (by exact there) persistent (by exact opened) known
      · have unknown : ∀ change ∈ changes, Key.ofValue? change.1 = none := by simpa using known
        exact Or.inl ⟨Or.inr (Or.inl unknown), congrArg Prod.snd (setEach_of_unknown unknown)⟩

theorem files_setEach_brokenText :
    ofEntries ".dwarf_symdb.conf" [] = .ok { path := ".dwarf_symdb.conf" } ∧
      (({ path := ".dwarf_symdb.conf" } : SettingsStore).setEach
        (filesWith (Text.Utf8.encode brokenText)) [(.text "symdb.verbose", .bool true)]).2 =
          filesWith (Text.Utf8.encode brokenText) ∧
      load .standard (filesWith (Text.Utf8.encode brokenText)) ".dwarf_symdb.conf" =
        ⟨[SettingsFile.senseWarning ".dwarf_symdb.conf"], .ok (storeOf {})⟩ ∧
      ∃ after,
        (storeOf {}).setEach (filesWith (Text.Utf8.encode brokenText))
          [(.text "symdb.verbose", .bool true), (.text "symdb.nonesuch", .null)] = after ∧
        after.1.settings.lookup (.text "symdb.verbose") = .ok (.bool true) ∧
        after.2.read ".dwarf_symdb.conf" = .ok after.1.bytes := by
  have leads := leadsTo_filesWith (Text.Utf8.encode brokenText)
  have apart := (@files_setEach (filesWith (Text.Utf8.encode brokenText)) ".dwarf_symdb.conf"
    .standard false [(.text "symdb.verbose", .bool true)]).1 [] { path := ".dwarf_symdb.conf" } rfl
  refine ⟨rfl, apart, load_brokenText .standard, _, rfl, rfl, ?_⟩
  obtain ⟨missing | unknown | ⟨cause, refused⟩, -⟩ | ⟨-, -, names, opened, written⟩ :=
    (files_setEach .standard false
      [(.text "symdb.verbose", .bool true), (.text "symdb.nonesuch", .null)]).2
      _ (congrArg Loading.outcome (load_brokenText .standard))
  · rw [leads.has] at missing
    cases missing
  · cases unknown _ List.mem_cons_self
  · rw [leads.placeToWrite] at refused
    cases refused
  · have leadsTo := FileSystem.leadsTo_of_placeToWrite leads.has opened
    exact (congrArg (fun files => files.read ".dwarf_symdb.conf") written).trans
      ((leadsTo.read_place 0).mpr ⟨rfl, rfl⟩)

/-- A file that makes no sense is reported, and is overwritten by the next change. -/
theorem set_brokenText :
    load .standard (filesWith (Text.Utf8.encode brokenText)) ".dwarf_symdb.conf" =
        ⟨[SettingsFile.senseWarning ".dwarf_symdb.conf"], .ok (storeOf {})⟩ ∧
      ∃ after changed,
        (storeOf {}).set (filesWith (Text.Utf8.encode brokenText)) (.text "symdb.verbose")
          (.bool true) = ⟨after, changed, [], .ok ()⟩ ∧
        changed.read ".dwarf_symdb.conf" ≠
          (filesWith (Text.Utf8.encode brokenText)).read ".dwarf_symdb.conf" := by
  have found := read_filesWith (Text.Utf8.encode brokenText)
  have kept : IsWritable (storeOf {}) (filesWith (Text.Utf8.encode brokenText)) :=
    ⟨⟨_, leadsTo_filesWith _⟩, rfl, rfl, isWritable_default⟩
  obtain ⟨changed, accepted, -⟩ := @exists_set _ _ (.text "symdb.verbose") (.bool true) .verbose
    kept rfl rfl
  have done := @set_isWritten _ _ _ (.text "symdb.verbose") (.bool true)
    (⟨⟨_, found⟩, rfl, rfl⟩ : IsKept ".dwarf_symdb.conf" (storeOf {}) _)
    (congrArg Change.outcome accepted)
  rw [accepted] at done
  refine ⟨load_brokenText .standard, _, _, accepted, fun same => ?_⟩
  rw [done.2.read, found] at same
  have differ : String.ofList (SettingsFile.spelling mapName
      ((storeOf {}).after .verbose (.bool true)).settings.entries) ≠ brokenText := by
    decide +kernel
  exact differ (Text.Utf8.encode_inj.mp (Except.ok.inj same))

end SettingsStore
end DebugIndex
