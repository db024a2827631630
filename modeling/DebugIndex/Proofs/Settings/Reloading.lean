import DebugIndex.Proofs.Settings.RoundTrip

/-!
# Settings that are read again after one change

A change that is accepted is written, but what is written is not always read again: a number that
is not finite is written as a name that stands for nothing, and lists can be nested deeper in a
value than an interpreter takes them.  One such value makes the whole file senseless, and the
defaults take the place of all settings.
-/

namespace DebugIndex
namespace SettingsStore

variable {files changed : FileSystem} {path : String} {store after : SettingsStore}
variable {key value : Value} {told : List (Key × Value)}

/-- After a change that has been accepted, the settings are loaded again without a message, with
lists in place of tuples and the current format version, exactly if the file makes sense to whoever
carries it out: if all numbers are finite, few enough brackets are open and there is room for the
map.  Otherwise there is a warning, and all settings are lost. -/
theorem load_set (interpreter later : Interpreter) {held : List UInt8}
    (found : files.read path = .ok held) (listening : Bool)
    (loaded : (load interpreter files path).outcome = .ok store)
    (accepted : { store with listening := listening }.set files key value =
      ⟨after, changed, told, .ok ()⟩) :
    ∃ name reloaded, Key.ofValue? key = some name ∧
      (load later changed path).outcome = .ok reloaded ∧
      if SettingsFile.isReadable later after.settings.entries then
        (load later changed path).messages = [] ∧ ∀ other, reloaded.settings.get other =
          if other = .formatVersion then .int settingsVersion
          else if other = name then value.listed else (store.settings.get other).listed
      else
        (load later changed path).messages = [SettingsFile.senseWarning path] ∧
          reloaded.settings = {} := by
  obtain ⟨path_eq, persistent, -⟩ := eq_of_load (FileSystem.has_of_read found) loaded
  have keptAtFirst : IsKept path { store with listening := listening } files :=
    ⟨⟨held, found⟩, path_eq, persistent⟩
  obtain ⟨-, written⟩ := set_isWritten keptAtFirst (congrArg Change.outcome accepted)
  rw [accepted] at written
  cases known : Key.ofValue? key with
  | none =>
      rw [set_of_unknown known] at accepted
      cases accepted
  | some name =>
      rw [set_of_persistent (by exact persistent) known] at accepted
      have settings :
          after.settings = settingsAfter { store with listening := listening } name value :=
        (congrArg (fun change => change.store.settings) accepted).symm
      rw [load_of_isWritten later written]
      cases readable : SettingsFile.isReadable later after.settings.entries with
      | true =>
          refine ⟨name, _, rfl, rfl, rfl, fun other => ?_⟩
          simp only [Settings.get_listed, settings, get_settingsAfter]
          split
          · rfl
          · split <;> rfl
      | false => exact ⟨name, _, rfl, rfl, rfl, rfl⟩

/-! ### Numbers -/

def half : Value :=
  .float (.finite false 4503599627370496 (-53) (by decide))

theorem load_set_half :
    load .standard (filesOf shallowSettings) ".dwarf_symdb.conf" =
        ⟨[], .ok (storeOf shallowSettings)⟩ ∧
      ∃ after changed reloaded,
        (storeOf shallowSettings).set (filesOf shallowSettings) (.text "symdb.verbose")
          (.tuple [half]) = ⟨after, changed, [], .ok ()⟩ ∧
        (load .standard changed ".dwarf_symdb.conf").messages = [] ∧
        (load .standard changed ".dwarf_symdb.conf").outcome = .ok reloaded ∧
        reloaded.settings.lookup (.text "symdb.verbose") = .ok (.list [half]) ∧
        reloaded.settings.lookup (.text "symdb.resolve.max_depth") = .ok (.int 3) := by
  obtain ⟨changed, accepted, -⟩ := @exists_set _ _ (.text "symdb.verbose") (.tuple [half]) .verbose
    isWritable_shallowSettings rfl rfl
  obtain ⟨name, reloaded, known, outcome, result⟩ := load_set .standard .standard
    (read_filesWith _) false (congrArg Loading.outcome load_shallowSettings) accepted
  have readable : SettingsFile.isReadable .standard (settingsAfter (storeOf shallowSettings)
      .verbose (.tuple [half])).entries = true := by decide +kernel
  rw [if_pos (by exact readable)] at result
  cases known
  exact ⟨load_shallowSettings, _, _, reloaded, accepted, result.1, outcome,
    congrArg Except.ok (result.2 .verbose), congrArg Except.ok (result.2 .maxDepth)⟩

/-- An infinity is accepted, and with it all settings are lost, whoever carries the file out. -/
theorem load_set_infinity :
    load .standard (filesOf shallowSettings) ".dwarf_symdb.conf" =
        ⟨[], .ok (storeOf shallowSettings)⟩ ∧
      shallowSettings.lookup (.text "symdb.resolve.max_depth") = .ok (.int 3) ∧
      ∃ after changed,
        (storeOf shallowSettings).set (filesOf shallowSettings) (.text "symdb.verbose")
          (.float (.infinite false)) = ⟨after, changed, [], .ok ()⟩ ∧
        ∀ later, ∃ reloaded,
          (load later changed ".dwarf_symdb.conf").messages =
            [SettingsFile.senseWarning ".dwarf_symdb.conf"] ∧
          (load later changed ".dwarf_symdb.conf").outcome = .ok reloaded ∧
          reloaded.settings.lookup (.text "symdb.resolve.max_depth") = .ok (.int 8) := by
  obtain ⟨changed, accepted, -⟩ := @exists_set _ _ (.text "symdb.verbose")
    (.float (.infinite false)) .verbose isWritable_shallowSettings rfl rfl
  obtain ⟨-, written⟩ := @set_isWritten _ _ _ (.text "symdb.verbose") (.float (.infinite false))
    (isKept_filesOf shallowSettings) (congrArg Change.outcome accepted)
  rw [accepted] at written
  refine ⟨load_shallowSettings, rfl, _, _, accepted, fun later => ?_⟩
  have senseless : SettingsFile.isReadable later (settingsAfter (storeOf shallowSettings) .verbose
      (.float (.infinite false))).entries = false := rfl
  have loaded := load_of_isWritten later written
  rw [if_neg (by exact Bool.eq_false_iff.mp senseless)] at loaded
  exact ⟨_, congrArg Loading.messages loaded, congrArg Loading.outcome loaded, rfl⟩

end SettingsStore
end DebugIndex
