import DebugIndex.Proofs.Settings.RoundTrip

/-!
# Changes that fail

A change is made before it is written, and it is written as far as it can be.  If the system does
not open the file, nothing is written; if it breaks off, the file keeps the beginning of the text.
If a value can not be written, the file is cut off in front of what is wrong with the value, between
brackets that are never closed.  Such a file makes no sense any more, so all settings are lost when
they are loaded the next time.
-/

namespace DebugIndex

/-! ## Texts that are cut off -/

namespace Token

variable {rest : List Char} {value : Value}

/-- Whether characters are read to their end, with brackets that are still open there. -/
def IsUnclosed (scan : Option Scan) : Prop :=
  ∃ known, scan = some known ∧ known.openBrackets ≠ 0

theorem IsUnclosed.after {scan : Option Scan} (unclosed : IsUnclosed scan) (front : List Token) :
    IsUnclosed (scan.map (·.after front)) := by
  obtain ⟨known, rfl, openBrackets⟩ := unclosed
  exact ⟨known.after front, rfl, openBrackets⟩

/-- Whether characters between brackets end before the brackets are closed: none of them is a
control character except for the ends of lines, and however many brackets are open in front of them,
some still are behind. -/
structure IsCutOff (characters : List Char) : Prop where
  visible : ∀ character ∈ characters, character = '\n' ∨ 0x20 ≤ character.toNat
  unclosed : ∀ depth, IsUnclosed (scanFrom? .ascii ⟨depth + 1, false⟩ characters)

theorem isCutOff_nil : IsCutOff [] where
  visible := nofun
  unclosed depth := ⟨⟨[.lineEnd], depth + 1⟩, by simp [scanFrom?], Nat.succ_ne_zero depth⟩

namespace IsCutOff

theorem space (cut : IsCutOff rest) : IsCutOff (' ' :: rest) where
  visible := List.forall_mem_cons.mpr ⟨Or.inr (by decide), cut.visible⟩
  unclosed depth := by
    rw [scanFrom?_space]
    exact cut.unclosed depth

theorem newline (cut : IsCutOff rest) : IsCutOff ('\n' :: rest) where
  visible := List.forall_mem_cons.mpr ⟨Or.inl rfl, cut.visible⟩
  unclosed depth := by
    rw [scanFrom?_newline]
    exact cut.unclosed depth

theorem comma (cut : IsCutOff rest) : IsCutOff (',' :: rest) where
  visible := List.forall_mem_cons.mpr ⟨Or.inr (by decide), cut.visible⟩
  unclosed depth := by
    rw [scanFrom?_comma]
    exact (cut.unclosed depth).after _

theorem colon (cut : IsCutOff rest) : IsCutOff (':' :: ' ' :: rest) where
  visible := List.forall_mem_cons.mpr ⟨Or.inr (by decide), cut.space.visible⟩
  unclosed depth := by
    rw [scanFrom?_colon]
    exact (cut.unclosed depth).after _

/-- However many brackets are open, a list that is cut off is never closed. -/
theorem bracket (cut : IsCutOff rest) : IsCutOff ('[' :: rest) where
  visible := List.forall_mem_cons.mpr ⟨Or.inr (by decide), cut.visible⟩
  unclosed depth := by
    rw [scanFrom?_open]
    exact (cut.unclosed (depth + 1)).after _

theorem spelling (cut : IsCutOff rest) (spelled : value.IsSpelled) (delimited : Delimits rest) :
    IsCutOff (value.spelling ++ rest) where
  visible := List.forall_mem_append.mpr ⟨fun character member =>
    Or.inr (SettingsFile.le_toNat_of_mem_spelling spelled member), cut.visible⟩
  unclosed depth := by
    rw [scanFrom?_spelling spelled delimited]
    exact (cut.unclosed depth).after _

end IsCutOff
end Token

namespace SettingsFile

open Value Token

variable {levels : Nat} {entries : List (Value × Value)} {files : FileSystem} {path : String}

theorem Written.andThen_of_refused {written : Written} (refused : written.refusal ≠ none)
    (next : Written) : written.andThen next = written :=
  if_pos (Option.isSome_iff_ne_none.mpr refused)

theorem Written.refused_of_iff {written : Written} {writable : Bool}
    (complete_iff : written.refusal = none ↔ writable = true) (unwritable : writable = false) :
    written.refusal ≠ none := by
  rw [Ne, complete_iff, unwritable]
  exact Bool.false_ne_true

theorem writeValue_refused {value : Value} (unwritable : value.isWritable levels = false) :
    (writeValue levels value).refusal ≠ none :=
  Written.refused_of_iff (writeValue_refusal_eq_none_iff levels value) unwritable

/-- A list that can not be written is cut off in front of an item: either all levels have been gone
down, or the item can not be written. -/
theorem isCutOff_writeItems {items : List Value} (unwritable : areWritable levels items = false)
    (each : ∀ item ∈ items, ∀ {fewer : Nat}, item.isWritable fewer = false →
      IsCutOff (writeValue fewer item).text.toList) :
    IsCutOff (writeItems levels items).text.toList := by
  induction items with
  | nil => cases unwritable
  | cons item rest ih =>
      obtain ⟨first, others⟩ := List.forall_mem_cons.mp each
      cases levels with
      | zero => exact isCutOff_nil
      | succ fewer =>
          rw [writeItems]
          cases writable : item.isWritable fewer with
          | false =>
              have refused := writeValue_refused writable
              rw [Written.andThen_of_refused refused, Written.andThen_of_refused refused]
              exact first writable
          | true =>
              have unwritableRest : areWritable (fewer + 1) rest = false := by
                rwa [areWritable, writable, Bool.true_and] at unwritable
              have cut := (ih unwritableRest others).space.comma.spelling
                (isSpelled_of_isWritable item writable) .comma
              rw [writeValue_of_isWritable item writable, Written.andThen_of_none,
                Written.andThen_of_none]
              simpa using cut

theorem isCutOff_writeValue {levels : Nat} (value : Value)
    (unwritable : value.isWritable levels = false) :
    IsCutOff (writeValue levels value).text.toList := by
  cases value with
  | null | bool truth | float number | text characters | rawText raw =>
      simp [isWritable, isShort] at unwritable
  | int whole =>
      simp only [isWritable] at unwritable
      simp only [writeValue, Written.ofValue, unwritable, Bool.false_eq_true, if_false]
      exact isCutOff_nil
  | bytes content | map entries | object kind shown =>
      simp only [writeValue]
      exact isCutOff_nil
  | list items | tuple items =>
      rw [isWritable] at unwritable
      have cut := isCutOff_writeItems unwritable fun item member _ itemUnwritable =>
        isCutOff_writeValue item itemUnwritable
      have refused :=
        Written.refused_of_iff (writeItems_refusal_eq_none_iff levels items) unwritable
      rw [writeValue, Written.andThen_of_none, Written.andThen_of_refused (by exact refused)]
      simpa using cut.bracket

theorem isCutOff_writeEntry (name : String) {value : Value}
    (unwritable : value.isWritable levels = false) :
    IsCutOff (writeEntry levels (.text name, value)).text.toList := by
  have shortKey : (Value.text name).isShort = true := rfl
  have cut := ((isCutOff_writeValue value unwritable).colon.spelling (.text name)
    .colon).space.space
  have refused := writeValue_refused unwritable
  rw [writeEntry, ofValue_of_short shortKey, Written.andThen_of_none,
    Written.andThen_of_refused (by exact refused)]
  · simpa [Value.spelling] using cut
  · rintro ⟨⟩

theorem isCutOff_writeEntries (named : ∀ entry ∈ entries, ∃ name, entry.1 = .text name)
    (unwritable : ¬∀ entry ∈ entries, entry.2.isWritable levels = true) :
    IsCutOff (writeEntries levels entries).text.toList := by
  induction entries with
  | nil => exact absurd nofun unwritable
  | cons entry rest ih =>
      obtain ⟨key, value⟩ := entry
      obtain ⟨⟨name, rfl⟩, namedRest⟩ := List.forall_mem_cons.mp named
      rw [writeEntries]
      cases writable : value.isWritable levels with
      | false =>
          -- nothing behind this entry is written
          have refused : (writeEntry levels (.text name, value)).refusal ≠ none :=
            Written.refused_of_iff (writeEntry_refusal_eq_none_iff ⟨name, rfl⟩) (by exact writable)
          rw [Written.andThen_of_refused refused]
          exact isCutOff_writeEntry name writable
      | true =>
          have unwritableRest : ¬∀ entry ∈ rest, entry.2.isWritable levels = true := fun all =>
            unwritable (List.forall_mem_cons.mpr ⟨writable, all⟩)
          have cut := ((ih namedRest unwritableRest).newline.comma.spelling
            (isSpelled_of_isWritable value writable) .comma).colon.spelling (.text name) .colon
          rw [writeEntry_of_isWritable ⟨name, rfl⟩ writable, Written.andThen_of_none]
          simpa [entriesSpelling] using cut.space.space

/-- A file with a value that can not be written makes no sense to any interpreter. -/
theorem ofText_render_of_unwritable (later : Interpreter)
    (named : ∀ entry ∈ entries, ∃ name, entry.1 = .text name)
    (unwritable : ¬∀ entry ∈ entries, entry.2.isWritable levels = true) :
    Content.ofText later (plainLines (render levels "config" entries).text.toList) =
      .senseless := by
  have cut := isCutOff_writeEntries named unwritable
  have refused : (writeEntries levels entries).refusal ≠ none := by
    rwa [Ne, writeEntries_refusal_eq_none_iff named]
  have rendered : (render levels "config" entries).text.toList =
      (opening "config").toList ++ (writeEntries levels entries).text.toList := by
    rw [render, Written.andThen_of_none, Written.andThen_of_refused (by exact refused),
      String.toList_append]
  have unclosed : IsUnclosed
      (scan? .ascii (plainLines (render levels "config" entries).text.toList)) := by
    rw [rendered, scan?_plainLines (List.forall_mem_append.mpr
      ⟨fun _ => eq_or_le_toNat_of_mem_opening, cut.visible⟩), scanFrom?_opening]
    exact (cut.unclosed 0).after _
  obtain ⟨scan, scanned, openBrackets⟩ := unclosed
  exact SettingsStore.ofText_of_openBrackets scanned openBrackets

/-- All settings are lost when they are loaded from a file with a value that can not be written. -/
theorem load_of_unwritable (later : Interpreter)
    (named : ∀ entry ∈ entries, ∃ name, entry.1 = .text name)
    (unwritable : ¬∀ entry ∈ entries, entry.2.isWritable levels = true)
    (found : files.read path = .ok (Text.Utf8.encode (render levels "config" entries).text)) :
    SettingsStore.load later files path =
      ⟨[senseWarning path],
        .ok { path := path, persistent := true, levels := later.mostLevels }⟩ := by
  have said := ofText_render_of_unwritable later named unwritable
  rw [SettingsStore.load_of_not_refused (FileSystem.has_of_read found) (readText_of_read found)
    (by rw [said]; rfl), said]
  rfl

end SettingsFile

namespace SettingsStore

variable {files changed : FileSystem} {path : String} {store after : SettingsStore}
variable {key value : Value} {told : List (Key × Value)} {failure : SettingsError} {name : Key}

/-- What a change of a known key fails with: the file is not opened and not changed; or writing it
is broken off; or there is a value that can not be written, and the file has all text in front of
it. -/
theorem outcome_set_eq_error (persistent : store.persistent = true)
    (known : Key.ofValue? key = some name)
    (failed : (store.set files key value).outcome = .error failure) :
    (∃ cause, files.placeToWrite store.path = .error cause ∧
        failure = .file cause store.path ∧ (store.set files key value).files = files) ∨
      ∃ names, files.placeToWrite store.path = .ok names ∧
        (store.set files key value).files = files.place names (.file
          (files.kept store.path (store.after name value).bytes) 0) ∧
        ((∃ cause, files.finish store.path (store.after name value).bytes = .error cause ∧
            failure = .file cause store.path) ∨
          files.finish store.path (store.after name value).bytes = .ok () ∧
            (store.after name value).written.refusal = some failure) := by
  rw [set_of_persistent persistent known] at failed ⊢
  cases opened : files.placeToWrite store.path with
  | error cause =>
      have refused := @SettingsFile.save_of_placeToWrite_error store.levels files store.path
        mapName (store.settingsAfter name value).entries cause opened
      refine Or.inl ⟨cause, rfl, ?_, congrArg Prod.fst refused⟩
      exact (Except.error.inj ((congrArg Prod.snd refused).symm.trans failed)).symm
  | ok names =>
      exact Or.inr ⟨names, rfl, SettingsFile.fst_save opened,
        (SettingsFile.snd_save_eq_error_iff opened).mp failed⟩

/-- A file that has been written up to a value that can not be written makes no sense the next
time. -/
theorem load_of_refusal (later : Interpreter) (refused : store.written.refusal = some failure)
    (found : files.read path = .ok store.bytes) :
    load later files path =
      ⟨[SettingsFile.senseWarning path],
        .ok { path := path, persistent := true, levels := later.mostLevels }⟩ := by
  refine SettingsFile.load_of_unwritable later exists_text_of_mem_entries (fun all => ?_) found
  have complete : store.written.refusal = none :=
    (SettingsFile.render_refusal_eq_none_iff exists_text_of_mem_entries).mpr all
  rw [complete] at refused
  cases refused

/-- What is left of the file of a store whose settings could all be written, after the change of a
known key that fails. -/
theorem files_set_of_error (there : files.has store.path = true)
    (persistent : store.persistent = true)
    (writable : ∀ key, (store.settings.get key).isWritable store.levels = true)
    (known : Key.ofValue? key = some name)
    (failed : (store.set files key value).outcome = .error failure) :
    (∃ cause, files.placeToWrite store.path = .error cause ∧
        failure = .file cause store.path ∧ (store.set files key value).files = files) ∨
      ∃ names, files.placeToWrite store.path = .ok names ∧
        (store.set files key value).files = files.place names (.file
          (files.kept store.path (store.after name value).bytes) 0) ∧
        ((∃ cause, files.finish store.path (store.after name value).bytes = .error cause ∧
            failure = .file cause store.path) ∨
          files.kept store.path (store.after name value).bytes = (store.after name value).bytes ∧
            value.isWritable store.levels = false ∧
            (store.after name value).written.refusal = some failure ∧
            ∀ later held, (store.set files key value).files.read store.path = .ok held →
              load later (store.set files key value).files store.path =
                ⟨[SettingsFile.senseWarning store.path],
                  .ok { path := store.path, persistent := true, levels := later.mostLevels }⟩) := by
  refine (outcome_set_eq_error persistent known failed).imp id ?_
  rintro ⟨names, opened, changed, reason⟩
  refine ⟨names, opened, changed, reason.imp id ?_⟩
  rintro ⟨finished, refused⟩
  have whole := FileSystem.kept_of_finish finished
  refine ⟨whole, Bool.eq_false_iff.mpr fun new => ?_, refused, fun later held read => ?_⟩
  · -- all other settings can be written
    rw [refusal_after writable new] at refused
    cases refused
  · have leads := FileSystem.leadsTo_of_placeToWrite there opened
    refine load_of_refusal later refused ?_
    rw [changed] at read ⊢
    rw [whole, leads.read_place]
    exact (FileSystem.read_eq_ok_iff.mp read).2

/-- A change that fails changes nothing if the key is not known.  If it is known, the key has the
new value all the same.  Then the file is as it was if the system does not open it, and has as much
of the text as has been kept if writing is broken off; or else the new value can not be written and
the file is cut off there, so that all settings are lost as soon as it is read. -/
theorem set_failed (interpreter : Interpreter) (there : files.has path = true) (listening : Bool)
    (loaded : (load interpreter files path).outcome = .ok store)
    (writable : ∀ key, (store.settings.get key).isWritable store.levels = true)
    (failed : { store with listening := listening }.set files key value =
      ⟨after, changed, told, .error failure⟩) :
    Key.ofValue? key = none ∧ failure = .unknownKey key ∧
        after = { store with listening := listening } ∧ changed = files ∨
      ∃ name, Key.ofValue? key = some name ∧
        (∀ other, after.settings.get other =
          if other = .formatVersion then .int settingsVersion
          else if other = name then value else store.settings.get other) ∧
        ((∃ cause, files.placeToWrite path = .error cause ∧
            failure = .file cause path ∧ changed = files) ∨
          ∃ names, files.placeToWrite path = .ok names ∧
            changed = files.place names (.file (files.kept path after.bytes) 0) ∧
            ((∃ cause, files.finish path after.bytes = .error cause ∧
                failure = .file cause path) ∨
              files.kept path after.bytes = after.bytes ∧ value.isWritable store.levels = false ∧
                after.written.refusal = some failure ∧
                ∀ later held, changed.read path = .ok held →
                  load later changed path = ⟨[SettingsFile.senseWarning path],
                    .ok { path := path, persistent := true, levels := later.mostLevels }⟩)) := by
  obtain ⟨rfl, persistent, -⟩ := eq_of_load there loaded
  cases known : Key.ofValue? key with
  | none =>
      rw [set_of_unknown known] at failed
      cases failed
      exact Or.inl ⟨rfl, rfl, rfl, rfl⟩
  | some name =>
      have settings := congrArg (fun change => change.store) failed
      rw [set_of_persistent (by exact persistent) known] at settings
      have left := files_set_of_error (by exact there) (by exact persistent) (by exact writable)
        known (congrArg Change.outcome failed)
      rw [failed] at left
      obtain rfl := settings
      exact Or.inr ⟨name, rfl, fun other => get_settingsAfter store name other value, left⟩

/-! ### Values that can not be written -/

/-- A change that only a value keeps from being written fails, and the file is cut off. -/
theorem exists_set_of_refused {refusal : SettingsError} (kept : IsWritable store files)
    (known : Key.ofValue? key = some name)
    (refused : (store.after name value).written.refusal = some refusal) :
    ∃ changed, store.set files key value =
        ⟨store.after name value, changed, if store.listening then [(name, value)] else [],
          .error refusal⟩ ∧
      changed.read store.path = .ok (store.after name value).bytes := by
  obtain ⟨names, leads⟩ := kept.leads
  refine ⟨_, by rw [set_of_isWritable kept leads known, refused], ?_⟩
  rw [leads.read_place, kept.free]
  exact ⟨rfl, rfl⟩

theorem set_failed_list :
    load .standard (filesOf shallowSettings) ".dwarf_symdb.conf" =
        ⟨[], .ok (storeOf shallowSettings)⟩ ∧
      ∃ after changed,
        (storeOf shallowSettings).set (filesOf shallowSettings) (.text "symdb.colors")
          (.list [.null, .map []]) = ⟨after, changed, [], .error (.unwritable (.map []))⟩ ∧
        after.settings.lookup (.text "symdb.colors") = .ok (.list [.null, .map []]) ∧
        after.settings.lookup (.text "symdb.resolve.max_depth") = .ok (.int 3) ∧
        load .standard changed ".dwarf_symdb.conf" =
          ⟨[SettingsFile.senseWarning ".dwarf_symdb.conf"], .ok (storeOf {})⟩ := by
  have kept := isWritable_shallowSettings
  obtain ⟨changed, failed, read⟩ := @exists_set_of_refused _ _ (.text "symdb.colors")
    (.list [.null, .map []]) .colors _ kept rfl rfl
  obtain ⟨unknown, -⟩ | ⟨name, known, settings, ⟨cause, -, file, -⟩ |
      ⟨names, -, -, ⟨cause, -, file⟩ | ⟨-, -, -, lost⟩⟩⟩ :=
    set_failed .standard (FileSystem.has_of_read (read_filesWith _)) false
      (congrArg Loading.outcome load_shallowSettings) kept.writable failed
  · cases unknown
  · cases file
  · cases file
  · cases known
    exact ⟨load_shallowSettings, _, _, failed, congrArg Except.ok (settings .colors),
      congrArg Except.ok (settings .maxDepth), lost .standard _ read⟩

/-- A map is refused, but the setting has changed, and so has the file. -/
theorem set_failed_map :
    load .standard (filesOf shallowSettings) ".dwarf_symdb.conf" =
        ⟨[], .ok (storeOf shallowSettings)⟩ ∧
      (∀ key, (shallowSettings.get key).isWritable Interpreter.standard.mostLevels = true) ∧
      ∃ after changed,
        (storeOf shallowSettings).set (filesOf shallowSettings) (.text "symdb.colors") (.map []) =
          ⟨after, changed, [], .error (.unwritable (.map []))⟩ ∧
        shallowSettings.lookup (.text "symdb.colors") = .ok (.bool true) ∧
        after.settings.lookup (.text "symdb.colors") = .ok (.map []) ∧
        changed.read ".dwarf_symdb.conf" =
          .ok (Text.Utf8.encode "formatversion = 1\nconfig = \x7b\n\n  'symdb.colors': ") ∧
        changed.read ".dwarf_symdb.conf" ≠
          (filesOf shallowSettings).read ".dwarf_symdb.conf" := by
  have kept := isWritable_shallowSettings
  obtain ⟨changed, failed, cut⟩ := @exists_set_of_refused _ _ (.text "symdb.colors") (.map [])
    .colors _ kept rfl rfl
  have text : ((storeOf shallowSettings).after .colors (.map [])).written.text =
      "formatversion = 1\nconfig = \x7b\n\n  'symdb.colors': " := by
    decide +kernel
  rw [bytes, text] at cut
  refine ⟨load_shallowSettings, kept.writable, _, _, failed, rfl, rfl, cut, fun same => ?_⟩
  have whole : (filesOf shallowSettings).read ".dwarf_symdb.conf" = _ := read_filesWith _
  have texts := Text.Utf8.encode_inj.mp (Except.ok.inj (cut.symm.trans (same.trans whole)))
  exact absurd texts (by decide +kernel)

end SettingsStore
end DebugIndex
