import DebugIndex.Proofs.FileSystem.Writing
import DebugIndex.Proofs.Settings.Entries
import DebugIndex.Proofs.Text.Utf8
import DebugIndex.Settings.Standard

/-!
# Loading settings

To whoever carries it out, the text of a settings file is one of four things: it makes no sense, it
has a version that is not known, what it calls its map is none, or it holds a map.  Only of a map
anything is taken over: each key gets the value of its last entry, and the unknown keys are
mentioned.  In the other three cases that is said, and the settings are the defaults.  Loading does
not come to an end only where a file is no text, where it leaves those who carry it out, or where
something in it would have to be shown that can not be.
-/

namespace DebugIndex

/-! ## Texts -/

namespace SettingsFile

variable {interpreter : Interpreter} {files : FileSystem} {path : String} {characters : List Char}

/-- What is said about a file that makes no sense. -/
def senseWarning (path : String) : Message :=
  .ofLevel .warn ("Warning: error parsing config file '" ++ path ++ "'")

/-- What the text of a settings file is. -/
inductive Content
  | leaving (escape : Escape)
  | senseless
  | unsupported (version : Value)
  | misshapen
  | holding (entries : List (Value × Value))

namespace Content

def ofVariables (assigned : List (String × Value)) : Content :=
  let version := (assigned.lookup versionName).getD .null
  if version.whole?.any (· ≤ settingsVersion) then
    match assigned.lookup SettingsStore.mapName with
    | some (.map entries) => .holding entries
    | _ => .misshapen
  else .unsupported version

def ofText (interpreter : Interpreter) (characters : List Char) : Content :=
  match interpreter.run SettingsStore.mapName characters with
  | .bound assigned => ofVariables assigned
  | .failed => .senseless
  | .escaped escape => .leaving escape

/-- The entries of the map that is held. -/
def entries : Content → List (Value × Value)
  | .holding entries => entries
  | _ => []

/-- What is said about a file that holds no map. -/
def problem? (path : String) : Content → Option Message
  | .senseless => some (senseWarning path)
  | .unsupported version =>
      some (.ofLevel .err
        ("Error: Cannot read config file '" ++ path ++ "' with version " ++ version.plain))
  | .misshapen => some (.ofLevel .err ("Error in format for config file '" ++ path ++ "'"))
  | .leaving _ | .holding _ => none

/-- The value that would have to be shown and can not be: a version that is not known, or an unknown
key. -/
def unshowable? : Content → Option Value
  | .unsupported version => if version.isShort then none else some version
  | .holding entries =>
      ((SettingsStore.unknownEntries entries).map Prod.fst).find? fun key => !key.isShort
  | _ => none

/-- Why nothing is taken over of a file: it has been left, or a value can not be shown. -/
def refusal? : Content → Option SettingsError
  | .leaving escape => some (.escaped escape)
  | content => content.unshowable?.map .tooLong

/-- What is read of a file: what it holds and what is wrong with it, unless it has been left or its
version can not be shown. -/
def read (path : String) : Content → Except SettingsError (List (Value × Value) × List Message)
  | .leaving escape => .error (.escaped escape)
  | .unsupported version =>
      if version.isShort then .ok ([], ((unsupported version).problem? path).toList)
      else .error (.tooLong version)
  | content => .ok (content.entries, (content.problem? path).toList)

variable {content : Content}

theorem find?_of_not_refused (tolerated : content.refusal? = none) :
    (((SettingsStore.unknownEntries content.entries).map Prod.fst).find? fun key => !key.isShort) =
      none := by
  cases content with
  | leaving escape | senseless | unsupported version | misshapen => rfl
  | holding entries => exact Option.map_eq_none_iff.mp tolerated

theorem read_of_not_refused (tolerated : content.refusal? = none) :
    content.read path = .ok (content.entries, (content.problem? path).toList) := by
  cases content with
  | leaving escape => cases tolerated
  | unsupported version =>
      cases short : version.isShort with
      | true => rw [read, if_pos short]; rfl
      | false => simp [refusal?, unshowable?, short] at tolerated
  | senseless | misshapen | holding entries => rfl

/-- A file is refused because it has been left or because of a value that can not be shown. -/
theorem refusal?_eq_some_iff {failure : SettingsError} :
    content.refusal? = some failure ↔
      (∃ escape, content = .leaving escape ∧ failure = .escaped escape) ∨
        ∃ value, content.unshowable? = some value ∧ failure = .tooLong value := by
  cases content with
  | leaving escape => simp [refusal?, unshowable?, @eq_comm _ failure]
  | senseless | unsupported version | misshapen | holding entries =>
      simp [refusal?, Option.map_eq_some_iff, @eq_comm _ failure]

theorem ofText_eq_leaving_iff {escape : Escape} :
    ofText interpreter characters = .leaving escape ↔
      interpreter.run SettingsStore.mapName characters = .escaped escape := by
  rw [ofText]
  cases interpreter.run SettingsStore.mapName characters with
  | bound assigned =>
      have holds : ofVariables assigned ≠ .leaving escape := by
        simp only [ofVariables]
        split
        · split <;> simp
        · simp
      simp [holds]
  | failed => simp
  | escaped left => simp

end Content

theorem entriesOf_eq (assigned : List (String × Value)) :
    entriesOf path SettingsStore.mapName assigned = (Content.ofVariables assigned).read path := by
  simp only [entriesOf, Content.ofVariables]
  split
  case isTrue supported =>
    cases assigned.lookup SettingsStore.mapName with
    | none => rfl
    | some given => cases given <;> rfl
  case isFalse unsupported => rfl

theorem parse_eq :
    parse interpreter path SettingsStore.mapName characters =
      (Content.ofText interpreter characters).read path := by
  rw [parse, variablesOf, Content.ofText]
  cases interpreter.run SettingsStore.mapName characters with
  | failed => rfl
  | escaped escape => rfl
  | bound assigned =>
      simp only [bind, Except.bind, entriesOf_eq]
      cases (Content.ofVariables assigned).read path <;> rfl

end SettingsFile

/-! ## Stores -/

namespace SettingsStore

open SettingsFile

variable {interpreter : Interpreter} {files : FileSystem} {path : String} {content : List UInt8}
variable {characters : List Char} {entries : List (Value × Value)} {store : SettingsStore}

theorem takeWhile_isShort {keys : List Value}
    (showable : (keys.find? fun key => !key.isShort) = none) :
    keys.takeWhile Value.isShort = keys := by
  induction keys with
  | nil => rfl
  | cons key rest ih =>
      cases short : key.isShort with
      | false => simp [short] at showable
      | true =>
          rw [List.find?_cons_of_neg (by simp [short])] at showable
          rw [List.takeWhile_cons_of_pos short, ih showable]

theorem load_of_readText {messages : List Message} (there : files.has path = true)
    (text : readText files path = .ok characters)
    (parsed : parse interpreter path mapName characters = .ok (entries, messages)) :
    load interpreter files path =
      let loading := ofFileEntries interpreter.mostLevels path
        (overlay ({} : Settings).entries entries)
      { loading with messages := messages ++ loading.messages } := by
  have laid : SettingsFile.load interpreter files path mapName ({} : Settings).entries =
      .ok (overlay ({} : Settings).entries entries, messages) := by
    rw [SettingsFile.load, text]
    simp only [parsed, Except.map]
  rw [load, if_pos there, laid]

/-- A map all of whose unknown keys can be shown gives the keys their values, and every unknown key
is mentioned. -/
theorem ofFileEntries_of_showable {levels : Nat}
    (showable : (((unknownEntries entries).map Prod.fst).find? fun key => !key.isShort) = none) :
    ofFileEntries levels path (overlay ({} : Settings).entries entries) =
      { messages := (unknownEntries entries).map fun entry => unknownKeyMessage entry.1
        outcome := .ok
          { settings := ({} : Settings).overlaid entries
            path := path
            persistent := true
            levels := levels } } := by
  simp only [ofFileEntries, settingsOf_overlay, showable, takeWhile_isShort showable, List.map_map]
  rfl

/-- The settings are taken over from the map that a text holds, or they are the defaults. -/
theorem load_of_not_refused (there : files.has path = true)
    (text : readText files path = .ok characters)
    (tolerated : (Content.ofText interpreter characters).refusal? = none) :
    load interpreter files path =
      { messages := ((Content.ofText interpreter characters).problem? path).toList ++
          (unknownEntries (Content.ofText interpreter characters).entries).map
            fun entry => unknownKeyMessage entry.1
        outcome := .ok
          { settings := ({} : Settings).overlaid (Content.ofText interpreter characters).entries
            path := path
            persistent := true
            levels := interpreter.mostLevels } } := by
  rw [load_of_readText there text (parse_eq.trans (Content.read_of_not_refused tolerated)),
    ofFileEntries_of_showable (Content.find?_of_not_refused tolerated)]

theorem outcome_load_of_parse (there : files.has path = true)
    (text : readText files path = .ok characters) {failure : SettingsError}
    (parsed : parse interpreter path mapName characters = .error failure) :
    (load interpreter files path).outcome = .error failure := by
  rw [load, if_pos there, SettingsFile.load, text]
  simp only [parsed, Except.map]

theorem outcome_load_of_refusal (there : files.has path = true)
    (text : readText files path = .ok characters) {failure : SettingsError}
    (refused : (Content.ofText interpreter characters).refusal? = some failure) :
    (load interpreter files path).outcome = .error failure := by
  have parsed := @parse_eq interpreter path characters
  cases said : Content.ofText interpreter characters with
  | senseless | misshapen =>
      rw [said] at refused
      cases refused
  | leaving escape =>
      rw [said] at refused parsed
      cases refused
      exact outcome_load_of_parse there text parsed
  | unsupported version =>
      rw [said] at refused parsed
      simp only [Content.refusal?, Content.unshowable?] at refused
      split at refused
      case isTrue => cases refused
      case isFalse long =>
        cases refused
        rw [Content.read, if_neg long] at parsed
        exact outcome_load_of_parse there text parsed
  | holding entries =>
      rw [said] at parsed refused
      obtain ⟨key, hidden, rfl⟩ := Option.map_eq_some_iff.mp refused
      rw [load_of_readText there text parsed]
      rw [Content.unshowable?] at hidden
      simp only [ofFileEntries, settingsOf_overlay, Content.entries, hidden]

/-! ## Files -/

theorem outcome_load_of_defect (found : files.read path = .ok content) {defect : Text.Utf8.Defect}
    (garbled : Text.Utf8.decode content = .error defect) :
    (load interpreter files path).outcome = .error (.notText defect) := by
  rw [load, if_pos (FileSystem.has_of_read found), SettingsFile.load, readText, found]
  simp only [garbled]

theorem readText_of_decode (found : files.read path = .ok content)
    (decoded : Text.Utf8.decode content = .ok characters) :
    readText files path = .ok (plainLines characters) := by
  rw [readText, found]
  simp only [decoded]

theorem exists_lookup_iff (settings : Settings) (key : Value) :
    (∃ value, settings.lookup key = .ok value) ↔ key ∈ Key.all.map fun name => .text name.name := by
  rw [Settings.lookup, List.mem_map]
  constructor
  · rintro ⟨value, looked⟩
    split at looked
    case h_1 name known => exact ⟨name, name.mem_all, (Key.eq_text_of_ofValue? known).symm⟩
    case h_2 => cases looked
  · rintro ⟨name, -, rfl⟩
    exact ⟨settings.get name, by rw [Key.ofValue?, Key.ofName?_name]⟩

/-- Loading fails exactly if a file is no text, if it leaves those who carry it out, or if something
in it can not be shown. -/
theorem outcome_load_eq_error_iff (interpreter : Interpreter)
    (found : files.read path = .ok content) (failure : SettingsError) :
    (load interpreter files path).outcome = .error failure ↔
      (∃ defect, Text.Utf8.decode content = .error defect ∧ failure = .notText defect) ∨
        (∃ characters escape, Text.Utf8.decode content = .ok characters ∧
          interpreter.run mapName (plainLines characters) = .escaped escape ∧
          failure = .escaped escape) ∨
        ∃ characters value, Text.Utf8.decode content = .ok characters ∧
          (Content.ofText interpreter (plainLines characters)).unshowable? = some value ∧
          failure = .tooLong value := by
  have there := FileSystem.has_of_read found
  cases decoded : Text.Utf8.decode content with
  | error defect =>
      rw [outcome_load_of_defect found decoded]
      simp [eq_comm]
  | ok characters =>
      have text := readText_of_decode found decoded
      have refused := @Content.refusal?_eq_some_iff
        (Content.ofText interpreter (plainLines characters)) failure
      simp only [Content.ofText_eq_leaving_iff] at refused
      simp only [reduceCtorEq, false_and, exists_false, false_or, Except.ok.injEq,
        exists_and_left, exists_eq_left', ← refused]
      cases shown : (Content.ofText interpreter (plainLines characters)).refusal? with
      | none =>
          rw [load_of_not_refused there text shown]
          simp
      | some known =>
          rw [outcome_load_of_refusal there text shown]
          simp

/-- What a store is that has been loaded: the defaults, if there is a problem with the file, or what
the entries of the file's map make of them. -/
theorem settings_of_load (found : files.read path = .ok content)
    (loaded : (load interpreter files path).outcome = .ok store) :
    ∃ characters, Text.Utf8.decode content = .ok characters ∧
      ((∃ problem, (Content.ofText interpreter (plainLines characters)).problem? path =
            some problem ∧
          (load interpreter files path).messages = [problem] ∧ store.settings = {}) ∨
        ∃ entries, Content.ofText interpreter (plainLines characters) = .holding entries ∧
          (load interpreter files path).messages =
            (unknownEntries entries).map (fun entry => unknownKeyMessage entry.1) ∧
          ∀ key, store.settings.get key =
            (Settings.lastOf? entries key).getD (({} : Settings).get key)) := by
  have there := FileSystem.has_of_read found
  cases decoded : Text.Utf8.decode content with
  | error defect =>
      rw [outcome_load_of_defect found decoded] at loaded
      cases loaded
  | ok characters =>
      refine ⟨characters, rfl, ?_⟩
      have text := readText_of_decode found decoded
      cases tolerated : (Content.ofText interpreter (plainLines characters)).refusal? with
      | some failure =>
          rw [outcome_load_of_refusal there text tolerated] at loaded
          cases loaded
      | none =>
          rw [load_of_not_refused there text tolerated] at loaded ⊢
          cases loaded
          cases said : Content.ofText interpreter (plainLines characters) with
          | leaving escape =>
              rw [said] at tolerated
              cases tolerated
          | senseless | unsupported version | misshapen =>
              exact Or.inl ⟨_, rfl, rfl, rfl⟩
          | holding entries =>
              exact Or.inr ⟨entries, rfl, rfl, Settings.get_overlaid {} entries⟩

/-- Whoever carries it out, loading a file comes to an end with the seven keys unless the file is no
text, leaves those who carry it out, or has a version that is not known or an unknown key that can
not be shown.  Then either a problem with the file is reported, and all settings are the defaults;
or every key has the value of the last entry of the file's map with that key, or else the default,
and the unknown keys of the map are mentioned. -/
theorem load_of_read (interpreter : Interpreter) (found : files.read path = .ok content) :
    (∀ failure, (load interpreter files path).outcome = .error failure ↔
      (∃ defect, Text.Utf8.decode content = .error defect ∧ failure = .notText defect) ∨
        (∃ characters escape, Text.Utf8.decode content = .ok characters ∧
          interpreter.run mapName (plainLines characters) = .escaped escape ∧
          failure = .escaped escape) ∨
        ∃ characters value, Text.Utf8.decode content = .ok characters ∧
          (Content.ofText interpreter (plainLines characters)).unshowable? = some value ∧
          failure = .tooLong value) ∧
    ∀ store, (load interpreter files path).outcome = .ok store →
      (∀ key, (∃ value, store.settings.lookup key = .ok value) ↔
        key ∈ Key.all.map fun name => .text name.name) ∧
      ∃ characters, Text.Utf8.decode content = .ok characters ∧
        ((∃ problem, (Content.ofText interpreter (plainLines characters)).problem? path =
              some problem ∧
            (load interpreter files path).messages = [problem] ∧ store.settings = {}) ∨
          ∃ entries, Content.ofText interpreter (plainLines characters) = .holding entries ∧
            (load interpreter files path).messages =
              (unknownEntries entries).map (fun entry => unknownKeyMessage entry.1) ∧
            ∀ key, store.settings.get key =
              (Settings.lastOf? entries key).getD (({} : Settings).get key)) :=
  ⟨outcome_load_eq_error_iff interpreter found, fun store loaded =>
    ⟨exists_lookup_iff store.settings, settings_of_load found loaded⟩⟩

/-! ### Single files -/

def filesWith (content : List UInt8) : FileSystem where
  nodes := [([".dwarf_symdb.conf"], .file content 0)]

theorem read_filesWith (content : List UInt8) :
    (filesWith content).read ".dwarf_symdb.conf" = .ok content := by
  have relative : ".dwarf_symdb.conf".startsWith "/" = false := by simp
  refine FileSystem.read_eq_ok_iff.mpr ⟨⟨0, ?_⟩, rfl, rfl⟩
  simp only [FileSystem.inspect, FileSystem.accept, FileSystem.origin, relative,
    String.contains_char_eq]
  rfl

/-- The text of a settings file in which a bracket is never closed. -/
def brokenText : String :=
  "formatversion = 1\nconfig = \x7b'symdb.verbose': True,\n"

theorem ofText_of_openBrackets {scan : Token.Scan}
    (scanned : Token.scan? .ascii characters = some scan) (unclosed : scan.openBrackets ≠ 0) :
    Content.ofText interpreter characters = .senseless := by
  simp only [Content.ofText, Interpreter.run, scanned]
  rw [if_pos (Or.inl unclosed)]

theorem ofText_brokenText (interpreter : Interpreter) :
    Content.ofText interpreter (plainLines brokenText.toList) = .senseless := by
  have unclosed : ((Token.scan? .ascii (plainLines brokenText.toList)).map
      Token.Scan.openBrackets) = some 1 := by decide +kernel
  obtain ⟨scan, scanned, one⟩ := Option.map_eq_some_iff.mp unclosed
  exact ofText_of_openBrackets scanned (by rw [one]; decide)

theorem load_brokenText (interpreter : Interpreter) :
    load interpreter (filesWith (Text.Utf8.encode brokenText)) ".dwarf_symdb.conf" =
      ⟨[senseWarning ".dwarf_symdb.conf"],
        .ok { path := ".dwarf_symdb.conf", persistent := true,
              levels := interpreter.mostLevels }⟩ := by
  have found := read_filesWith (Text.Utf8.encode brokenText)
  have text := readText_of_decode found (Text.Utf8.decode_encode brokenText)
  have said := ofText_brokenText interpreter
  rw [load_of_not_refused (FileSystem.has_of_read found) text (by rw [said]; rfl), said]
  rfl

theorem load_of_read_brokenText : ∃ store,
    (load .standard (filesWith (Text.Utf8.encode brokenText)) ".dwarf_symdb.conf").outcome =
        .ok store ∧
      (load .standard (filesWith (Text.Utf8.encode brokenText)) ".dwarf_symdb.conf").messages =
        [senseWarning ".dwarf_symdb.conf"] ∧
      store.settings.lookup (.text "symdb.verbose") = .ok (.bool false) := by
  have outcome := congrArg Loading.outcome (load_brokenText .standard)
  obtain ⟨-, characters, decoded, result⟩ :=
    (load_of_read .standard (read_filesWith (Text.Utf8.encode brokenText))).2 _ outcome
  obtain rfl : brokenText.toList = characters :=
    Except.ok.inj ((Text.Utf8.decode_encode brokenText).symm.trans decoded)
  rw [ofText_brokenText] at result
  rcases result with ⟨problem, said, messages, settings⟩ | ⟨entries, said, -⟩
  · obtain rfl := Option.some.inj said
    exact ⟨_, outcome, messages, congrArg (·.lookup (.text "symdb.verbose")) settings⟩
  · cases said

/-- A file that is no text is not tolerated. -/
theorem outcome_load_garbled :
    (filesWith [0xff]).read ".dwarf_symdb.conf" = .ok [0xff] ∧
      ∀ interpreter, (load interpreter (filesWith [0xff]) ".dwarf_symdb.conf").outcome =
        .error (.notText ⟨[0xff], 0, .badStart⟩) :=
  ⟨read_filesWith _, fun _ => outcome_load_of_defect (read_filesWith _) rfl⟩

end SettingsStore
end DebugIndex
