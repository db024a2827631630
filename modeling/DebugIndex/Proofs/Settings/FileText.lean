import DebugIndex.Proofs.Settings.Lexing

/-!
# The text of a settings file

A file that is written in full holds the format version and one map, with the spelling of each
entry on a line of its own.  It is read as the tokens of the entries, between those that open
and close it, and it has neither carriage returns nor null characters that a reader would take
for something else.
-/

namespace DebugIndex

namespace Value

/-- Whether an entry of a map has a spelling: a text and a value with one. -/
def IsSpelledEntry (entry : Value × Value) : Prop :=
  (∃ name, entry.1 = .text name) ∧ entry.2.IsSpelled

/-- How deep lists and tuples are nested in the deepest of the values of a map. -/
def entriesNesting (entries : List (Value × Value)) : Nat :=
  itemsNesting (entries.map Prod.snd)

/-- The characters of the entries of a map, each on a line of its own. -/
def entriesSpelling : List (Value × Value) → List Char
  | [] => []
  | (key, value) :: rest =>
      ' ' :: ' ' :: (spelling key ++ ':' :: ' ' :: (spelling value ++
        ',' :: '\n' :: entriesSpelling rest))

def entryTokens (entry : Value × Value) : List Token :=
  tokens entry.1 ++ .mark ':' :: tokens entry.2

def entriesTokens (entries : List (Value × Value)) : List Token :=
  entries.flatMap fun entry => entryTokens entry ++ [.mark ',']

end Value

namespace SettingsFile

open Value

variable {levels : Nat} {entries : List (Value × Value)} {mapName : String}

def spelling (mapName : String) (entries : List (Value × Value)) : List Char :=
  (opening mapName).toList ++ entriesSpelling entries ++ closing.toList

/-- The tokens of the line with the format version and of the beginning of the map. -/
def openingTokens (mapName : String) : List Token :=
  [.name versionName, .mark '=', .constant (.int settingsVersion), .lineEnd, .name mapName,
    .mark '=', .mark '\x7b']

def tokens (mapName : String) (entries : List (Value × Value)) : List Token :=
  openingTokens mapName ++ entriesTokens entries ++ [.mark '\x7d', .lineEnd]

/-! ## What is written -/

theorem writeEntry_refusal_eq_none_iff {entry : Value × Value}
    (named : ∃ name, entry.1 = .text name) :
    (writeEntry levels entry).refusal = none ↔ entry.2.isWritable levels = true := by
  obtain ⟨key, value⟩ := entry
  obtain ⟨name, rfl⟩ := named
  have shortKey : (Value.text name).isShort = true := rfl
  simp [writeEntry, Written.andThen_refusal_eq_none_iff, ofValue_refusal_eq_none_iff, shortKey,
    writeValue_refusal_eq_none_iff]

theorem writeEntries_refusal_eq_none_iff (named : ∀ entry ∈ entries, ∃ name, entry.1 = .text name) :
    (writeEntries levels entries).refusal = none ↔
      ∀ entry ∈ entries, entry.2.isWritable levels = true := by
  induction entries with
  | nil => simp [writeEntries]
  | cons entry rest ih =>
      obtain ⟨namedFirst, namedRest⟩ := List.forall_mem_cons.mp named
      rw [writeEntries, Written.andThen_refusal_eq_none_iff, ih namedRest,
        writeEntry_refusal_eq_none_iff namedFirst, List.forall_mem_cons]

theorem render_refusal_eq_none_iff (named : ∀ entry ∈ entries, ∃ name, entry.1 = .text name) :
    (render levels mapName entries).refusal = none ↔
      ∀ entry ∈ entries, entry.2.isWritable levels = true := by
  rw [← writeEntries_refusal_eq_none_iff named]
  simp [render, Written.andThen_refusal_eq_none_iff]

theorem writeEntry_of_isWritable {entry : Value × Value} (named : ∃ name, entry.1 = .text name)
    (writable : entry.2.isWritable levels = true) :
    writeEntry levels entry = ⟨String.ofList (entriesSpelling [entry]), none⟩ := by
  obtain ⟨key, value⟩ := entry
  obtain ⟨name, rfl⟩ := named
  have shortKey : (Value.text name).isShort = true := rfl
  simp [writeEntry, ofValue_of_short shortKey, writeValue_of_isWritable value writable,
    Written.andThen_of_none, entriesSpelling, Value.spelling, ← String.toList_inj]

theorem writeEntries_of_isWritable (named : ∀ entry ∈ entries, ∃ name, entry.1 = .text name)
    (writable : ∀ entry ∈ entries, entry.2.isWritable levels = true) :
    writeEntries levels entries = ⟨String.ofList (entriesSpelling entries), none⟩ := by
  induction entries with
  | nil => rfl
  | cons entry rest ih =>
      obtain ⟨namedFirst, namedRest⟩ := List.forall_mem_cons.mp named
      obtain ⟨writableFirst, writableRest⟩ := List.forall_mem_cons.mp writable
      simp [writeEntries, writeEntry_of_isWritable namedFirst writableFirst,
        ih namedRest writableRest, Written.andThen_of_none, entriesSpelling, ← String.toList_inj]

theorem render_of_isWritable (named : ∀ entry ∈ entries, ∃ name, entry.1 = .text name)
    (writable : ∀ entry ∈ entries, entry.2.isWritable levels = true) :
    render levels mapName entries = ⟨String.ofList (spelling mapName entries), none⟩ := by
  simp [render, writeEntries_of_isWritable named writable, Written.andThen_of_none, spelling,
    ← String.toList_inj]

/-! ## What is read -/

section Tokens

open Token

theorem scanFrom?_entriesSpelling (spelled : ∀ entry ∈ entries, IsSpelledEntry entry)
    (rest : List Char) :
    scanFrom? .ascii ⟨1, false⟩ (entriesSpelling entries ++ rest) =
      (scanFrom? .ascii ⟨1, false⟩ rest).map (·.after (entriesTokens entries)) := by
  induction entries with
  | nil => simp [entriesSpelling, entriesTokens]
  | cons entry others ih =>
      obtain ⟨key, value⟩ := entry
      obtain ⟨⟨⟨name, rfl⟩, spelledValue⟩, spelledOthers⟩ := List.forall_mem_cons.mp spelled
      simp only [entriesSpelling, List.cons_append, List.append_assoc, scanFrom?_space,
        Token.scanFrom?_spelling (.text name) .colon, scanFrom?_colon,
        Token.scanFrom?_spelling spelledValue .comma, scanFrom?_comma, scanFrom?_newline,
        ih spelledOthers, Scan.map_after_after]
      simp [entriesTokens, entryTokens]

theorem scanFrom?_equals (rest : List Char) :
    scanFrom? .ascii ⟨0, false⟩ (' ' :: '=' :: ' ' :: rest) =
      (scanFrom? .ascii ⟨0, false⟩ rest).map (·.after [.mark '=']) := by
  have read : lexeme? .ascii ⟨0, false⟩ ('=' :: ' ' :: rest) =
      some ⟨some (.mark '='), ⟨0, false⟩, ' ' :: rest⟩ := rfl
  rw [scanFrom?_space, scanFrom?_of_lexeme read (Nat.le_refl _), scanFrom?_space]
  rfl

theorem scanFrom?_lineEnd (rest : List Char) :
    scanFrom? .ascii ⟨0, false⟩ ('\n' :: rest) =
      (scanFrom? .ascii ⟨0, true⟩ rest).map (·.after [.lineEnd]) := by
  have read : lexeme? .ascii ⟨0, false⟩ ('\n' :: rest) =
      some ⟨some .lineEnd, ⟨0, true⟩, rest⟩ := rfl
  exact scanFrom?_of_lexeme read (Nat.le_refl _)

theorem scanFrom?_opening (rest : List Char) :
    scanFrom? .ascii {} ((opening "config").toList ++ rest) =
      (scanFrom? .ascii ⟨1, false⟩ rest).map (·.after (openingTokens "config")) := by
  have written : (opening "config").toList ++ rest =
      'f' :: ("ormatversion = ".toList ++ (Nat.toDigits 10 1 ++
        '\n' :: 'c' :: ("onfig = ".toList ++ '\x7b' :: '\n' :: '\n' :: rest))) := rfl
  have version (rest : List Char) :
      lexeme? .ascii {} ('f' :: ("ormatversion = ".toList ++ rest)) =
        some ⟨some (.name versionName), ⟨0, false⟩, ' ' :: '=' :: ' ' :: rest⟩ := rfl
  have name (rest : List Char) :
      lexeme? .ascii ⟨0, true⟩ ('c' :: ("onfig = ".toList ++ rest)) =
        some ⟨some (.name "config"), ⟨0, false⟩, ' ' :: '=' :: ' ' :: rest⟩ := rfl
  have brace (rest : List Char) : lexeme? .ascii ⟨0, false⟩ ('\x7b' :: rest) =
      some ⟨some (.mark '\x7b'), ⟨1, false⟩, rest⟩ := rfl
  have short : Numeral.isShort ((1 : Nat) : Int) = true := by decide +kernel
  rw [written, scanFrom?_of_lexeme (version _) (by simp), scanFrom?_equals,
    scanFrom?_number short .lineEnd, scanFrom?_lineEnd,
    scanFrom?_of_lexeme (name _) (by simp), scanFrom?_equals,
    scanFrom?_of_lexeme (brace _) (Nat.le_refl _), scanFrom?_newline, scanFrom?_newline]
  simp only [Scan.map_after_after]
  rfl

theorem scanFrom?_closing :
    scanFrom? .ascii ⟨1, false⟩ closing.toList = some ⟨[.mark '\x7d', .lineEnd], 0⟩ := by
  have written : closing.toList = '\n' :: '\x7d' :: '\n' :: [] := rfl
  have brace (rest : List Char) : lexeme? .ascii ⟨1, false⟩ ('\x7d' :: rest) =
      some ⟨some (.mark '\x7d'), ⟨0, false⟩, rest⟩ := rfl
  have ended : scanFrom? .ascii ⟨0, true⟩ [] = some ⟨[], 0⟩ := by simp [scanFrom?]
  rw [written, scanFrom?_newline, scanFrom?_of_lexeme (brace _) (Nat.le_refl _),
    scanFrom?_lineEnd, ended]
  rfl

theorem scanFrom?_spelling (spelled : ∀ entry ∈ entries, IsSpelledEntry entry) :
    scanFrom? .ascii {} (spelling "config" entries) = some ⟨tokens "config" entries, 0⟩ := by
  rw [spelling, List.append_assoc, scanFrom?_opening, scanFrom?_entriesSpelling spelled,
    scanFrom?_closing]
  simp [tokens, openingTokens, Scan.after]

/-! ## Open brackets -/

/-- In the entries of a map as many more brackets are open as the deepest value is nested. -/
theorem deepest_entriesTokens (spelled : ∀ entry ∈ entries, IsSpelledEntry entry)
    (rest : List Token) :
    deepest 1 (entriesTokens entries ++ rest) =
      max (1 + entriesNesting entries) (deepest 1 rest) := by
  induction entries with
  | nil => exact (Nat.max_eq_right (le_deepest 1 rest)).symm
  | cons entry others ih =>
      obtain ⟨key, value⟩ := entry
      obtain ⟨⟨⟨name, rfl⟩, spelledValue⟩, spelledOthers⟩ := List.forall_mem_cons.mp spelled
      have nested : entriesNesting ((.text name, value) :: others) =
          max value.nesting (entriesNesting others) := rfl
      have behind := ih spelledOthers
      have inKey (rest : List Token) :
          deepest 1 ((Value.text name).tokens ++ rest) = max (1 + 0) (deepest 1 rest) :=
        deepest_tokens (.text name) rest
      have inValue (rest : List Token) := @deepest_tokens 1 value spelledValue rest
      simp only [entriesTokens, entryTokens, List.flatMap_cons, List.append_assoc,
        List.cons_append, List.nil_append, nested] at behind ⊢
      rw [inKey, deepest_cons_of_depthBehind rfl, inValue, deepest_cons_of_depthBehind rfl, behind]
      omega

theorem deepest_openingTokens (rest : List Token) :
    deepest 0 (openingTokens mapName ++ rest) = deepest 1 rest := by
  change max 0 (max 0 (max 0 (max 0 (max 0 (max 0 (max 0 (deepest 1 rest))))))) = _
  simp

theorem deepest_fileTokens (spelled : ∀ entry ∈ entries, IsSpelledEntry entry) :
    deepest 0 (tokens mapName entries) = 1 + entriesNesting entries := by
  have ended : deepest 1 [.mark '\x7d', .lineEnd] = 1 := rfl
  rw [tokens, List.append_assoc, deepest_openingTokens, deepest_entriesTokens spelled, ended]
  omega

/-! ## Control characters -/

theorem le_toNat_of_mem_itemsSpelling {items : List Value} {character : Char}
    (each : ∀ item ∈ items, character ∈ item.spelling → 0x20 ≤ character.toNat)
    (member : character ∈ itemsSpelling items) : 0x20 ≤ character.toNat := by
  induction items with
  | nil => simp [itemsSpelling] at member
  | cons item rest ih =>
      obtain ⟨first, others⟩ := List.forall_mem_cons.mp each
      simp only [itemsSpelling, List.mem_append, List.mem_cons] at member
      rcases member with inItem | rfl | rfl | inRest
      · exact first inItem
      · decide
      · decide
      · exact ih others inRest

theorem le_toNat_of_mem_word {word : String} (visible : word.toList.all (0x20 ≤ ·.toNat) = true)
    {character : Char} (member : character ∈ word.toList) : 0x20 ≤ character.toNat :=
  of_decide_eq_true (List.all_eq_true.mp visible character member)

theorem le_toNat_of_mem_text {number : Binary64} {character : Char}
    (member : character ∈ number.text.toList) : 0x20 ≤ character.toNat := by
  match number with
  | .nan => exact le_toNat_of_mem_word rfl member
  | .infinite false => exact le_toNat_of_mem_word rfl member
  | .infinite true => exact le_toNat_of_mem_word rfl member
  | .finite negative significand exponent canonical =>
      obtain ⟨characters, written, numeral, spells, -⟩ :=
        Binary64.exists_displays_text negative canonical
      rw [written, List.mem_append] at member
      rcases member with sign | among
      · cases negative with
        | false => cases sign
        | true =>
            rw [List.mem_singleton.mp sign]
            decide
      · exact spells.visible character among

theorem le_toNat_of_mem_spelling {value : Value} (spelled : value.IsSpelled) {character : Char}
    (member : character ∈ value.spelling) : 0x20 ≤ character.toNat := by
  induction spelled with
  | null => exact le_toNat_of_mem_word rfl member
  | bool truth => cases truth <;> exact le_toNat_of_mem_word rfl member
  | float number => exact le_toNat_of_mem_text member
  | @int whole short =>
      have digits (among : character ∈ (Numeral.digits 10 whole.natAbs).toList) :
          0x20 ≤ character.toNat := by
        rw [Numeral.digits, String.toList_ofList] at among
        exact Text.le_toNat_of_mem_toDigits (by decide) (by decide) among
      change character ∈ (Numeral.inBase 10 whole).toList at member
      simp only [Numeral.inBase] at member
      split at member
      · rw [String.toList_append, List.mem_append] at member
        rcases member with sign | among
        · obtain rfl : character = '-' := by simpa using sign
          decide
        · exact digits among
      · exact digits member
  | text characters =>
      have member : character ∈ (Text.quoted characters).toList := member
      rw [← Text.quotedPoints_pointsOf] at member
      exact Text.le_toNat_of_mem_quotedPoints member
  | rawText raw => exact Text.le_toNat_of_mem_quotedPoints member
  | list spelled ih | tuple spelled ih =>
      simp only [Value.spelling, List.mem_append, List.mem_cons, List.not_mem_nil,
        or_false] at member
      rcases member with (rfl | inItems) | rfl
      · decide
      · exact le_toNat_of_mem_itemsSpelling ih inItems
      · decide

theorem eq_or_le_toNat_of_mem_opening {character : Char}
    (member : character ∈ (opening "config").toList) :
    character = '\n' ∨ 0x20 ≤ character.toNat := by
  have visible : (opening "config").toList.all
      (fun character => character = '\n' ∨ 0x20 ≤ character.toNat) = true := by decide
  exact of_decide_eq_true (List.all_eq_true.mp visible character member)

theorem eq_or_le_toNat_of_mem_closing {character : Char} (member : character ∈ closing.toList) :
    character = '\n' ∨ 0x20 ≤ character.toNat := by
  have visible : closing.toList.all
      (fun character => character = '\n' ∨ 0x20 ≤ character.toNat) = true := by decide
  exact of_decide_eq_true (List.all_eq_true.mp visible character member)

theorem eq_or_le_toNat_of_mem_spelling (spelled : ∀ entry ∈ entries, IsSpelledEntry entry)
    {character : Char} (member : character ∈ spelling "config" entries) :
    character = '\n' ∨ 0x20 ≤ character.toNat := by
  have inEntries : character ∈ entriesSpelling entries →
      character = '\n' ∨ 0x20 ≤ character.toNat := by
    intro among
    clear member
    induction entries with
    | nil => cases among
    | cons entry rest ih =>
        obtain ⟨key, value⟩ := entry
        obtain ⟨⟨⟨name, rfl⟩, spelledValue⟩, spelledRest⟩ := List.forall_mem_cons.mp spelled
        simp only [entriesSpelling, List.mem_cons, List.mem_append] at among
        rcases among with rfl | rfl | inKey | rfl | rfl | inValue | rfl | rfl | inRest
        · exact Or.inr (by decide)
        · exact Or.inr (by decide)
        · exact Or.inr (le_toNat_of_mem_spelling (.text name) inKey)
        · exact Or.inr (by decide)
        · exact Or.inr (by decide)
        · exact Or.inr (le_toNat_of_mem_spelling spelledValue inValue)
        · exact Or.inr (by decide)
        · exact Or.inl rfl
        · exact ih spelledRest inRest
  rw [spelling, List.mem_append, List.mem_append] at member
  rcases member with (inOpening | among) | inClosing
  · exact eq_or_le_toNat_of_mem_opening inOpening
  · exact inEntries among
  · exact eq_or_le_toNat_of_mem_closing inClosing

theorem plainLines_eq_self {characters : List Char} (noReturn : '\r' ∉ characters) :
    plainLines characters = characters := by
  induction characters with
  | nil => rfl
  | cons character rest ih =>
      obtain ⟨other, others⟩ := List.ne_and_not_mem_of_not_mem_cons noReturn
      rw [plainLines.eq_def]
      split
      case h_1 same => cases same
      case h_2 same => exact absurd (List.cons.inj same).1.symm other
      case h_3 same => exact absurd (List.cons.inj same).1.symm other
      case h_4 same =>
        obtain ⟨rfl, rfl⟩ := List.cons.inj same
        rw [ih others]

/-- What is done about the ends of lines and about null characters does not matter where there are
no control characters but ends of lines. -/
theorem scan?_plainLines {characters : List Char}
    (visible : ∀ character ∈ characters, character = '\n' ∨ 0x20 ≤ character.toNat) :
    scan? .ascii (plainLines characters) = scanFrom? .ascii {} characters := by
  have noReturn : '\r' ∉ characters := fun member => absurd (visible _ member) (by decide)
  have noNull : characters.contains '\x00' = false := by
    rw [Bool.eq_false_iff]
    intro found
    exact absurd (visible _ (List.contains_iff_mem.mp found)) (by decide)
  rw [plainLines_eq_self noReturn, scan?, noNull]
  rfl

theorem scan?_plainLines_spelling (spelled : ∀ entry ∈ entries, IsSpelledEntry entry) :
    scan? .ascii (plainLines (spelling "config" entries)) = some ⟨tokens "config" entries, 0⟩ :=
  (scan?_plainLines fun _ => eq_or_le_toNat_of_mem_spelling spelled).trans
    (scanFrom?_spelling spelled)

end Tokens

end SettingsFile
end DebugIndex
