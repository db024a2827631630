import DebugIndex.Proofs.Number.Digits
import DebugIndex.Settings.Literal
import DebugIndex.Value.Text
import Mathlib.Tactic.SplitIfs

/-!
# Quoted text that is read back

Between quotes each code point is written as itself or as an escape, and none of these begins
with the quote in use.  So a reader of a literal takes them one by one, gets back each code
point, and ends at the quote that has been written last.
-/

namespace DebugIndex

namespace Text

/-! ## Characters and code points -/

@[simp]
theorem escapePointOf_toNat (quote character : Char) :
    escapePointOf quote character.toNat = escapeCharacter quote character := by
  simp [escapePointOf, isSurrogate_toNat, characterOf_toNat]

theorem quotedPoints_pointsOf (characters : String) :
    quotedPoints (pointsOf characters) = quoted characters := by
  simp only [quotedPoints, quoted, quotedCharacters, map_characterOf_pointsOf]
  simp only [pointsOf, List.flatMap_map, escapePointOf_toNat]

theorem toNat_le (character : Char) : character.toNat ≤ 0x10ffff := by
  have valid : character.toNat < 0xd800 ∨ 0xdfff < character.toNat ∧ character.toNat < 0x110000 :=
    character.valid
  omega

theorem le_of_mem_pointsOf {characters : String} {point : Nat}
    (member : point ∈ pointsOf characters) : point ≤ 0x10ffff := by
  obtain ⟨character, -, rfl⟩ := List.mem_map.mp member
  exact toNat_le character

theorem toNat_characterOf {point : Nat} (inRange : point ≤ 0x10ffff)
    (plain : isSurrogate point = false) : (characterOf point).toNat = point := by
  have valid : point.isValidChar := by
    simp only [isSurrogate, Bool.and_eq_false_iff, decide_eq_false_iff_not] at plain
    rw [Nat.isValidChar]
    omega
  simp only [characterOf, plain, Bool.false_eq_true, if_false]
  rw [Char.ofNat, dif_pos valid]
  rfl

theorem quoteFor_eq (characters : List Char) :
    quoteFor characters = '\'' ∨ quoteFor characters = '"' := by
  simp only [quoteFor]
  split
  · exact Or.inr rfl
  · exact Or.inl rfl

theorem length_hexDigits {width number : Nat} (most : (Nat.toDigits 16 number).length ≤ width) :
    (hexDigits width number).length = width := by
  simp only [hexDigits, List.length_append, List.length_replicate]
  omega

theorem escapePoint_eq_cons (point : Nat) :
    escapePoint point = '\\' :: (escapePoint point).tail := by
  simp only [escapePoint]
  split
  · rfl
  · split <;> rfl

/-! ## Characters that are written -/

theorem le_toNat_of_mem_toDigits {base number : Nat} {character : Char} (least : 1 < base)
    (most : base ≤ 16) (member : character ∈ Nat.toDigits base number) :
    0x20 ≤ character.toNat := by
  obtain ⟨digit, small, rfl⟩ := Number.exists_of_mem_toDigits least member
  have sixteen : ∀ digit < 16, 0x20 ≤ (Nat.digitChar digit).toNat := by decide
  exact sixteen digit (by omega)

theorem le_toNat_of_mem_escapePoint {point : Nat} {character : Char}
    (member : character ∈ escapePoint point) : 0x20 ≤ character.toNat := by
  have digits {width : Nat} (among : character ∈ hexDigits width point) :
      0x20 ≤ character.toNat := by
    rcases List.mem_append.mp among with filling | digit
    · obtain rfl := List.eq_of_mem_replicate filling
      decide
    · exact le_toNat_of_mem_toDigits (by decide) (by decide) digit
  simp only [escapePoint] at member
  repeat' split at member
  all_goals
    simp only [List.mem_cons] at member
    rcases member with rfl | rfl | among
    · decide
    · decide
    · exact digits among

theorem le_toNat_of_isPrintable {character : Char} (printable : isPrintable character = true) :
    0x20 ≤ character.toNat := by
  simp only [isPrintable] at printable
  split at printable
  · exact of_decide_eq_true printable
  · omega

theorem le_toNat_of_mem_escapeCharacter {quote given character : Char}
    (shown : 0x20 ≤ quote.toNat) (member : character ∈ escapeCharacter quote given) :
    0x20 ≤ character.toNat := by
  have lettered {letter : Char} (plain : 0x20 ≤ letter.toNat)
      (among : character ∈ ['\\', letter]) : 0x20 ≤ character.toNat := by
    rcases List.mem_cons.mp among with rfl | same
    · decide
    · rwa [List.mem_singleton.mp same]
  simp only [escapeCharacter] at member
  split at member
  case isTrue special =>
    refine lettered ?_ member
    rcases (by simpa using special : given = quote ∨ given = '\\') with rfl | rfl
    · exact shown
    · decide
  case isFalse =>
    split at member
    · exact lettered (by decide) member
    · split at member
      · exact lettered (by decide) member
      · split at member
        · exact lettered (by decide) member
        · split at member
          case isTrue printable =>
            rw [List.mem_singleton.mp member]
            exact le_toNat_of_isPrintable printable
          case isFalse => exact le_toNat_of_mem_escapePoint member

theorem le_toNat_of_mem_quotedPoints {points : List Nat} {character : Char}
    (member : character ∈ (quotedPoints points).toList) : 0x20 ≤ character.toNat := by
  have shown : 0x20 ≤ (quoteFor (points.map characterOf)).toNat := by
    rcases quoteFor_eq (points.map characterOf) with quote | quote <;>
    · rw [quote]
      decide
  simp only [quotedPoints, String.toList_ofList, List.mem_cons, List.mem_append,
    List.mem_flatMap, List.not_mem_nil, or_false] at member
  rcases member with (rfl | ⟨point, -, among⟩) | rfl
  · exact shown
  · simp only [escapePointOf] at among
    split at among
    · exact le_toNat_of_mem_escapePoint among
    · exact le_toNat_of_mem_escapeCharacter shown among
  · exact shown

end Text

namespace Literal

open Text

variable {lexicon : Lexicon} {quote : Char} {rest : List Char} {point : Nat}

/-! ## Escapes -/

theorem hexEscape?_hexDigits {width number : Nat}
    (most : (Nat.toDigits 16 number).length ≤ width) (rest : List Char) :
    hexEscape? width (hexDigits width number ++ rest) = some (number, rest) := by
  have exactly := length_hexDigits most
  have front : (hexDigits width number ++ rest).take width = hexDigits width number := by
    rw [List.take_append_of_le_length (by omega), List.take_of_length_le (by omega)]
  have behind : (hexDigits width number ++ rest).drop width = rest := by
    rw [List.drop_append_of_le_length (by omega), List.drop_of_length_le (by omega),
      List.nil_append]
  have read : Number.hexNumber? (hexDigits width number) = some number :=
    Number.hexNumber?_toDigits _ number
  simp [hexEscape?, front, behind, exactly, read]

theorem textEscape?_escapePoint (inRange : point ≤ 0x10ffff) (rest : List Char) :
    textEscape? lexicon ((escapePoint point).tail ++ rest) = some ([point], rest) := by
  simp only [escapePoint]
  split
  case isTrue one =>
    have two : (Nat.toDigits 16 point).length ≤ 2 :=
      (Nat.length_toDigits_le_iff (by decide) (by decide)).mpr (by omega)
    simp [textEscape?, commonEscape?, hexEscape?_hexDigits two]
  case isFalse =>
    split
    case isTrue more =>
      have four : (Nat.toDigits 16 point).length ≤ 4 :=
        (Nat.length_toDigits_le_iff (by decide) (by decide)).mpr (by omega)
      simp [textEscape?, hexEscape?_hexDigits four]
    case isFalse =>
      have eight : (Nat.toDigits 16 point).length ≤ 8 :=
        (Nat.length_toDigits_le_iff (by decide) (by decide)).mpr (by omega)
      simp [textEscape?, hexEscape?_hexDigits eight, inRange?, inRange]

/-! ## Quotes -/

theorem quoted?_closing :
    quoted? (textEscape? lexicon) ⟨quote, false⟩ (quote :: rest) = some ([], rest) := by
  rw [quoted?.eq_def]
  simp [closing?]

theorem quoted?_character {character : Char} (inside : character ≠ quote)
    (plain : character ≠ '\\') (sameLine : character ≠ '\n') :
    quoted? (textEscape? lexicon) ⟨quote, false⟩ (character :: rest) =
      (quoted? (textEscape? lexicon) ⟨quote, false⟩ rest).map fun read =>
        (character.toNat :: read.1, read.2) := by
  rw [quoted?.eq_def]
  simp [closing?, Ne.symm inside, sameLine]

theorem quoted?_escape {escape : List Char} {points : List Nat} (inside : quote ≠ '\\')
    (read : textEscape? lexicon (escape ++ rest) = some (points, rest)) :
    quoted? (textEscape? lexicon) ⟨quote, false⟩ ('\\' :: escape ++ rest) =
      (quoted? (textEscape? lexicon) ⟨quote, false⟩ rest).map fun read =>
        (points ++ read.1, read.2) := by
  rw [quoted?.eq_def]
  simp [closing?, inside, read]

theorem quoted?_escapePoint (inside : quote ≠ '\\') (inRange : point ≤ 0x10ffff)
    (rest : List Char) :
    quoted? (textEscape? lexicon) ⟨quote, false⟩ (escapePoint point ++ rest) =
      (quoted? (textEscape? lexicon) ⟨quote, false⟩ rest).map fun read =>
        (point :: read.1, read.2) := by
  rw [escapePoint_eq_cons, quoted?_escape inside (textEscape?_escapePoint inRange rest)]
  rfl

theorem quoted?_escapeCharacter (delimits : quote = '\'' ∨ quote = '"') (character : Char)
    (rest : List Char) :
    quoted? (textEscape? lexicon) ⟨quote, false⟩ (escapeCharacter quote character ++ rest) =
      (quoted? (textEscape? lexicon) ⟨quote, false⟩ rest).map fun read =>
        (character.toNat :: read.1, read.2) := by
  have inside : quote ≠ '\\' := by rcases delimits with rfl | rfl <;> decide
  have lettered {letter : Char} (read : textEscape? lexicon (letter :: rest) =
      some ([character.toNat], rest)) :
      quoted? (textEscape? lexicon) ⟨quote, false⟩ ('\\' :: letter :: rest) =
        (quoted? (textEscape? lexicon) ⟨quote, false⟩ rest).map fun read =>
          (character.toNat :: read.1, read.2) :=
    @quoted?_escape lexicon quote rest [letter] [character.toNat] inside read
  simp only [escapeCharacter]
  split_ifs with special newline carriageReturn tabulator
  · refine lettered ?_
    rcases (by simpa using special : character = quote ∨ character = '\\') with rfl | rfl
    · rcases delimits with rfl | rfl <;> rfl
    · rfl
  · subst newline
    exact lettered rfl
  · subst carriageReturn
    exact lettered rfl
  · subst tabulator
    exact lettered rfl
  · obtain ⟨apart, plain⟩ := not_or.mp (by simpa using special :
      ¬ (character = quote ∨ character = '\\'))
    exact quoted?_character apart plain newline
  · have valid : character.toNat < 0xd800 ∨
        0xdfff < character.toNat ∧ character.toNat < 0x110000 := character.valid
    exact quoted?_escapePoint inside (by omega) rest

theorem quoted?_escapePointOf (delimits : quote = '\'' ∨ quote = '"') (inRange : point ≤ 0x10ffff)
    (rest : List Char) :
    quoted? (textEscape? lexicon) ⟨quote, false⟩ (escapePointOf quote point ++ rest) =
      (quoted? (textEscape? lexicon) ⟨quote, false⟩ rest).map fun read =>
        (point :: read.1, read.2) := by
  simp only [escapePointOf]
  split
  case isTrue surrogate =>
    have inside : quote ≠ '\\' := by rcases delimits with rfl | rfl <;> decide
    exact quoted?_escapePoint inside inRange rest
  case isFalse plain =>
    rw [quoted?_escapeCharacter delimits, toNat_characterOf inRange (Bool.eq_false_iff.mpr plain)]

theorem quoted?_points (delimits : quote = '\'' ∨ quote = '"') {points : List Nat}
    (inRange : ∀ point ∈ points, point ≤ 0x10ffff) (rest : List Char) :
    quoted? (textEscape? lexicon) ⟨quote, false⟩
        (points.flatMap (escapePointOf quote) ++ quote :: rest) = some (points, rest) := by
  induction points with
  | nil => exact quoted?_closing
  | cons point more ih =>
      obtain ⟨first, others⟩ := List.forall_mem_cons.mp inRange
      rw [List.flatMap_cons, List.append_assoc, quoted?_escapePointOf delimits first, ih others]
      rfl

theorem exists_escapePointOf_eq_cons (inside : quote ≠ '\\') (point : Nat) :
    ∃ head more, escapePointOf quote point = head :: more ∧ head ≠ quote := by
  have escaped (point : Nat) : ∃ head more, escapePoint point = head :: more ∧ head ≠ quote :=
    ⟨_, _, escapePoint_eq_cons point, inside.symm⟩
  simp only [escapePointOf]
  split
  · exact escaped point
  · simp only [escapeCharacter]
    split
    case isTrue => exact ⟨_, _, rfl, inside.symm⟩
    case isFalse ordinary =>
      have apart : ¬ characterOf point = quote := fun same => ordinary (by simp [same])
      repeat' split
      · exact ⟨_, _, rfl, inside.symm⟩
      · exact ⟨_, _, rfl, inside.symm⟩
      · exact ⟨_, _, rfl, inside.symm⟩
      · exact ⟨_, _, rfl, apart⟩
      · exact escaped _

/-- Code points in quotes are read as they are, unless another quote follows. -/
theorem textAt?_quotedPoints {points : List Nat} (inRange : ∀ point ∈ points, point ≤ 0x10ffff)
    (apart : rest.head? ≠ some '\'' ∧ rest.head? ≠ some '"') :
    textAt? lexicon false ((quotedPoints points).toList ++ rest) = some (points, rest) := by
  obtain ⟨quote, chosen⟩ : ∃ quote, quoteFor (points.map characterOf) = quote := ⟨_, rfl⟩
  have delimits : quote = '\'' ∨ quote = '"' := chosen ▸ quoteFor_eq _
  have inside : quote ≠ '\\' := by rcases delimits with rfl | rfl <;> decide
  have notFollowed : rest.head? ≠ some quote := by
    rcases delimits with rfl | rfl
    · exact apart.1
    · exact apart.2
  have short : [quote, quote].isPrefixOf
      (points.flatMap (escapePointOf quote) ++ quote :: rest) = false := by
    cases points with
    | nil =>
        cases rest with
        | nil => simp
        | cons next more =>
            have other : quote ≠ next := fun same => notFollowed (by rw [same]; rfl)
            simp [List.isPrefixOf, other]
    | cons point more =>
        obtain ⟨head, behind, written, other⟩ := exists_escapePointOf_eq_cons inside point
        simp [List.isPrefixOf, written, other.symm]
  have read := @quoted?_points lexicon _ delimits _ inRange rest
  simp only [textAt?, Bool.false_eq_true, if_false, quotedPoints, chosen, String.toList_ofList,
    List.cons_append, List.append_assoc, List.nil_append, quotedAt?, short, read]

end Literal
end DebugIndex
