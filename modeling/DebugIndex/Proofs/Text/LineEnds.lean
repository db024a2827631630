import DebugIndex.SourceText

/-!
# Line ends

A source file is brought to its normal form as bytes, and split into lines as a text.  In all
encodings a newline is the same single byte, and nothing that comes before or after it can hide
it: where it cuts a character short, a replacement character is read for what there is of it,
and the newline is read as well.  So a text can be decoded one line at a time.
-/

namespace DebugIndex

namespace Text

namespace Utf8

def Piece.shown : Piece → Char
  | .scalar character => character
  | .malformed _ _ => '\ufffd'

theorem decodeLossy_eq (bytes : List UInt8) :
    decodeLossy bytes = (piecesFrom .boundary bytes).map Piece.shown := by
  rw [decodeLossy, pieces]
  refine List.map_congr_left ?_
  intro piece _
  cases piece <;> rfl

/-- Inside a character only bytes are accepted that are no character of their own. -/
def State.Continues : State → Prop
  | .boundary => True
  | .inside _ _ _ low _ => 0x80 ≤ low

theorem continues_start (byte : UInt8) : (start byte).2.Continues := by
  simp only [start]
  split
  · trivial
  · split
    · trivial
    · split
      · exact UInt8.le_refl _
      · split
        · show (0x80 : UInt8) ≤ if byte = 0xe0 then 0xa0 else 0x80
          split <;> decide
        · split
          · show (0x80 : UInt8) ≤ if byte = 0xf0 then 0x90 else 0x80
            split <;> decide
          · trivial

theorem continues_advance (state : State) (byte : UInt8) : (advance state byte).2.Continues := by
  cases state with
  | boundary => exact continues_start byte
  | inside bits taken owed low high =>
      simp only [advance]
      split
      · split
        · trivial
        · exact UInt8.le_refl _
      · exact continues_start byte

theorem shown_piecesFrom_newline {state : State} (continues : state.Continues)
    (rest : List UInt8) :
    (piecesFrom state (10 :: rest)).map Piece.shown =
      (piecesFrom state []).map Piece.shown ++
        '\n' :: (piecesFrom .boundary rest).map Piece.shown := by
  cases state with
  | boundary => rfl
  | inside bits taken owed low high =>
      have refused : ¬ (low ≤ 10 ∧ 10 ≤ high) := by
        rintro ⟨accepted, -⟩
        exact absurd (UInt8.le_trans continues accepted) (by decide)
      simp only [piecesFrom, advance, if_neg refused]
      rfl

theorem shown_piecesFrom_append_newline {state : State} (continues : state.Continues)
    (front rest : List UInt8) :
    (piecesFrom state (front ++ 10 :: rest)).map Piece.shown =
      (piecesFrom state front).map Piece.shown ++
        '\n' :: (piecesFrom .boundary rest).map Piece.shown := by
  induction front generalizing state with
  | nil => exact shown_piecesFrom_newline continues rest
  | cons byte front ih =>
      rw [List.cons_append, piecesFrom, piecesFrom, List.map_append, List.map_append,
        ih (continues_advance state byte), List.append_assoc]

end Utf8

@[simp]
theorem Encoding.decode_nil (encoding : Encoding) : encoding.decode [] = [] := by
  cases encoding <;> rfl

/-- What comes before a newline is decoded as if nothing followed, and what comes after it as
if nothing were before. -/
theorem Encoding.decode_append_newline (encoding : Encoding) (front rest : List UInt8) :
    encoding.decode (front ++ 10 :: rest) =
      encoding.decode front ++ '\n' :: encoding.decode rest := by
  cases encoding with
  | latin1 => exact List.map_append
  | ascii => exact List.map_append
  | utf8 =>
      simp only [decode, Utf8.decodeLossy_eq]
      have outside : Utf8.State.Continues .boundary := trivial
      exact Utf8.shown_piecesFrom_append_newline outside front rest

theorem length_splitOn (separator : Char) (text : List Char) :
    (text.splitOn separator).length = text.count separator + 1 := by
  induction text with
  | nil => rfl
  | cons character rest ih =>
      rw [List.splitOn_cons_eq_if_modifyHead, List.count_cons]
      split
      case isTrue => rw [List.length_cons, ih]
      case isFalse => rw [List.length_modifyHead, ih, Nat.add_zero]

end Text

namespace SourceText

/-- The lines of a text that ends in a newline are what newlines separate before it. -/
theorem linesOf_append_newline (text : List Char) :
    linesOf (text ++ ['\n']) = text.splitOn '\n' := by
  have split : (text ++ ['\n']).splitOn '\n' = text.splitOn '\n' ++ [[]] :=
    List.splitOnP_append_cons text [] (by simp)
  rw [linesOf, split, List.dropLast_concat]

variable {codecs : Text.Codecs} {content front : List UInt8} {encoding : Value}
variable {known : Text.Encoding} {loaded : List Char × List (List Char)}

/-- The known encodings are found under their names whatever other codecs there are. -/
theorem codecOf_of_ofName? {name : String} (clean : name.contains '\x00' = false)
    (named : Text.Encoding.ofName? name = some known) :
    codecOf codecs (.text name) = .ok known.codec := by
  simp only [codecOf, clean, Text.Codecs.find?, named, Bool.false_eq_true, if_false]

theorem codecOf_latin1 :
    codecOf codecs (.text "latin-1") = .ok (Text.Encoding.codec .latin1) :=
  codecOf_of_ofName? (by simp) (by decide +kernel)

theorem ofBytes_of_eq_nil (empty : normalize content = []) :
    ofBytes codecs content encoding = .ok ([], []) := by
  rw [ofBytes, empty]
  rfl

/-- Of bytes that end in a newline those before it are decoded and cut into lines. -/
theorem ofBytes_of_eq_append (ended : normalize content = front ++ [10])
    (named : codecOf codecs encoding = .ok known.codec) :
    ofBytes codecs content encoding =
      .ok (known.decode front ++ ['\n'], (known.decode front).splitOn '\n') := by
  have filled : (front ++ [10]).isEmpty = false := by simp
  rw [ofBytes, ended, named]
  simp only [filled, Bool.false_eq_true, if_false, Except.bind, Text.Encoding.codec,
    known.decode_append_newline, known.decode_nil, linesOf_append_newline]

theorem lines_eq_of_ofBytes (decoded : ofBytes codecs content encoding = .ok loaded) :
    loaded.2 = linesOf loaded.1 := by
  rw [ofBytes] at decoded
  split at decoded
  case isTrue => cases decoded; rfl
  case isFalse =>
    cases named : codecOf codecs encoding with
    | error reason => rw [named] at decoded; cases decoded
    | ok codec =>
        simp only [named, Except.bind] at decoded
        split at decoded
        case h_1 => cases decoded; rfl
        case h_2 => cases decoded

theorem linesOf_eq_nil_iff {text : List Char} : linesOf text = [] ↔ '\n' ∉ text := by
  rw [linesOf, ← List.length_eq_zero_iff, List.length_dropLast, Text.length_splitOn,
    Nat.add_sub_cancel, List.count_eq_zero]

end SourceText
end DebugIndex
