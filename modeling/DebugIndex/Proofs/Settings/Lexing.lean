import DebugIndex.Proofs.Number.Layout
import DebugIndex.Proofs.Settings.Spelling

/-!
# Reading the tokens of values

The spelling of a value is followed by a comma, a colon or the end of a line.  In front of
these a lexer reads the tokens of the value and stands where it stood before, with as many
brackets open.  In between it has as many more open as the value is nested deep.
-/

namespace DebugIndex
namespace Token

/-- What follows a value: a comma, a colon or the end of a line. -/
inductive Delimits : List Char → Prop
  | comma {rest : List Char} : Delimits (',' :: rest)
  | colon {rest : List Char} : Delimits (':' :: rest)
  | lineEnd {rest : List Char} : Delimits ('\n' :: rest)

variable {place : Place} {lexeme : Lexeme} {depth : Nat} {character : Char} {rest more : List Char}

/-- A lexeme gives its token, if it has one, and leaves the rest to be read. -/
theorem scanFrom?_of_lexeme (read : lexeme? .ascii place (character :: more) = some lexeme)
    (shorter : lexeme.rest.length ≤ more.length) :
    scanFrom? .ascii place (character :: more) =
      (scanFrom? .ascii lexeme.place lexeme.rest).map (·.after lexeme.token.toList) := by
  rw [scanFrom?]
  simp only [read, shorter, dif_pos]

theorem scanFrom?_space (rest : List Char) :
    scanFrom? .ascii ⟨depth, false⟩ (' ' :: rest) = scanFrom? .ascii ⟨depth, false⟩ rest := by
  have read : lexeme? .ascii ⟨depth, false⟩ (' ' :: rest) =
      some ⟨none, ⟨depth, false⟩, rest⟩ := rfl
  simp [scanFrom?_of_lexeme read (Nat.le_refl _)]

theorem scanFrom?_newline (rest : List Char) :
    scanFrom? .ascii ⟨depth + 1, false⟩ ('\n' :: rest) =
      scanFrom? .ascii ⟨depth + 1, false⟩ rest := by
  have read : lexeme? .ascii ⟨depth + 1, false⟩ ('\n' :: rest) =
      some ⟨none, ⟨depth + 1, false⟩, rest⟩ := rfl
  simp [scanFrom?_of_lexeme read (Nat.le_refl _)]

theorem scanFrom?_comma (rest : List Char) :
    scanFrom? .ascii ⟨depth, false⟩ (',' :: rest) =
      (scanFrom? .ascii ⟨depth, false⟩ rest).map (·.after [.mark ',']) := by
  have read : lexeme? .ascii ⟨depth, false⟩ (',' :: rest) =
      some ⟨some (.mark ','), ⟨depth, false⟩, rest⟩ := rfl
  exact scanFrom?_of_lexeme read (Nat.le_refl _)

theorem scanFrom?_colon (rest : List Char) :
    scanFrom? .ascii ⟨depth, false⟩ (':' :: ' ' :: rest) =
      (scanFrom? .ascii ⟨depth, false⟩ rest).map (·.after [.mark ':']) := by
  have read : lexeme? .ascii ⟨depth, false⟩ (':' :: ' ' :: rest) =
      some ⟨some (.mark ':'), ⟨depth, false⟩, ' ' :: rest⟩ := rfl
  rw [scanFrom?_of_lexeme read (Nat.le_refl _), scanFrom?_space]
  rfl

theorem scanFrom?_open (rest : List Char) :
    scanFrom? .ascii ⟨depth, false⟩ ('[' :: rest) =
      (scanFrom? .ascii ⟨depth + 1, false⟩ rest).map (·.after [.mark '[']) := by
  have read : lexeme? .ascii ⟨depth, false⟩ ('[' :: rest) =
      some ⟨some (.mark '['), ⟨depth + 1, false⟩, rest⟩ := rfl
  exact scanFrom?_of_lexeme read (Nat.le_refl _)

theorem scanFrom?_close (rest : List Char) :
    scanFrom? .ascii ⟨depth + 1, false⟩ (']' :: rest) =
      (scanFrom? .ascii ⟨depth, false⟩ rest).map (·.after [.mark ']']) := by
  have read : lexeme? .ascii ⟨depth + 1, false⟩ (']' :: rest) =
      some ⟨some (.mark ']'), ⟨depth, false⟩, rest⟩ := rfl
  exact scanFrom?_of_lexeme read (Nat.le_refl _)

/-! ## Constants -/

theorem scanFrom?_keyword (word : String) (constant : word ∈ ["None", "True", "False"])
    (delimited : Delimits rest) :
    scanFrom? .ascii ⟨depth, false⟩ (word.toList ++ rest) =
      (scanFrom? .ascii ⟨depth, false⟩ rest).map (·.after [.keyword word]) := by
  have read : ∃ first more, word.toList ++ rest = first :: more ∧ rest.length ≤ more.length ∧
      lexeme? .ascii ⟨depth, false⟩ (first :: more) =
        some ⟨some (.keyword word), ⟨depth, false⟩, rest⟩ := by
    simp only [List.mem_cons, List.not_mem_nil, or_false] at constant
    rcases constant with rfl | rfl | rfl
    · exact ⟨'N', 'o' :: 'n' :: 'e' :: rest, rfl, by simp; omega, by cases delimited <;> rfl⟩
    · exact ⟨'T', 'r' :: 'u' :: 'e' :: rest, rfl, by simp; omega, by cases delimited <;> rfl⟩
    · exact ⟨'F', 'a' :: 'l' :: 's' :: 'e' :: rest, rfl, by simp; omega,
        by cases delimited <;> rfl⟩
  obtain ⟨first, more, split, shorter, step⟩ := read
  rw [split]
  exact scanFrom?_of_lexeme step shorter

theorem scanFrom?_name (name : String) (unbounded : name ∈ ["inf", "nan"])
    (delimited : Delimits rest) :
    scanFrom? .ascii ⟨depth, false⟩ (name.toList ++ rest) =
      (scanFrom? .ascii ⟨depth, false⟩ rest).map (·.after [.name name]) := by
  have read : ∃ first more, name.toList ++ rest = first :: more ∧ rest.length ≤ more.length ∧
      lexeme? .ascii ⟨depth, false⟩ (first :: more) =
        some ⟨some (.name name), ⟨depth, false⟩, rest⟩ := by
    simp only [List.mem_cons, List.not_mem_nil, or_false] at unbounded
    rcases unbounded with rfl | rfl
    · exact ⟨'i', 'n' :: 'f' :: rest, rfl, by simp; omega, by cases delimited <;> rfl⟩
    · exact ⟨'n', 'a' :: 'n' :: rest, rfl, by simp; omega, by cases delimited <;> rfl⟩
  obtain ⟨first, more, split, shorter, step⟩ := read
  rw [split]
  exact scanFrom?_of_lexeme step shorter

/-! ## Whole numbers -/

theorem ne_of_isDigit {mark : Char} (digit : character.isDigit = true)
    (plain : mark.isDigit = false) : character ≠ mark := by
  rintro rfl
  rw [plain] at digit
  cases digit

theorem isDigit_digitChar {digit : Nat} (small : digit < 10) : digit.digitChar.isDigit = true := by
  simp [Nat.isDigit_digitChar, small]

/-- The digits of a number in front of what follows a value are read as the number. -/
theorem decimalNumeral?_toDigits (number : Nat) (delimited : Delimits rest) :
    Number.decimalNumeral? (Nat.toDigits 10 number ++ rest) =
      some ⟨number, 0, false, (Nat.toDigits 10 number).length, rest⟩ := by
  have run : Number.digitRun? 10 (Nat.toDigits 10 number ++ rest) =
      some ⟨number, (Nat.toDigits 10 number).length, rest⟩ := by
    cases delimited <;>
      exact Number.digitRun?_toDigits (by rintro head ⟨⟩; decide) number
  have unscaled : Number.exponent? rest = none := by cases delimited <;> rfl
  obtain ⟨digit, more, small, -, digits⟩ :=
    Number.exists_toDigits_eq_cons (by decide : 1 < 10) number
  have noPoint : digit.digitChar ≠ '.' := ne_of_isDigit (isDigit_digitChar small) rfl
  rw [Number.decimalNumeral?.eq_def]
  split
  case h_1 same =>
    rw [digits] at same
    exact absurd (List.cons.inj same).1 noPoint
  case h_2 =>
    rw [run]
    cases delimited <;> simp [Number.withExponent, unscaled]

theorem length_toDigits_of_isShort {number : Nat} (short : Numeral.isShort number = true) :
    (Nat.toDigits 10 number).length ≤ Numeral.mostDigits := by
  have bounded {most : Nat} (some : 0 < most) (small : number < Nat.pow 10 most) :
      (Nat.toDigits 10 number).length ≤ most :=
    (Nat.length_toDigits_le_iff (by decide) some).mpr small
  rw [Numeral.isShort, Int.natAbs_natCast, decide_eq_true_iff] at short
  delta Numeral.leastLong at short
  exact bounded (by decide) short

theorem decimalAt?_toDigits {number : Nat} (short : Numeral.isShort number = true)
    (delimited : Delimits rest) :
    Literal.decimalAt? (Nat.toDigits 10 number ++ rest) = some (.int number, rest) := by
  obtain ⟨digit, more, small, zero, digits⟩ :=
    Number.exists_toDigits_eq_cons (by decide : 1 < 10) number
  have fewDigits := length_toDigits_of_isShort short
  simp only [Literal.decimalAt?, decimalNumeral?_toDigits number delimited, Option.bind_some,
    Literal.decimalValue?, Bool.false_eq_true, if_false]
  split
  case isTrue isZero =>
    subst isZero
    rfl
  case isFalse positive =>
    have noZero : digit ≠ 0 := fun isZero => positive (zero isZero)
    rw [if_neg]
    · rfl
    · simp only [Bool.or_eq_true, decide_eq_true_eq, not_or]
      exact ⟨by simp [digits, noZero], Nat.not_lt.mpr fewDigits⟩

theorem literal_numberAt?_toDigits {number : Nat} (short : Numeral.isShort number = true)
    (delimited : Delimits rest) :
    Literal.numberAt? (Nat.toDigits 10 number ++ rest) = some (.int number, rest) := by
  have decimal := decimalAt?_toDigits short delimited
  rcases Nat.eq_zero_or_pos number with rfl | positive
  · rw [Nat.toDigits_zero] at decimal ⊢
    cases delimited <;> exact decimal
  · obtain ⟨digit, more, small, zero, digits⟩ :=
      Number.exists_toDigits_eq_cons (by decide : 1 < 10) number
    have noZero : digit.digitChar ≠ '0' := by
      simp only [ne_eq, Nat.digitChar_eq_zero]
      exact fun isZero => absurd (zero isZero) (by omega)
    rw [digits, List.cons_append] at decimal ⊢
    rw [Literal.numberAt?.eq_def]
    split
    case h_1 same => exact absurd (List.cons.inj same).1 noZero
    case h_2 => exact decimal

theorem lexeme?_of_isDigit (digit : character.isDigit = true) (more : List Char) :
    lexeme? .ascii ⟨depth, false⟩ (character :: more) =
      (numberAt? (character :: more)).map fun (token, rest) =>
        ⟨some token, ⟨depth, false⟩, rest⟩ := by
  have other {mark : Char} (plain : mark.isDigit = false) : character ≠ mark :=
    ne_of_isDigit digit plain
  change lexemeInLine? .ascii depth (character :: more) = _
  rw [lexemeInLine?.eq_def]
  split
  case h_1 same => cases same
  case h_2 same => exact absurd (List.cons.inj same).1 (other rfl)
  case h_3 same => exact absurd (List.cons.inj same).1 (other rfl)
  case h_4 same => exact absurd (List.cons.inj same).1 (other rfl)
  case h_5 same =>
    obtain ⟨rfl, rfl⟩ := List.cons.inj same
    simp [other (by decide : ' '.isDigit = false), other (by decide : '\t'.isDigit = false),
      other (by decide : '\x0c'.isDigit = false), other (by decide : '\''.isDigit = false),
      other (by decide : '"'.isDigit = false), digit]

theorem scanFrom?_number {number : Nat} (short : Numeral.isShort number = true)
    (delimited : Delimits rest) :
    scanFrom? .ascii ⟨depth, false⟩ (Nat.toDigits 10 number ++ rest) =
      (scanFrom? .ascii ⟨depth, false⟩ rest).map (·.after [.constant (.int number)]) := by
  have value := literal_numberAt?_toDigits short delimited
  obtain ⟨digit, more, small, -, digits⟩ :=
    Number.exists_toDigits_eq_cons (by decide : 1 < 10) number
  rw [digits, List.cons_append] at value ⊢
  have ended : rest.head?.any isWordPart = false := by cases delimited <;> rfl
  have read : lexeme? .ascii ⟨depth, false⟩ (digit.digitChar :: (more ++ rest)) =
      some ⟨some (.constant (.int number)), ⟨depth, false⟩, rest⟩ := by
    rw [lexeme?_of_isDigit (isDigit_digitChar small)]
    simp [numberAt?, value, ended]
  exact scanFrom?_of_lexeme read (by simp)

theorem scanFrom?_minus {next : Char} (apart : next ≠ '=') (rest : List Char) :
    scanFrom? .ascii ⟨depth, false⟩ ('-' :: next :: rest) =
      (scanFrom? .ascii ⟨depth, false⟩ (next :: rest)).map (·.after [.mark '-']) := by
  have read : lexeme? .ascii ⟨depth, false⟩ ('-' :: next :: rest) =
      some ⟨some (.mark '-'), ⟨depth, false⟩, next :: rest⟩ := by
    change (if (next :: rest).head? = some '=' then none else some _) = _
    simp [apart]
  exact scanFrom?_of_lexeme read (Nat.le_refl _)

theorem scanFrom?_decimal {whole : Int} (short : Numeral.isShort whole = true)
    (delimited : Delimits rest) :
    scanFrom? .ascii ⟨depth, false⟩ ((Numeral.decimal whole).toList ++ rest) =
      (scanFrom? .ascii ⟨depth, false⟩ rest).map (·.after (Value.int whole).tokens) := by
  have shortAbs : Numeral.isShort (whole.natAbs : Int) = true := by
    rwa [Numeral.isShort, Int.natAbs_natCast]
  have number := @scanFrom?_number depth rest whole.natAbs shortAbs delimited
  simp only [Numeral.decimal, Numeral.inBase, Value.tokens]
  split
  case isTrue negative =>
    obtain ⟨digit, more, small, -, digits⟩ :=
      Number.exists_toDigits_eq_cons (by decide : 1 < 10) whole.natAbs
    have apart : digit.digitChar ≠ '=' := ne_of_isDigit (isDigit_digitChar small) rfl
    have written : ("-" ++ Numeral.digits 10 whole.natAbs).toList =
        '-' :: Nat.toDigits 10 whole.natAbs := by simp [Numeral.digits]
    rw [written, digits, List.cons_append, List.cons_append, scanFrom?_minus apart,
      ← List.cons_append, ← digits, number, Scan.map_after_after]
    rfl
  case isFalse =>
    rw [Numeral.digits, String.toList_ofList, number]

/-! ## Numbers with a point or an exponent -/

theorem Delimits.endsNumeral (delimited : Delimits rest) : Number.EndsNumeral rest := by
  cases delimited <;> exact ⟨by rintro head ⟨⟩; decide, by rintro head ⟨⟩; decide⟩

/-- No mark of a base stands behind the zero that a numeral with a point begins with. -/
theorem baseOf?_eq_none_of_pointed {letter : Char} {numeral : Number.DecimalNumeral}
    (read : Number.decimalNumeral? ('0' :: letter :: more) = some numeral)
    (pointed : numeral.pointed = true) : Literal.baseOf? letter = none := by
  have whole {mark : Char} (unpointed : Number.decimalNumeral? ('0' :: mark :: more) =
      some ⟨0, 0, false, 1, mark :: more⟩) (same : letter = mark) : False := by
    rw [same, unpointed] at read
    cases read
    cases pointed
  rw [Literal.baseOf?.eq_def]
  split
  case h_1 | h_2 | h_3 | h_4 | h_5 | h_6 => exact (whole rfl rfl).elim
  case h_7 => rfl

theorem literal_numberAt?_of_displays {characters : List Char} {number : Binary64}
    (displays : Binary64.Displays characters number) (ends : Number.EndsNumeral rest) :
    Literal.numberAt? (characters ++ rest) = some (.float number, rest) := by
  obtain ⟨numeral, spells, value⟩ := displays
  have read := spells.reads rest ends
  have decimal : Literal.decimalAt? (characters ++ rest) = some (.float number, rest) := by
    simp [Literal.decimalAt?, read, Literal.decimalValue?, spells.pointed, value]
  rw [Literal.numberAt?.eq_def]
  split
  case h_1 letter more written =>
    rw [written] at read
    rw [baseOf?_eq_none_of_pointed read spells.pointed]
    exact decimal
  case h_2 => exact decimal

theorem scanFrom?_of_displays {characters : List Char} {number : Binary64}
    (displays : Binary64.Displays characters number) (delimited : Delimits rest) :
    scanFrom? .ascii ⟨depth, false⟩ (characters ++ rest) =
      (scanFrom? .ascii ⟨depth, false⟩ rest).map (·.after [.constant (.float number)]) := by
  have value := literal_numberAt?_of_displays displays delimited.endsNumeral
  obtain ⟨numeral, spells, -⟩ := displays
  obtain ⟨first, more, rfl, isDigit⟩ := spells.starts
  have ended : rest.head?.any isWordPart = false := by cases delimited <;> rfl
  have read : lexeme? .ascii ⟨depth, false⟩ (first :: (more ++ rest)) =
      some ⟨some (.constant (.float number)), ⟨depth, false⟩, rest⟩ := by
    rw [List.cons_append] at value
    rw [lexeme?_of_isDigit isDigit]
    simp [numberAt?, value, ended]
  exact scanFrom?_of_lexeme read (by simp)

theorem scanFrom?_float (number : Binary64) (delimited : Delimits rest) :
    scanFrom? .ascii ⟨depth, false⟩ (number.text.toList ++ rest) =
      (scanFrom? .ascii ⟨depth, false⟩ rest).map (·.after (Value.float number).tokens) := by
  match number with
  | .nan => exact scanFrom?_name "nan" (by simp) delimited
  | .infinite false => exact scanFrom?_name "inf" (by simp) delimited
  | .infinite true =>
      have name := @scanFrom?_name depth rest "inf" (by simp) delimited
      have minus := @scanFrom?_minus depth 'i' (by decide) ('n' :: 'f' :: rest)
      change scanFrom? .ascii _ ('-' :: 'i' :: 'n' :: 'f' :: rest) = _
      change scanFrom? .ascii _ ('i' :: 'n' :: 'f' :: rest) = _ at name
      rw [minus, name, Scan.map_after_after]
      rfl
  | .finite negative significand exponent canonical =>
      obtain ⟨characters, written, displays⟩ := Binary64.exists_displays_text negative canonical
      have size := @scanFrom?_of_displays depth rest _ _ displays delimited
      rw [written, Value.tokens, Value.hasMinus]
      cases negative with
      | false => exact size
      | true =>
          obtain ⟨numeral, spells, -⟩ := displays
          obtain ⟨first, more, rfl, isDigit⟩ := spells.starts
          change scanFrom? .ascii _ ('-' :: first :: (more ++ rest)) = _
          rw [List.cons_append] at size
          rw [scanFrom?_minus (ne_of_isDigit isDigit rfl), size, Scan.map_after_after]
          rfl

/-! ## Texts -/

theorem scanFrom?_quotedPoints {points : List Nat}
    (inRange : ∀ point ∈ points, point ≤ 0x10ffff) (delimited : Delimits rest) :
    scanFrom? .ascii ⟨depth, false⟩ ((Text.quotedPoints points).toList ++ rest) =
      (scanFrom? .ascii ⟨depth, false⟩ rest).map (·.after [.text points]) := by
  have apart : rest.head? ≠ some '\'' ∧ rest.head? ≠ some '"' := by
    cases delimited <;> exact ⟨by simp, by simp⟩
  have text := @Literal.textAt?_quotedPoints .ascii rest points inRange apart
  obtain ⟨quote, chosen⟩ : ∃ quote, Text.quoteFor (points.map Text.characterOf) = quote :=
    ⟨_, rfl⟩
  have delimits : quote = '\'' ∨ quote = '"' := chosen ▸ Text.quoteFor_eq _
  simp only [Text.quotedPoints, chosen, String.toList_ofList, List.cons_append,
    List.append_assoc] at text ⊢
  have read (body : List Char)
      (given : Literal.textAt? .ascii false (quote :: body) = some (points, rest)) :
      lexeme? .ascii ⟨depth, false⟩ (quote :: body) =
        some ⟨some (.text points), ⟨depth, false⟩, rest⟩ := by
    have step : lexeme? .ascii ⟨depth, false⟩ (quote :: body) =
        (quotedAt? .ascii [] (quote :: body)).map fun (token, rest) =>
          ⟨some token, ⟨depth, false⟩, rest⟩ := by
      rcases delimits with rfl | rfl <;> rfl
    rw [step]
    simp [quotedAt?, given]
  exact scanFrom?_of_lexeme (read _ text) (by simp; omega)

/-! ## Values -/

theorem scanFrom?_itemsSpelling {items : List Value}
    (each : ∀ item ∈ items, ∀ {rest : List Char}, Delimits rest →
      scanFrom? .ascii ⟨depth + 1, false⟩ (item.spelling ++ rest) =
        (scanFrom? .ascii ⟨depth + 1, false⟩ rest).map (·.after item.tokens))
    (rest : List Char) :
    scanFrom? .ascii ⟨depth + 1, false⟩ (Value.itemsSpelling items ++ ']' :: rest) =
      (scanFrom? .ascii ⟨depth, false⟩ rest).map
        (·.after (Value.itemsTokens items ++ [.mark ']'])) := by
  induction items with
  | nil => exact scanFrom?_close rest
  | cons item more ih =>
      obtain ⟨first, others⟩ := List.forall_mem_cons.mp each
      simp only [Value.itemsSpelling, Value.itemsTokens, List.append_assoc, List.cons_append,
        first .comma, scanFrom?_comma, scanFrom?_space, ih others, Scan.map_after_after,
        List.nil_append]

theorem scanFrom?_spelling {value : Value} (spelled : value.IsSpelled)
    (delimited : Delimits rest) :
    scanFrom? .ascii ⟨depth, false⟩ (value.spelling ++ rest) =
      (scanFrom? .ascii ⟨depth, false⟩ rest).map (·.after value.tokens) := by
  induction spelled generalizing depth rest with
  | null => exact scanFrom?_keyword "None" (by simp) delimited
  | bool truth =>
      cases truth with
      | true => exact scanFrom?_keyword "True" (by simp) delimited
      | false => exact scanFrom?_keyword "False" (by simp) delimited
  | int short => exact scanFrom?_decimal short delimited
  | float number => exact scanFrom?_float number delimited
  | text characters =>
      have inRange : ∀ point ∈ Text.pointsOf characters, point ≤ 0x10ffff :=
        fun point member => Text.le_of_mem_pointsOf member
      have read := @scanFrom?_quotedPoints depth rest _ inRange delimited
      rwa [Text.quotedPoints_pointsOf] at read
  | rawText raw => exact scanFrom?_quotedPoints raw.inRange delimited
  | list spelled ih | tuple spelled ih =>
      have items := @scanFrom?_itemsSpelling depth _ (fun item member _ => ih item member) rest
      simp only [Value.spelling, Value.tokens, List.cons_append, List.append_assoc,
        List.nil_append, scanFrom?_open, items, Scan.map_after_after]

/-! ## Open brackets -/

theorem le_deepest (depth : Nat) (tokens : List Token) : depth ≤ deepest depth tokens := by
  cases tokens with
  | nil => exact Nat.le_refl _
  | cons token rest => exact Nat.le_max_left _ _

theorem deepest_cons_of_depthBehind {token : Token} (level : token.depthBehind depth = depth)
    (rest : List Token) : deepest depth (token :: rest) = deepest depth rest := by
  rw [deepest, level, Nat.max_eq_right (le_deepest depth rest)]

/-- In the items of a list as many more brackets are open as the deepest of them is nested. -/
theorem deepest_itemsTokens {items : List Value}
    (each : ∀ item ∈ items, ∀ rest,
      deepest (depth + 1) (item.tokens ++ rest) =
        max (depth + 1 + item.nesting) (deepest (depth + 1) rest))
    (rest : List Token) :
    deepest (depth + 1) (Value.itemsTokens items ++ .mark ']' :: rest) =
      max (depth + 1 + Value.itemsNesting items) (deepest depth rest) := by
  induction items with
  | nil => rfl
  | cons item more ih =>
      obtain ⟨first, others⟩ := List.forall_mem_cons.mp each
      rw [Value.itemsTokens, List.append_assoc, first, List.cons_append,
        deepest_cons_of_depthBehind rfl, ih others, Value.itemsNesting]
      omega

theorem deepest_tokens {value : Value} (spelled : value.IsSpelled) (rest : List Token) :
    deepest depth (value.tokens ++ rest) = max (depth + value.nesting) (deepest depth rest) := by
  have level := le_deepest depth rest
  induction spelled generalizing depth rest with
  | null | bool truth | text characters | rawText raw =>
      exact (deepest_cons_of_depthBehind rfl rest).trans (Nat.max_eq_right level).symm
  | @int whole short =>
      have number : deepest depth (.constant (.int whole.natAbs) :: rest) = deepest depth rest :=
        deepest_cons_of_depthBehind rfl rest
      simp only [Value.tokens, Value.nesting, Nat.add_zero, Nat.max_eq_right level]
      split
      · exact (deepest_cons_of_depthBehind rfl _).trans number
      · exact number
  | float number =>
      have size : deepest depth (Value.sizeToken number :: rest) = deepest depth rest :=
        deepest_cons_of_depthBehind (by cases number <;> rfl) rest
      simp only [Value.tokens, Value.nesting, Nat.add_zero, Nat.max_eq_right level]
      split
      · exact (deepest_cons_of_depthBehind rfl _).trans size
      · exact size
  | list spelled ih | tuple spelled ih =>
      have items := deepest_itemsTokens (fun item member rest => ih item member rest
        (le_deepest (depth + 1) rest)) rest
      simp only [Value.tokens, Value.nesting, List.cons_append, List.append_assoc,
        List.nil_append, deepest, depthBehind, items]
      omega

end Token
end DebugIndex
