import DebugIndex.Proofs.Number.Digits
import DebugIndex.Proofs.Number.Exactness

/-!
# Numbers that are read back

However a decimal is laid out, a reader finds a point or an exponent in it and puts the same
digits together again, up to a zero behind the point.  The shortest decimal has been chosen because
it reads back; where there is none, the exact decimal stands for the number itself.  So the text of
a finite number is read as its size, whatever ends a numeral behind it.
-/

namespace DebugIndex
namespace Number

variable {rest : List Char}

/-- Whether a numeral ends in front of characters. -/
structure EndsNumeral (rest : List Char) : Prop where
  run : EndsRun rest
  letter : ∀ head ∈ rest.head?, head ≠ 'e' ∧ head ≠ 'E'

theorem endsNumeral_nil : EndsNumeral [] := ⟨nofun, nofun⟩

/-! ## Points and exponents -/

theorem withExponent_of_endsNumeral {numeral : DecimalNumeral} (ends : EndsNumeral numeral.rest) :
    withExponent numeral = numeral := by
  have unscaled : exponent? numeral.rest = none := by
    cases behind : numeral.rest with
    | nil => rfl
    | cons head more =>
        obtain ⟨small, capital⟩ := ends.letter head (by rw [behind]; rfl)
        simp [exponent?, small, capital]
  rw [withExponent, unscaled]

theorem exponent?_exponentText (exponent : Int) (ends : EndsRun rest) :
    exponent? ('e' :: (Binary64.exponentText exponent ++ rest)) = some (exponent, rest) := by
  have run : digitRun? 10
      (List.replicate (2 - (Nat.toDigits 10 exponent.natAbs).length) '0' ++
        Nat.toDigits 10 exponent.natAbs ++ rest) =
      some ⟨exponent.natAbs, (List.replicate (2 - (Nat.toDigits 10 exponent.natAbs).length) '0' ++
        Nat.toDigits 10 exponent.natAbs).length, rest⟩ := by
    rw [digitRun?_digits (by simp) ?_ ends, Nat.ofDigitChars_append,
      Nat.ofDigitChars_replicate_zero, Nat.mul_zero, Nat.ofDigitChars_ten_toDigits]
    intro digit member
    rcases List.mem_append.mp member with zero | shown
    · rw [List.eq_of_mem_replicate zero]
      rfl
    · exact isDigit_of_mem_toDigits digit shown
  have minus (more : List Char) : exponent? ('e' :: '-' :: more) =
      (digitRun? 10 more).map fun run => (-(run.value : Int), run.rest) := rfl
  have plus (more : List Char) : exponent? ('e' :: '+' :: more) =
      (digitRun? 10 more).map fun run => ((run.value : Int), run.rest) := rfl
  simp only [Binary64.exponentText, List.cons_append]
  split
  case isTrue negative =>
    rw [minus, run, Option.map_some, Option.some.injEq, Prod.mk.injEq]
    exact ⟨by simp only; omega, rfl⟩
  case isFalse positive =>
    rw [plus, run, Option.map_some, Option.some.injEq, Prod.mk.injEq]
    exact ⟨by simp only; omega, rfl⟩

theorem decimalNumeral?_pointed {whole fraction behind : List Char} (someWhole : whole ≠ [])
    (someFraction : fraction ≠ []) (digits : ∀ digit ∈ whole ++ fraction, digit.isDigit = true)
    (ends : EndsRun behind) :
    decimalNumeral? (whole ++ '.' :: (fraction ++ behind)) =
      some (withExponent ⟨Nat.ofDigitChars 10 (whole ++ fraction) 0, -(fraction.length : Int), true,
        whole.length, behind⟩) := by
  obtain ⟨inWhole, inFraction⟩ := List.forall_mem_append.mp digits
  have point : EndsRun ('.' :: (fraction ++ behind)) := by
    rintro head ⟨⟩
    decide
  rw [decimalNumeral?.eq_def]
  split
  case h_1 same =>
    obtain ⟨digit, more, rfl⟩ := List.exists_cons_of_ne_nil someWhole
    have isPoint : digit = '.' := (List.cons.inj same).1
    have isDigit := inWhole digit List.mem_cons_self
    rw [isPoint] at isDigit
    cases isDigit
  case h_2 =>
    rw [digitRun?_digits someWhole inWhole point]
    simp only [Option.map_some, withFraction, digitRun?_digits someFraction inFraction ends]
    rw [Nat.ofDigitChars_append,
      @Nat.ofDigitChars_eq_ofDigitChars_zero fraction (Nat.ofDigitChars 10 whole 0), Nat.mul_comm]
    rfl

theorem decimalNumeral?_scientific {digit : Char} (isDigit : digit.isDigit = true) (exponent : Int)
    (ends : EndsRun rest) :
    decimalNumeral? (digit :: 'e' :: (Binary64.exponentText exponent ++ rest)) =
      some ⟨Nat.ofDigitChars 10 [digit] 0, exponent, true, 1, rest⟩ := by
  have letter : EndsRun ('e' :: (Binary64.exponentText exponent ++ rest)) := by
    rintro head ⟨⟩
    decide
  have run := digitRun?_digits (List.cons_ne_nil digit [])
    (List.forall_mem_singleton.mpr isDigit) letter
  rw [decimalNumeral?.eq_def]
  split
  case h_1 same =>
    rw [(List.cons.inj same).1] at isDigit
    cases isDigit
  case h_2 =>
    rw [List.singleton_append] at run
    simp [run, withExponent, exponent?_exponentText exponent ends]

end Number

namespace Binary64

open Number

/-! ## Layouts -/

/-- Whether characters that begin with a digit, none of them a control character, are read as a
numeral with a point or an exponent in it, whatever ends the numeral behind them. -/
structure Spells (characters : List Char) (numeral : DecimalNumeral) : Prop where
  starts : ∃ first more, characters = first :: more ∧ first.isDigit = true
  visible : ∀ character ∈ characters, 0x20 ≤ character.toNat
  pointed : numeral.pointed = true
  reads : ∀ rest, EndsNumeral rest →
    decimalNumeral? (characters ++ rest) = some { numeral with rest := rest }

variable {digits number : Nat} {exponent : Int}

theorem isDigit_of_mem_replicate {count : Nat} :
    ∀ digit ∈ List.replicate count '0', digit.isDigit = true := by
  intro digit member
  rw [List.eq_of_mem_replicate member]
  rfl

theorem visible_of_isDigit {character : Char} (isDigit : character.isDigit = true) :
    0x20 ≤ character.toNat :=
  Nat.le_trans (by decide) (Char.isDigit_iff_toNat.mp isDigit).1

theorem visible_of_mem_exponentText {character : Char}
    (member : character ∈ exponentText exponent) : 0x20 ≤ character.toNat := by
  simp only [exponentText, List.mem_append, List.mem_cons] at member
  rcases member with (rfl | zero) | shown
  · split <;> decide
  · exact visible_of_isDigit (isDigit_of_mem_replicate _ zero)
  · exact visible_of_isDigit (isDigit_of_mem_toDigits _ shown)

/-- Digits on both sides of a point spell their number, one place less for every digit behind the
point. -/
theorem spells_pointed {whole fraction : List Char} (someWhole : whole ≠ [])
    (someFraction : fraction ≠ []) (all : ∀ digit ∈ whole ++ fraction, digit.isDigit = true)
    (value : Nat.ofDigitChars 10 (whole ++ fraction) 0 = number) :
    Spells (whole ++ '.' :: fraction)
      ⟨number, -(fraction.length : Int), true, whole.length, []⟩ := by
  refine ⟨?_, fun character member => ?_, rfl, fun rest ends => ?_⟩
  · obtain ⟨first, more, rfl⟩ := List.exists_cons_of_ne_nil someWhole
    exact ⟨first, _, rfl, all first List.mem_cons_self⟩
  · rcases List.mem_append.mp member with inWhole | behind
    · exact visible_of_isDigit (all character (List.mem_append_left _ inWhole))
    · rcases List.mem_cons.mp behind with rfl | inFraction
      · decide
      · exact visible_of_isDigit (all character (List.mem_append_right _ inFraction))
  · rw [List.append_assoc, List.cons_append,
      decimalNumeral?_pointed someWhole someFraction all ends.run,
      withExponent_of_endsNumeral ends, value]

theorem spells_single {digit : Char} (isDigit : digit.isDigit = true)
    (value : Nat.ofDigitChars 10 [digit] 0 = number) (exponent : Int) :
    Spells (digit :: 'e' :: exponentText exponent) ⟨number, exponent, true, 1, []⟩ := by
  refine ⟨⟨digit, _, rfl, isDigit⟩, fun character member => ?_, rfl, fun rest ends => ?_⟩
  · simp only [List.mem_cons] at member
    rcases member with rfl | rfl | inExponent
    · exact visible_of_isDigit isDigit
    · decide
    · exact visible_of_mem_exponentText inExponent
  · rw [List.cons_append, List.cons_append, decimalNumeral?_scientific isDigit exponent ends.run,
      value]

/-- A digit in front of the point and others behind it, with an exponent, spell their number, one
place less for every digit behind the point. -/
theorem spells_scientific {first next : Char} {more : List Char}
    (all : ∀ digit ∈ first :: next :: more, digit.isDigit = true)
    (value : Nat.ofDigitChars 10 (first :: next :: more) 0 = number) (exponent : Int) :
    Spells (first :: '.' :: (next :: more) ++ 'e' :: exponentText exponent)
      ⟨number, exponent - ((next :: more).length : Int), true, 1, []⟩ := by
  refine ⟨⟨first, _, rfl, all first List.mem_cons_self⟩, fun character member => ?_, rfl,
    fun rest ends => ?_⟩
  · simp only [List.mem_append, List.mem_cons] at member
    rcases member with (rfl | rfl | inFraction) | rfl | inExponent
    · exact visible_of_isDigit (all _ List.mem_cons_self)
    · decide
    · exact visible_of_isDigit (all _ (List.mem_cons_of_mem _ (List.mem_cons.mpr inFraction)))
    · decide
    · exact visible_of_mem_exponentText inExponent
  · have behind : EndsRun ('e' :: (exponentText exponent ++ rest)) := by
      rintro head ⟨⟩
      decide
    have read := @decimalNumeral?_pointed [first] (next :: more)
      ('e' :: (exponentText exponent ++ rest)) (by simp) (by simp) all behind
    simp only [List.singleton_append, withExponent, exponent?_exponentText _ ends.run,
      value] at read
    simp only [List.cons_append, List.append_assoc] at read ⊢
    rw [read, Int.sub_eq_add_neg, Int.add_comm]
    rfl

def SpellsDecimal (characters : List Char) (digits : Nat) (exponent : Int) : Prop :=
  ∃ numeral, Spells characters numeral ∧
    (numeral.digits : ℚ) * 10 ^ numeral.exponent = digits * 10 ^ exponent

section Decimals

variable {shown : List Char} {digits : Nat}

theorem spellsDecimal_small (someShown : shown ≠ [])
    (all : ∀ digit ∈ shown, digit.isDigit = true) (value : Nat.ofDigitChars 10 shown 0 = digits)
    (zeros : Nat) (places : exponent = -(zeros + shown.length : Int)) :
    SpellsDecimal ('0' :: '.' :: List.replicate zeros '0' ++ shown) digits exponent := by
  refine ⟨_, @spells_pointed digits ['0'] (List.replicate zeros '0' ++ shown) (by simp)
    (List.append_ne_nil_of_right_ne_nil _ someShown) ?_ ?_, ?_⟩
  · exact List.forall_mem_append.mpr
      ⟨by simp, List.forall_mem_append.mpr ⟨isDigit_of_mem_replicate, all⟩⟩
  · rw [Nat.ofDigitChars_append, Nat.ofDigitChars_append, Nat.ofDigitChars_replicate_zero]
    exact value
  · rw [places, List.length_append, List.length_replicate, Nat.cast_add]

theorem spellsDecimal_whole (someShown : shown ≠ [])
    (all : ∀ digit ∈ shown, digit.isDigit = true) (value : Nat.ofDigitChars 10 shown 0 = digits)
    (power : Nat) :
    SpellsDecimal (shown ++ List.replicate power '0' ++ ['.', '0']) digits power := by
  refine ⟨_, @spells_pointed (10 * (10 ^ power * digits)) _ ['0']
    (List.append_ne_nil_of_left_ne_nil someShown _) (by simp) ?_ ?_, ?_⟩
  · exact List.forall_mem_append.mpr
      ⟨List.forall_mem_append.mpr ⟨all, isDigit_of_mem_replicate⟩, by simp⟩
  · rw [Nat.ofDigitChars_append, Nat.ofDigitChars_append, value, Nat.ofDigitChars_replicate_zero]
    rfl
  · simp only [List.length_singleton, Nat.cast_mul, Nat.cast_pow, Nat.cast_ofNat, Nat.cast_one,
      zpow_natCast, zpow_neg_one]
    field_simp

theorem spellsDecimal_fractional (all : ∀ digit ∈ shown, digit.isDigit = true)
    (value : Nat.ofDigitChars 10 shown 0 = digits) {count : Nat} (begun : 0 < count)
    (inside : count < shown.length) (places : exponent = count - shown.length) :
    SpellsDecimal (shown.take count ++ '.' :: shown.drop count) digits exponent := by
  refine ⟨_, @spells_pointed digits (shown.take count) (shown.drop count) ?_ ?_ ?_ ?_, ?_⟩
  · exact List.length_pos_iff.mp (by rw [List.length_take]; omega)
  · exact List.length_pos_iff.mp (by rw [List.length_drop]; omega)
  · rwa [List.take_append_drop]
  · rwa [List.take_append_drop]
  · have behind : -((shown.drop count).length : Int) = exponent := by
      rw [List.length_drop]
      omega
    rw [behind]

end Decimals

theorem spellsDecimal_layout (digits : Nat) (exponent : Int) :
    SpellsDecimal (layout digits exponent) digits exponent := by
  have all := @isDigit_of_mem_toDigits digits
  have value : Nat.ofDigitChars 10 (Nat.toDigits 10 digits) 0 = digits :=
    Nat.ofDigitChars_ten_toDigits
  have someShown : Nat.toDigits 10 digits ≠ [] :=
    List.length_pos_iff.mp Nat.length_toDigits_pos
  simp only [layout]
  generalize Nat.toDigits 10 digits = shown at *
  have length_pos := List.length_pos_iff.mpr someShown
  split
  case isTrue =>
    split
    case isTrue small => exact spellsDecimal_small someShown all value _ (by omega)
    case isFalse large =>
      split
      case isTrue whole =>
        obtain ⟨power, rfl⟩ := Int.eq_ofNat_of_zero_le whole
        exact spellsDecimal_whole someShown all value power
      case isFalse fractional =>
        exact spellsDecimal_fractional all value (Nat.succ_pos _) (by omega) (by omega)
  case isFalse =>
    match shown with
    | [] => exact absurd rfl someShown
    | [first] =>
        have leading : exponent + ([first].length : Int) - 1 = exponent := by simp
        refine ⟨⟨digits, exponent, true, 1, []⟩, ?_, rfl⟩
        simp only [leading]
        exact spells_single (all first List.mem_cons_self) value exponent
    | first :: next :: more =>
        refine ⟨_, spells_scientific all value _, ?_⟩
        have places : exponent + ((first :: next :: more).length : Int) - 1 -
            ((next :: more).length : Int) = exponent := by
          simp only [List.length_cons]
          omega
        rw [places]

/-! ## Texts -/

/-- Whether characters spell a number, whatever ends it behind them. -/
def Displays (characters : List Char) (number : Binary64) : Prop :=
  ∃ numeral, Spells characters numeral ∧ ofDecimal false numeral.digits numeral.exponent = number

theorem displays_of_readsBack {negative : Bool} {significand : Nat}
    {canonical : CanonicalSignificand significand exponent} {tens : Int}
    (back : readsBack (.finite negative significand exponent canonical) digits tens = true) :
    Displays (layout digits tens) (.finite negative significand exponent canonical) := by
  obtain ⟨numeral, spells, -⟩ := spellsDecimal_layout digits tens
  obtain ⟨first, more, written, isDigit⟩ := spells.starts
  have read := spells.reads [] endsNumeral_nil
  rw [List.append_nil] at read
  have unsigned : ofUnsigned? false (layout digits tens) =
      some (.finite negative significand exponent canonical) := by
    rw [readsBack, decide_eq_true_iff, ofText?.eq_def] at back
    split at back
    case h_1 same =>
      rw [written] at same
      rw [(List.cons.inj same).1] at isDigit
      cases isDigit
    case h_2 same =>
      rw [written] at same
      rw [(List.cons.inj same).1] at isDigit
      cases isDigit
    case h_3 => exact back
  rw [ofUnsigned?] at unsigned
  split at unsigned
  case h_1 => cases unsigned
  case h_2 => cases unsigned
  case h_3 => cases unsigned
  case h_4 =>
    rw [read] at unsigned
    exact ⟨numeral, spells, Option.some.inj unsigned⟩

theorem readsBack_of_nearest? {number : Binary64} {numerator denominator count : Nat}
    {decimal : Nat × Int} (nearest : nearest? number numerator denominator count = some decimal) :
    readsBack number decimal.1 decimal.2 = true := by
  simp only [nearest?] at nearest
  exact (List.find?_eq_some_iff_append.mp nearest).1

theorem displays_shortest {significand : Nat} (positive : 0 < significand)
    (canonical : CanonicalSignificand significand exponent) :
    Displays
      (layout (shortest (.finite false significand exponent canonical) significand exponent).1
        (shortest (.finite false significand exponent canonical) significand exponent).2)
      (.finite false significand exponent canonical) := by
  simp only [shortest]
  cases found : (List.range 17).findSome? fun index =>
      nearest? (.finite false significand exponent canonical) (ratio significand exponent).1
        (ratio significand exponent).2 (index + 1) with
  | some decimal =>
      obtain ⟨index, -, nearest⟩ := List.exists_of_findSome?_eq_some found
      exact displays_of_readsBack (readsBack_of_nearest? nearest)
  | none =>
      obtain ⟨numeral, spells, worth⟩ := spellsDecimal_layout
        (exactDecimal significand exponent).1 (exactDecimal significand exponent).2
      rw [exactDecimal_worth] at worth
      exact ⟨numeral, spells, ofDecimal_of_exact false canonical positive worth⟩

/-- The text of a finite number is its sign in front of characters that display its size. -/
theorem exists_displays_text (negative : Bool) {significand : Nat}
    (canonical : CanonicalSignificand significand exponent) :
    ∃ characters,
      (text (.finite negative significand exponent canonical)).toList =
        (if negative then ['-'] else []) ++ characters ∧
      Displays characters (.finite false significand exponent canonical) := by
  have sign : (if negative then "-" else "").toList = if negative then ['-'] else [] := by
    cases negative <;> rfl
  rcases Nat.eq_zero_or_pos significand with rfl | positive
  · obtain rfl : exponent = -1074 := canonical.2.2.2.resolve_left (by decide)
    have spells := @spells_pointed 0 ['0'] ['0'] (by simp) (by simp) (by simp) rfl
    exact ⟨['0', '.', '0'], by simp [text, sign], _, spells, rfl⟩
  · exact ⟨_, by simp [text, sign, positive.ne'], displays_shortest positive canonical⟩

end Binary64
end DebugIndex
