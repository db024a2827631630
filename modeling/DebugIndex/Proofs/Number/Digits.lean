import DebugIndex.Number.Reading
import Mathlib.Algebra.Group.Nat.Defs

/-!
# Digits that are read back

A natural number is written by the digits of its quotient followed by its last digit.  A
reader that multiplies what it has by the base and adds the next digit is at the quotient
when it comes to the last digit, and so ends with the number.
-/

namespace DebugIndex
namespace Number

variable {base digit value count : Nat} {rest : List Char}

theorem digitInBase?_digitChar (small : digit < base) (most : base ≤ 16) :
    digitInBase? base digit.digitChar = some digit := by
  have sixteen : ∀ digit < 16, digitInBase? 16 digit.digitChar = some digit := by decide
  have given := sixteen digit (by omega)
  simp only [digitInBase?, Option.filter_eq_some_iff] at given ⊢
  exact ⟨given.1, by simpa using small⟩

theorem foldlM_toDigits (least : 1 < base) (most : base ≤ 16) (number : Nat) :
    (Nat.toDigits base number).foldlM
        (fun value character => (digitInBase? base character).map fun digit => value * base + digit)
        0 = some number := by
  induction number using Nat.strongRecOn with
  | _ number ih =>
      rcases Nat.lt_or_ge number base with small | large
      · simp [Nat.toDigits_of_lt_base small, digitInBase?_digitChar small most]
      · have last : number % base < base := Nat.mod_lt _ (by omega)
        have quotient : number / base < number := Nat.div_lt_self (by omega) least
        simp [Nat.toDigits_of_base_le least large, ih _ quotient,
          digitInBase?_digitChar last most, Nat.div_add_mod']

theorem exists_of_mem_toDigits (least : 1 < base) {number : Nat} {character : Char}
    (member : character ∈ Nat.toDigits base number) :
    ∃ digit < base, character = digit.digitChar := by
  induction number using Nat.strongRecOn with
  | _ number ih =>
      rcases Nat.lt_or_ge number base with small | large
      · rw [Nat.toDigits_of_lt_base small, List.mem_singleton] at member
        exact ⟨number, small, member⟩
      · have quotient : number / base < number := Nat.div_lt_self (by omega) least
        rw [Nat.toDigits_of_base_le least large, List.mem_append, List.mem_singleton] at member
        rcases member with front | last
        · exact ih _ quotient front
        · exact ⟨number % base, Nat.mod_lt _ (by omega), last⟩

/-! ## Base sixteen -/

theorem hexNumber?_zeros (zeros : Nat) (digits : List Char) :
    hexNumber? (List.replicate zeros '0' ++ digits) = hexNumber? digits := by
  induction zeros with
  | zero => rfl
  | succ zeros ih => exact ih

theorem hexNumber?_toDigits (zeros number : Nat) :
    hexNumber? (List.replicate zeros '0' ++ Nat.toDigits 16 number) = some number := by
  rw [hexNumber?_zeros]
  exact foldlM_toDigits (by decide) (by decide) number

/-! ## Runs of digits -/

theorem digitInBase?_of_isDigit {character : Char} (isDigit : character.isDigit = true) :
    digitInBase? 10 character = some (character.toNat - '0'.toNat) := by
  obtain ⟨least, most⟩ := Char.isDigit_iff_toNat.mp isDigit
  have zero : '0'.toNat = 0x30 := rfl
  have nine : '9'.toNat = 0x39 := rfl
  rw [zero] at least ⊢
  rw [nine] at most
  simp [digitInBase?, least, most]
  omega

theorem digitInBase?_eq_none {character : Char} (noDigit : character.isDigit = false) :
    digitInBase? 10 character = none := by
  have outside : ¬ (0x30 ≤ character.toNat ∧ character.toNat ≤ 0x39) := fun inside =>
    Bool.eq_false_iff.mp noDigit (Char.isDigit_iff_toNat.mpr inside)
  simp only [digitInBase?, Bool.and_eq_true, decide_eq_true_eq, if_neg outside]
  split
  · rw [Option.filter_eq_none_iff]
    intro digit member
    obtain rfl := Option.some.inj member
    simp
    omega
  · split
    · rw [Option.filter_eq_none_iff]
      intro digit member
      obtain rfl := Option.some.inj member
      simp
      omega
    · rfl

/-- Whether a run of digits ends in front of characters. -/
def EndsRun (rest : List Char) : Prop :=
  ∀ head ∈ rest.head?, head.isDigit = false ∧ head ≠ '_'

theorem digitRunFrom_of_endsRun (ends : EndsRun rest) :
    digitRunFrom 10 value count rest = ⟨value, count, rest⟩ := by
  rw [digitRunFrom.eq_def]
  split
  case h_1 => rfl
  case h_2 => exact absurd rfl (ends _ rfl).2
  case h_3 => rw [digitInBase?_eq_none (ends _ rfl).1]

/-- A run goes through digits and multiplies what it has by ten for each of them. -/
theorem digitRunFrom_digits {digits : List Char} (all : ∀ digit ∈ digits, digit.isDigit = true)
    (value count : Nat) (rest : List Char) :
    digitRunFrom 10 value count (digits ++ rest) =
      digitRunFrom 10 (Nat.ofDigitChars 10 digits value) (count + digits.length) rest := by
  induction digits generalizing value count with
  | nil => rfl
  | cons digit more ih =>
      obtain ⟨first, others⟩ := List.forall_mem_cons.mp all
      have plain : digit ≠ '_' := by
        rintro rfl
        cases first
      have step : digitRunFrom 10 value count (digit :: (more ++ rest)) =
          digitRunFrom 10 (value * 10 + (digit.toNat - '0'.toNat)) (count + 1) (more ++ rest) := by
        rw [digitRunFrom.eq_def]
        split
        case h_1 same => cases same
        case h_2 same => exact absurd (List.cons.inj same).1 plain
        case h_3 same =>
          obtain ⟨rfl, rfl⟩ := List.cons.inj same
          rw [digitInBase?_of_isDigit first]
      rw [List.cons_append, step, ih others, Nat.ofDigitChars_cons, Nat.mul_comm 10 value,
        List.length_cons, Nat.add_right_comm, Nat.add_assoc]

theorem digitRun?_digits {digits : List Char} (some : digits ≠ [])
    (all : ∀ digit ∈ digits, digit.isDigit = true) (ends : EndsRun rest) :
    digitRun? 10 (digits ++ rest) =
      .some ⟨Nat.ofDigitChars 10 digits 0, digits.length, rest⟩ := by
  obtain ⟨digit, more, rfl⟩ := List.exists_cons_of_ne_nil some
  obtain ⟨first, others⟩ := List.forall_mem_cons.mp all
  rw [List.cons_append, digitRun?, digitInBase?_of_isDigit first, Option.map_some,
    digitRunFrom_digits others, digitRunFrom_of_endsRun ends, Nat.ofDigitChars_cons, Nat.mul_zero,
    Nat.zero_add, List.length_cons, Nat.add_comm 1]

theorem isDigit_of_mem_toDigits {number : Nat} :
    ∀ digit ∈ Nat.toDigits 10 number, digit.isDigit = true :=
  fun _ member => Nat.isDigit_of_mem_toDigits (by decide) (by decide) member

/-- The digits of a number in front of whatever ends a run are read as the number. -/
theorem digitRun?_toDigits (ends : EndsRun rest) (number : Nat) :
    digitRun? 10 (Nat.toDigits 10 number ++ rest) =
      some ⟨number, (Nat.toDigits 10 number).length, rest⟩ := by
  rw [digitRun?_digits Nat.toDigits_ne_nil isDigit_of_mem_toDigits ends,
    Nat.ofDigitChars_ten_toDigits]

theorem exists_toDigits_eq_cons (least : 1 < base) (number : Nat) :
    ∃ digit more, digit < base ∧ (digit = 0 → number = 0) ∧
      Nat.toDigits base number = digit.digitChar :: more := by
  induction number using Nat.strongRecOn with
  | _ number ih =>
      rcases Nat.lt_or_ge number base with small | large
      · exact ⟨number, [], small, id, Nat.toDigits_of_lt_base small⟩
      · have quotient : number / base < number := Nat.div_lt_self (by omega) least
        obtain ⟨digit, more, inside, zero, digits⟩ := ih _ quotient
        refine ⟨digit, more ++ [(number % base).digitChar], inside, fun isZero => ?_, ?_⟩
        · have positive : 0 < number / base := Nat.div_pos large (by omega)
          exact absurd (zero isZero) (by omega)
        · rw [Nat.toDigits_of_base_le least large, digits, List.cons_append]

end Number
end DebugIndex
