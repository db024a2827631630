import DebugIndex.Number.Binary64

/-!
# Reading numbers

A number is a run of digits with an optional fraction and an optional exponent.
A single underscore may stand between two digits.  With a fraction or an
exponent it is a double-precision number, otherwise a whole number.
-/

namespace DebugIndex
namespace Number

/-- The value of an ASCII digit in a base of at most sixteen. -/
def digitInBase? (base : Nat) (character : Char) : Option Nat :=
  let point := character.toNat
  let value :=
    if 0x30 ≤ point && point ≤ 0x39 then some (point - 0x30)
    else if 0x61 ≤ point && point ≤ 0x66 then some (point - 0x57)
    else if 0x41 ≤ point && point ≤ 0x46 then some (point - 0x37)
    else none
  value.filter (· < base)

/-- The number that digits in base sixteen stand for, if all of them are digits. -/
def hexNumber? (digits : List Char) : Option Nat :=
  digits.foldlM
    (fun value character => (digitInBase? 16 character).map fun digit => value * 16 + digit)
    0

/-- A run of digits that has been read: its value, how many digits it has, and
the characters behind it. -/
structure DigitRun where
  value : Nat
  count : Nat
  rest : List Char

/-- Read on in a run of digits of which `count` with this value have been read. -/
def digitRunFrom (base : Nat) : (value count : Nat) → List Char → DigitRun
  | value, count, [] => ⟨value, count, []⟩
  | value, count, '_' :: character :: rest =>
      match digitInBase? base character with
      | some digit => digitRunFrom base (value * base + digit) (count + 1) rest
      | none => ⟨value, count, '_' :: character :: rest⟩
  | value, count, character :: rest =>
      match digitInBase? base character with
      | some digit => digitRunFrom base (value * base + digit) (count + 1) rest
      | none => ⟨value, count, character :: rest⟩

def digitRun? (base : Nat) : List Char → Option DigitRun
  | [] => none
  | character :: rest =>
      (digitInBase? base character).map fun digit => digitRunFrom base digit 1 rest

/-- A decimal numeral without sign: the value of its digits without the point,
the power of ten to multiply it with, whether it has a fraction or an exponent,
and how many digits stand before the point. -/
structure DecimalNumeral where
  digits : Nat
  exponent : Int
  pointed : Bool
  wholeDigits : Nat
  rest : List Char

/-- Read an exponent: the letter, an optional sign and a run of digits. -/
def exponent? : List Char → Option (Int × List Char)
  | letter :: rest =>
      if letter = 'e' || letter = 'E' then
        match rest with
        | '+' :: more => (digitRun? 10 more).map fun run => ((run.value : Int), run.rest)
        | '-' :: more => (digitRun? 10 more).map fun run => (-(run.value : Int), run.rest)
        | more => (digitRun? 10 more).map fun run => ((run.value : Int), run.rest)
      else none
  | [] => none

/-- Add the exponent that follows, if one does. -/
def withExponent (numeral : DecimalNumeral) : DecimalNumeral :=
  match exponent? numeral.rest with
  | some (exponent, rest) =>
      { numeral with
        exponent := numeral.exponent + exponent
        pointed := true
        rest := rest }
  | none => numeral

/-- Add the fraction that follows a point, if there are digits. -/
def withFraction (whole : DigitRun) (rest : List Char) : DecimalNumeral :=
  match digitRun? 10 rest with
  | some fraction =>
      ⟨whole.value * Nat.pow 10 fraction.count + fraction.value, -(fraction.count : Int), true,
        whole.count, fraction.rest⟩
  | none => ⟨whole.value, 0, true, whole.count, rest⟩

/-- Read a decimal numeral.  A point needs a digit on at least one side. -/
def decimalNumeral? (characters : List Char) : Option DecimalNumeral :=
  match characters with
  | '.' :: rest =>
      (digitRun? 10 rest).map fun _ => withExponent (withFraction ⟨0, 0, rest⟩ rest)
  | _ =>
      (digitRun? 10 characters).map fun whole =>
        match whole.rest with
        | '.' :: rest => withExponent (withFraction whole rest)
        | _ => withExponent ⟨whole.value, 0, false, whole.count, whole.rest⟩

end Number

namespace Binary64

/-- Read the text of a number without its sign. -/
def ofUnsigned? (negative : Bool) (characters : List Char) : Option Binary64 :=
  match String.ofList (characters.map Char.toLower) with
  | "inf" | "infinity" => some (.infinite negative)
  | "nan" => some .nan
  | _ =>
      match Number.decimalNumeral? characters with
      | some numeral =>
          if numeral.rest.isEmpty then some (ofDecimal negative numeral.digits numeral.exponent)
          else none
      | none => none

/-- Read the text of a number, which may begin with a sign. -/
def ofText? (characters : List Char) : Option Binary64 :=
  match characters with
  | '-' :: rest => ofUnsigned? true rest
  | '+' :: rest => ofUnsigned? false rest
  | _ => ofUnsigned? false characters

end Binary64
end DebugIndex
