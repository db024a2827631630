import DebugIndex.Number.Reading

/-!
# The shortest text of a number

A finite number is shown with the fewest significant digits that read back as
the same number, and of those with the digits nearest to it, a tie to the even
last digit.  Numbers from one ten-thousandth up to ten to the sixteenth are
written out, the others with an exponent of at least two digits.
-/

namespace DebugIndex
namespace Binary64

/-- The greatest exponent whose power of ten does not exceed a positive fraction. -/
def decimalMagnitude (numerator denominator : Nat) : Int :=
  let guess : Int :=
    ((Nat.toDigits 10 numerator).length : Int) - (Nat.toDigits 10 denominator).length
  let scaled := scale 10 1 1 guess
  if numerator * scaled.2 < denominator * scaled.1 then guess - 1 else guess

/-- Drop trailing zeros of a decimal, at most `fuel` of them. -/
def dropZeros : (fuel : Nat) → (digits : Nat) → (exponent : Int) → Nat × Int
  | 0, digits, exponent => (digits, exponent)
  | fuel + 1, digits, exponent =>
      if digits % 10 = 0 then dropZeros fuel (digits / 10) (exponent + 1)
      else (digits, exponent)

/-- The exponent of a number in scientific writing: its sign and two or more digits. -/
def exponentText (exponent : Int) : List Char :=
  let digits := Nat.toDigits 10 exponent.natAbs
  (if exponent < 0 then '-' else '+') :: List.replicate (2 - digits.length) '0' ++ digits

/-- Lay out a decimal: positional from exponent -4 up to 15, scientific outside. -/
def layout (digits : Nat) (exponent : Int) : List Char :=
  let shown := Nat.toDigits 10 digits
  let leading := exponent + shown.length - 1
  if -4 ≤ leading && leading < 16 then
    if leading < 0 then
      '0' :: '.' :: List.replicate (leading.natAbs - 1) '0' ++ shown
    else if 0 ≤ exponent then
      shown ++ List.replicate exponent.natAbs '0' ++ ['.', '0']
    else
      shown.take (leading.natAbs + 1) ++ '.' :: shown.drop (leading.natAbs + 1)
  else
    match shown with
    | [] => []
    | first :: [] => first :: 'e' :: exponentText leading
    | first :: more => first :: '.' :: more ++ 'e' :: exponentText leading

def readsBack (number : Binary64) (digits : Nat) (exponent : Int) : Bool :=
  ofText? (layout digits exponent) = some number

/-- The decimal with `count` digits that is nearest to a positive fraction among
its two neighbours, if it reads back as the number. -/
def nearest? (number : Binary64) (numerator denominator count : Nat) : Option (Nat × Int) :=
  let exponent := decimalMagnitude numerator denominator - count + 1
  let scaled := scale 10 numerator denominator (-exponent)
  let below := scaled.1 / scaled.2
  let twice := 2 * (scaled.1 % scaled.2)
  let upward := scaled.2 < twice || (twice = scaled.2 && below % 2 = 1)
  let ordered := if upward then [below + 1, below] else [below, below + 1]
  (ordered.map fun digits => dropZeros 17 digits exponent).find? fun decimal =>
    readsBack number decimal.1 decimal.2

/-- The exact decimal value of a significand times a power of two. -/
def exactDecimal (significand : Nat) (exponent : Int) : Nat × Int :=
  if exponent < 0 then (significand * Nat.pow 5 exponent.natAbs, exponent)
  else (significand * Nat.pow 2 exponent.natAbs, 0)

/-- The shortest decimal of a positive number, with at most seventeen digits
unless only the exact value reads back. -/
def shortest (number : Binary64) (significand : Nat) (exponent : Int) : Nat × Int :=
  let size := ratio significand exponent
  let found := (List.range 17).findSome? fun index => nearest? number size.1 size.2 (index + 1)
  found.getD (exactDecimal significand exponent)

def text : Binary64 → String
  | .nan => "nan"
  | .infinite negative => if negative then "-inf" else "inf"
  | .finite negative significand exponent canonical =>
      let sign := if negative then "-" else ""
      if significand = 0 then sign ++ "0.0"
      else
        let decimal :=
          shortest (.finite false significand exponent canonical) significand exponent
        sign ++ String.ofList (layout decimal.1 decimal.2)

end Binary64
end DebugIndex
