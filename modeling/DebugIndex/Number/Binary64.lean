/-!
# Double-precision numbers

A finite number is a sign and a significand times a power of two, in the one
form that double precision gives it, so that two finite numbers are the same
value with the same sign exactly when they are equal.  Every positive fraction
has a nearest number, with ties to the even significand.
-/

namespace DebugIndex

/-- The pairs of significand and binary exponent that double precision holds:
normal numbers use all fifty-three bits, and only the least exponent allows fewer. -/
def CanonicalSignificand (significand : Nat) (exponent : Int) : Prop :=
  significand < 9007199254740992 ∧ -1074 ≤ exponent ∧ exponent ≤ 971 ∧
    (4503599627370496 ≤ significand ∨ exponent = -1074)

instance (significand : Nat) (exponent : Int) :
    Decidable (CanonicalSignificand significand exponent) :=
  inferInstanceAs (Decidable (_ ∧ _))

/-- A number in double precision. -/
inductive Binary64
  | nan
  | infinite (negative : Bool)
  | finite (negative : Bool) (significand : Nat) (exponent : Int)
      (canonical : CanonicalSignificand significand exponent)
  deriving DecidableEq

namespace Binary64

/-- The finite number with these parts, or an infinity when double precision has none. -/
def ofParts (negative : Bool) (significand : Nat) (exponent : Int) : Binary64 :=
  if canonical : CanonicalSignificand significand exponent then
    .finite negative significand exponent canonical
  else .infinite negative

/-- The zero of a sign. -/
def zero (negative : Bool) : Binary64 :=
  .finite negative 0 (-1074) (by decide)

/-- A quotient rounded to the nearest natural number, a half to the even one. -/
def roundQuotient (numerator denominator : Nat) : Nat :=
  let quotient := numerator / denominator
  let twice := 2 * (numerator % denominator)
  if twice < denominator then quotient
  else if denominator < twice then quotient + 1
  else quotient + quotient % 2

/-- A fraction multiplied by a power of a base, as numerator and denominator. -/
def scale (base numerator denominator : Nat) (exponent : Int) : Nat × Nat :=
  if exponent < 0 then (numerator, denominator * Nat.pow base exponent.natAbs)
  else (numerator * Nat.pow base exponent.natAbs, denominator)

/-- The greatest exponent whose power of two does not exceed a positive fraction. -/
def binaryMagnitude (numerator denominator : Nat) : Int :=
  let guess : Int := (numerator.log2 : Int) - denominator.log2
  let scaled := scale 2 1 1 guess
  if numerator * scaled.2 < denominator * scaled.1 then guess - 1 else guess

/-- The number nearest to a fraction. -/
def ofRatio (negative : Bool) (numerator denominator : Nat) : Binary64 :=
  if numerator = 0 then zero negative
  else
    let exponent := max (binaryMagnitude numerator denominator - 52) (-1074)
    let scaled := scale 2 numerator denominator (-exponent)
    let significand := roundQuotient scaled.1 scaled.2
    if significand = 9007199254740992 then ofParts negative 4503599627370496 (exponent + 1)
    else ofParts negative significand exponent

/-- The number nearest to `digits` times a power of ten.  Magnitudes far outside
double precision are settled by the count of digits alone. -/
def ofDecimal (negative : Bool) (digits : Nat) (exponent : Int) : Binary64 :=
  let magnitude := (Nat.toDigits 10 digits).length + exponent
  if digits = 0 || magnitude < -330 then zero negative
  else if 310 < magnitude then .infinite negative
  else
    let scaled := scale 10 digits 1 exponent
    ofRatio negative scaled.1 scaled.2

/-- Whether a number is a zero of either sign. -/
def isZero : Binary64 → Bool
  | .finite _ significand _ _ => significand = 0
  | _ => false

/-- The size of a finite number as numerator and denominator. -/
def ratio (significand : Nat) (exponent : Int) : Nat × Nat :=
  scale 2 significand 1 exponent

/-- Whether two numbers have the same value: the zeros have, a nan has with none. -/
def sameValue : Binary64 → Binary64 → Bool
  | .nan, _ => false
  | _, .nan => false
  | left, right => left = right || (left.isZero && right.isZero)

def isWhole (number : Binary64) (whole : Int) : Bool :=
  match number with
  | .finite negative significand exponent _ =>
      let size := ratio significand exponent
      size.1 = whole.natAbs * size.2 &&
        (significand = 0 || negative = decide (whole < 0))
  | _ => false

/-- The greatest whole number that is not above a number; none for an infinity or a nan. -/
def floor? : Binary64 → Option Int
  | .finite negative significand exponent _ =>
      let size := ratio significand exponent
      some (if negative then -(((size.1 + size.2 - 1) / size.2 : Nat) : Int)
        else ((size.1 / size.2 : Nat) : Int))
  | _ => none

def whole? (number : Binary64) : Option Int :=
  number.floor?.filter number.isWhole

/-- How a number compares with a whole number; a nan compares with none. -/
def order? (number : Binary64) (whole : Int) : Option Ordering :=
  match number with
  | .nan => none
  | .infinite negative => some (if negative then .lt else .gt)
  | other =>
      if other.isWhole whole then some .eq
      else other.floor?.map fun floor => if floor < whole then .lt else .gt

/-- The least natural number that is not below a number; none when no natural
number is at or above it, which is so for a nan too. -/
def ceiling? : Binary64 → Option Nat
  | .nan => none
  | .infinite negative => if negative then some 0 else none
  | .finite negative significand exponent _ =>
      if negative then some 0
      else
        let size := ratio significand exponent
        some ((size.1 + size.2 - 1) / size.2)

end Binary64
end DebugIndex
