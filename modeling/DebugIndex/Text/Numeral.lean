/-!
# Numerals

Whole numbers as text: decimal, lower-case hexadecimal, and hexadecimal padded
with zeros to a width that counts the minus sign.  Between text and numbers there
is a limit on decimal digits, lest a long number take long.
-/

namespace DebugIndex
namespace Numeral

def digits (base number : Nat) : String :=
  String.ofList (Nat.toDigits base number)

/-- A whole number in a base, with a minus sign in front when it is negative. -/
def inBase (base : Nat) (number : Int) : String :=
  if number < 0 then "-" ++ digits base number.natAbs
  else digits base number.natAbs

def decimal (number : Int) : String :=
  inBase 10 number

/-- A whole number in base sixteen, with the letters `a` to `f`. -/
def hex (number : Int) : String :=
  inBase 16 number

/-- A whole number in base ten that always carries its sign. -/
def signed (number : Int) : String :=
  if number < 0 then decimal number else "+" ++ decimal number

/-- A whole number in base sixteen, filled with zeros after the sign until it is
`width` characters long. -/
def hexPadded (width : Nat) (number : Int) : String :=
  let sign := if number < 0 then "-" else ""
  let body := digits 16 number.natAbs
  sign ++ String.ofList (List.replicate (width - sign.length - body.length) '0') ++ body

/-- A code address: hexadecimal behind the mark `0x`. -/
def address (number : Int) : String :=
  "0x" ++ hex number

/-- The most decimal digits with which a whole number is read or shown. -/
def mostDigits : Nat := 4300

/-- The least natural number with too many decimal digits. -/
def leastLong : Nat := Nat.pow 10 mostDigits

/-- Whether a whole number has few enough digits to be shown in base ten. -/
def isShort (number : Int) : Bool :=
  number.natAbs < leastLong

/-- What is said about a number with too many digits. -/
def tooLong : String :=
  "Exceeds the limit (" ++ decimal mostDigits ++ " digits) for integer string conversion; " ++
    "use sys.set_int_max_str_digits() to increase the limit"

end Numeral
end DebugIndex
