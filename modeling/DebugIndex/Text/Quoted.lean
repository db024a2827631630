import DebugIndex.Text.Numeral
import DebugIndex.Text.Point
import DebugIndex.Text.Printable

/-!
# Quoted text and bytes

Text is quoted with apostrophes, or with quotation marks when it holds an
apostrophe and no quotation mark.  The backslash and the quote in use are
escaped, and so is everything that is not printable: `\n`, `\r` and `\t` by
name, the rest by the shortest of `\xhh`, `\uhhhh` and `\Uhhhhhhhh`.
-/

namespace DebugIndex
namespace Text

/-- The number in base sixteen, filled with zeros to at least `width` digits. -/
def hexDigits (width number : Nat) : List Char :=
  let digits := Nat.toDigits 16 number
  List.replicate (width - digits.length) '0' ++ digits

def quoteFor (characters : List Char) : Char :=
  if characters.contains '\'' && !characters.contains '"' then '"' else '\''

def escapePoint (point : Nat) : List Char :=
  if point ≤ 0xff then '\\' :: 'x' :: hexDigits 2 point
  else if point ≤ 0xffff then '\\' :: 'u' :: hexDigits 4 point
  else '\\' :: 'U' :: hexDigits 8 point

/-- One character as it stands between two quotes. -/
def escapeCharacter (quote character : Char) : List Char :=
  if character = quote || character = '\\' then ['\\', character]
  else if character = '\n' then ['\\', 'n']
  else if character = '\r' then ['\\', 'r']
  else if character = '\t' then ['\\', 't']
  else if isPrintable character then [character]
  else escapePoint character.toNat

/-- Characters between quotes, escaped so that they can be read back. -/
def quotedCharacters (characters : List Char) : List Char :=
  let quote := quoteFor characters
  quote :: characters.flatMap (escapeCharacter quote) ++ [quote]

/-- Text between quotes, escaped so that it can be read back. -/
def quoted (text : String) : String :=
  String.ofList (quotedCharacters text.toList)

/-- One code point as it stands between two quotes: surrogates are escaped. -/
def escapePointOf (quote : Char) (point : Nat) : List Char :=
  if isSurrogate point then escapePoint point else escapeCharacter quote (characterOf point)

/-- The text of code points between quotes, escaped so that it can be read back. -/
def quotedPoints (points : List Nat) : String :=
  let quote := quoteFor (points.map characterOf)
  String.ofList (quote :: points.flatMap (escapePointOf quote) ++ [quote])

/-- One byte as it stands between two quotes: printable ASCII as itself. -/
def escapeByte (quote : Char) (byte : UInt8) : List Char :=
  let character := Char.ofNat byte.toNat
  if character = quote || character = '\\' then ['\\', character]
  else if character = '\n' then ['\\', 'n']
  else if character = '\r' then ['\\', 'r']
  else if character = '\t' then ['\\', 't']
  else if 0x20 ≤ byte && byte < 0x7f then [character]
  else escapePoint byte.toNat

/-- Bytes between quotes behind a `b`. -/
def quotedBytes (bytes : List UInt8) : String :=
  let quote := quoteFor (bytes.map fun byte => Char.ofNat byte.toNat)
  String.ofList ('b' :: quote :: bytes.flatMap (escapeByte quote) ++ [quote])

end Text
end DebugIndex
