/-!
# Blank characters

The characters that count as space around a word: the Unicode white space
together with the four information separators.  Cutting them off both ends of a
text is the only operation built on them.
-/

namespace DebugIndex
namespace Text

/-- A character that separates words without being visible itself. -/
def isBlank (character : Char) : Bool :=
  let point := character.toNat
  (0x09 ≤ point && point ≤ 0x0d) || (0x1c ≤ point && point ≤ 0x20) ||
    point == 0x85 || point == 0xa0 || point == 0x1680 ||
    (0x2000 ≤ point && point ≤ 0x200a) || point == 0x2028 || point == 0x2029 ||
    point == 0x202f || point == 0x205f || point == 0x3000

/-- Cut the blanks off both ends of a list of characters. -/
def trimBlanks (characters : List Char) : List Char :=
  ((characters.dropWhile isBlank).reverse.dropWhile isBlank).reverse

/-- The text without the blanks at its two ends. -/
def trim (text : String) : String :=
  String.ofList (trimBlanks text.toList)

end Text
end DebugIndex
