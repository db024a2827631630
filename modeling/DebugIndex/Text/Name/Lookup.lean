import DebugIndex.Text.Name.Aliases
import DebugIndex.Text.Name.Alphabets
import DebugIndex.Text.Name.Ancient
import DebugIndex.Text.Name.Cuneiform
import DebugIndex.Text.Name.Emblems
import DebugIndex.Text.Name.Forms
import DebugIndex.Text.Name.Indic
import DebugIndex.Text.Name.Notation
import DebugIndex.Text.Name.Pictures
import DebugIndex.Text.Name.Row
import DebugIndex.Text.Name.Scripts
import DebugIndex.Text.Name.Syllables
import DebugIndex.Text.Name.Symbols
import DebugIndex.Text.Ranges

/-!
# Looking up names

The code point that has a name in Unicode 14.  Hangul syllables are named after
their letters and ideographs after their own number; all other names are listed.
Only a listed name may be written in small letters.
-/

namespace DebugIndex
namespace Text
namespace Name

/-! ## Hangul -/

/-- The names of the letters that a Hangul syllable can begin with. -/
def leadingLetters : List String :=
  ["G", "GG", "N", "D", "DD", "R", "M", "B", "BB", "S", "SS", "", "J", "JJ", "C", "K", "T", "P",
    "H"]

/-- The names of the vowels of Hangul syllables. -/
def vowelLetters : List String :=
  ["A", "AE", "YA", "YAE", "EO", "E", "YEO", "YE", "O", "WA", "WAE", "OE", "YO", "U", "WEO", "WE",
    "WI", "YU", "EU", "YI", "I"]

/-- The names of the letters that a Hangul syllable can end in. -/
def trailingLetters : List String :=
  ["", "G", "GG", "GS", "N", "NJ", "NH", "D", "L", "LG", "LM", "LB", "LS", "LT", "LP", "LH", "M",
    "B", "BS", "S", "SS", "NG", "J", "C", "K", "T", "P", "H"]

/-- The position of the longest of some names with which characters begin, and the
characters behind it. -/
def longest? (names : List String) (characters : List Char) : Option (Nat × List Char) :=
  let fitting := names.filter fun name => name.toList.isPrefixOf characters
  (fitting.map String.length).max?.bind fun length =>
    (names.findIdx? fun name => name.toList = characters.take length).map
      (·, characters.drop length)

/-- The Hangul syllable whose letters have these names. -/
def syllable? (letters : List Char) : Option Nat := do
  let (leading, behindLeading) ← longest? leadingLetters letters
  let (vowel, behindVowel) ← longest? vowelLetters behindLeading
  let (trailing, behind) ← longest? trailingLetters behindVowel
  if behind.isEmpty then
    some (0xac00 + (leading * vowelLetters.length + vowel) * trailingLetters.length + trailing)
  else none

/-! ## Ideographs -/

/-- The ranges of the unified ideographs. -/
def ideographRanges : Array (Nat × Nat) :=
  #[(0x3400, 0x4dbf), (0x4e00, 0x9fff), (0x20000, 0x2a6df), (0x2a700, 0x2b738),
    (0x2b740, 0x2b81d), (0x2b820, 0x2cea1), (0x2ceb0, 0x2ebe0), (0x30000, 0x3134a)]

/-- Whether a digit in base sixteen is written without a small letter. -/
def isCapitalDigit (character : Char) : Bool :=
  character.isDigit || ('A' ≤ character && character ≤ 'F')

/-- The unified ideograph with a number of four or five digits. -/
def ideograph? (number : List Char) : Option Nat :=
  if (number.length = 4 || number.length = 5) && number.all isCapitalDigit then
    (Number.hexNumber? number).filter (inAnyRange ideographRanges)
  else none

/-! ## Listed names -/

/-- The characters other than unified ideographs that are named after their number:
the first and the last of each range, and what stands in front of the number. -/
def numberedRanges : List (Nat × Nat × String) :=
  [(0xf900, 0xfa6d, "CJK COMPATIBILITY IDEOGRAPH-"),
    (0xfa70, 0xfad9, "CJK COMPATIBILITY IDEOGRAPH-"),
    (0x18b00, 0x18cd5, "KHITAN SMALL SCRIPT CHARACTER-"),
    (0x1b170, 0x1b2fb, "NUSHU CHARACTER-"),
    (0x2f800, 0x2fa1d, "CJK COMPATIBILITY IDEOGRAPH-")]

/-- The character that is named after its number. -/
def numbered? (name : List Char) : Option Nat :=
  numberedRanges.findSome? fun (first, last, stem) =>
    let number := name.drop stem.length
    if stem.toList.isPrefixOf name && number.head? ≠ some '0' && number.length ≤ 5 then
      (Number.hexNumber? number).filter fun point => first ≤ point && point ≤ last
    else none

/-- The first variation selector of each of their two ranges, its ordinal number,
and how many there are. -/
def selectorRanges : List (Nat × Nat × Nat) :=
  [(0xfe00, 1, 16), (0xe0100, 17, 240)]

/-- The variation selector with an abbreviated name. -/
def selector? (name : List Char) : Option Nat :=
  selectorRanges.findSome? fun (first, ordinal, count) =>
    ((List.range count).find? fun index =>
      name = 'V' :: 'S' :: Nat.toDigits 10 (ordinal + index)).map (first + ·)

/-- The tables of names. -/
def tables : List (List String) :=
  [alphabetsRows, scriptsRows, symbolsRows, syllablesRows, formsRows, ancientRows, indicRows,
    cuneiformRows, picturesRows, notationRows, emblemsRows, aliasRows]

/-- The code point with a listed name in capital letters. -/
def listed? (name : List Char) : Option Nat :=
  ((numbered? name).or (selector? name)).or (tables.findSome? fun rows => pointIn? rows name)

/-- The code point that has a name. -/
def point? (name : List Char) : Option Nat :=
  let hangul := "HANGUL SYLLABLE ".toList
  let ideograph := "CJK UNIFIED IDEOGRAPH-".toList
  if hangul.isPrefixOf name then syllable? (name.drop hangul.length)
  else if ideograph.isPrefixOf name then ideograph? (name.drop ideograph.length)
  else listed? (name.map Char.toUpper)

end Name
end Text
end DebugIndex
