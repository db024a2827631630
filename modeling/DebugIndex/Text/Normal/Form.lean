import DebugIndex.Text.Normal.Compositions
import DebugIndex.Text.Normal.Decompositions
import DebugIndex.Text.Normal.Marks

/-!
# The normal form of a text

Texts that differ only in how a character is put together, or in what it looks
like, have one normal form: every character is taken apart as far as that goes,
marks are put in order, and then everything is put together again.  This is the
composed form of compatible characters of Unicode 14.
-/

namespace DebugIndex
namespace Text
namespace Normal

def firstSyllable : Nat := 0xac00

/-- The first leading consonant of Hangul syllables, and how many there are. -/
def leadingConsonants : Nat × Nat := (0x1100, 19)

/-- The first vowel of Hangul syllables, and how many there are. -/
def vowels : Nat × Nat := (0x1161, 21)

/-- The trailing consonants of Hangul syllables: the code point in front of the
first of them, and how many choices there are together with having none. -/
def trailingConsonants : Nat × Nat := (0x11a7, 28)

/-- The position of a code point among some that follow each other. -/
def indexIn? (points : Nat × Nat) (point : Nat) : Option Nat :=
  if points.1 ≤ point ∧ point < points.1 + points.2 then some (point - points.1) else none

def lettersOf? (point : Nat) : Option (List Nat) :=
  let count := leadingConsonants.2 * vowels.2 * trailingConsonants.2
  (indexIn? (firstSyllable, count) point).map fun index =>
    let trailing := index % trailingConsonants.2
    let both := index / trailingConsonants.2
    let whole := [leadingConsonants.1 + both / vowels.2, vowels.1 + both % vowels.2]
    if trailing = 0 then whole else whole ++ [trailingConsonants.1 + trailing]

/-- The Hangul syllable of a leading consonant and a vowel, or of a syllable
without trailing consonant and such a consonant. -/
def syllableOf? (first second : Nat) : Option Nat :=
  let count := leadingConsonants.2 * vowels.2 * trailingConsonants.2
  match indexIn? leadingConsonants first, indexIn? vowels second with
  | some leading, some vowel =>
      some (firstSyllable + (leading * vowels.2 + vowel) * trailingConsonants.2)
  | _, _ =>
      match indexIn? (firstSyllable, count) first, indexIn? trailingConsonants second with
      | some index, some trailing =>
          if index % trailingConsonants.2 = 0 ∧ trailing ≠ 0 then some (first + trailing)
          else none
      | _, _ => none

/-- The characters that remain when a character is taken apart. -/
def decompose (character : Char) : List Char :=
  let point := character.toNat
  if point < 0x80 then [character]
  else
    match (lettersOf? point).or (decompositions.findSome? (·.sequenceOf? point)) with
    | some points => points.map Char.ofNat
    | none => [character]

/-- The one character that can stand for two. -/
def compose? (first second : Char) : Option Char :=
  match syllableOf? first.toNat second.toNat with
  | some syllable => some (Char.ofNat syllable)
  | none =>
      (compositions.find? fun entry =>
        entry.sequence = [first.toNat, second.toNat]).map fun entry => Char.ofNat entry.first

/-- Put together a character and what follows it, where `kept` are the marks in
between that stay.  A mark reaches the character unless one of its own or a later
class stands in between. -/
def composeFrom (base : Char) (kept : List Char) : List Char → List Char
  | [] => base :: kept
  | next :: rest =>
      let reaches := kept.getLast?.all fun last => markClass last < markClass next
      match if reaches then compose? base next else none with
      | some joined => composeFrom joined kept rest
      | none =>
          if markClass next = 0 then base :: kept ++ composeFrom next [] rest
          else composeFrom base (kept ++ [next]) rest

/-- Put together characters whose marks are in order.  Marks in front of the
first other character stay as they are. -/
def composeAll : List Char → List Char
  | [] => []
  | character :: rest =>
      if markClass character = 0 then composeFrom character [] rest
      else character :: composeAll rest

end Normal

/-- The normal form of a text; one in ASCII is in that form already. -/
def normalize (characters : List Char) : List Char :=
  if characters.all fun character => character.toNat < 0x80 then characters
  else Normal.composeAll (Normal.orderMarks (characters.flatMap Normal.decompose))

end Text
end DebugIndex
