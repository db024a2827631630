/-!
# Lexicons

Words and characters have names that only a table can tell.  What is read of a settings file
depends on them in three places: which code point a name in a text stands for, which words are
names, and which names are the same.
-/

namespace DebugIndex

/-- What is known of the names of characters and of the characters of names. -/
structure Lexicon where
  point? : List Char → Option Nat
  isName : List Char → Bool
  normalize : List Char → List Char

namespace Lexicon

/-- The lexicon that needs no table: names are made of ASCII characters, and no name of a
character is known. -/
def ascii : Lexicon where
  point? _ := none
  isName word := word.all fun character => character.toNat < 0x80
  normalize := id

end Lexicon
end DebugIndex
