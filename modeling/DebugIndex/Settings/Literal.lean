import DebugIndex.Number.Reading
import DebugIndex.Settings.Lexicon
import DebugIndex.Text.Numeral
import DebugIndex.Value.Basic

/-!
# Literals of a settings file

Quoted texts, quoted bytes and numbers.  A backslash in quotes gives the character
behind it another meaning, unless the literal is raw.  What a text literal stands
for is a list of code points, as an escape can name a surrogate.
-/

namespace DebugIndex
namespace Literal

/-- What has been read from the beginning of some characters, and the characters
behind it. -/
abbrev Read (α : Type) := Option (α × List Char)

/-! ## Escapes -/

/-- The number given by exactly `count` digits in base sixteen. -/
def hexEscape? (count : Nat) (characters : List Char) : Read Nat :=
  let digits := characters.take count
  if digits.length < count then none
  else (Number.hexNumber? digits).map (·, characters.drop count)

/-- The value of at most `count` more digits in base eight. -/
def octalValue : (count : Nat) → (value : Nat) → List Char → Nat × List Char
  | count + 1, value, character :: rest =>
      match Number.digitInBase? 8 character with
      | some digit => octalValue count (value * 8 + digit) rest
      | none => (value, character :: rest)
  | _, value, rest => (value, rest)

/-- The code point whose name stands in braces. -/
def namedPoint? (lexicon : Lexicon) : List Char → Read Nat
  | '\x7b' :: rest =>
      let name := rest.takeWhile (· ≠ '\x7d')
      if name.length = rest.length then none
      else (lexicon.point? name).map (·, rest.drop (name.length + 1))
  | _ => none

/-- The number that a letter behind a backslash stands for in every literal. -/
def lettered? : Char → Option Nat
  | 'a' => some 7
  | 'b' => some 8
  | 't' => some 9
  | 'n' => some 10
  | 'v' => some 11
  | 'f' => some 12
  | 'r' => some 13
  | '\\' => some 92
  | '\'' => some 39
  | '"' => some 34
  | _ => none

/-- What the characters behind a backslash stand for, in text and bytes alike: none
if the line ends there, and the backslash itself in front of any other character. -/
def commonEscape? : List Char → Read (List Nat)
  | [] => none
  | '\n' :: rest => some ([], rest)
  | 'x' :: rest => (hexEscape? 2 rest).map fun (number, behind) => ([number], behind)
  | character :: rest =>
      match lettered? character, Number.digitInBase? 8 character with
      | some number, _ => some ([number], rest)
      | none, some digit =>
          let octal := octalValue 2 digit rest
          some ([octal.1], octal.2)
      | none, none => some (['\\'.toNat, character.toNat], rest)

/-- The code point itself, unless it is beyond the last one. -/
def inRange? (point : Nat) : Option Nat :=
  if point ≤ 0x10ffff then some point else none

/-- What the characters behind a backslash stand for in a text. -/
def textEscape? (lexicon : Lexicon) : List Char → Read (List Nat)
  | 'u' :: rest => (hexEscape? 4 rest).map fun (point, behind) => ([point], behind)
  | 'U' :: rest =>
      (hexEscape? 8 rest).bind fun (point, behind) =>
        (inRange? point).map fun point => ([point], behind)
  | 'N' :: rest =>
      (namedPoint? lexicon rest).bind fun (point, behind) =>
        (inRange? point).map fun point => ([point], behind)
  | characters => commonEscape? characters

/-- What a backslash stands for if it has no meaning of its own: itself, and the
character behind it too. -/
def rawEscape? : List Char → Read (List Nat)
  | [] => none
  | character :: rest => some (['\\'.toNat, character.toNat], rest)

/-! ## Quotes -/

/-- How a literal is delimited: by which quote, and whether by three of them. -/
structure Delimiter where
  quote : Char
  long : Bool

/-- What follows the closing quotes, if they come next. -/
def closing? (delimiter : Delimiter) (characters : List Char) : Option (List Char) :=
  let quotes := List.replicate (if delimiter.long then 3 else 1) delimiter.quote
  if quotes.isPrefixOf characters then some (characters.drop quotes.length) else none

/-- The numbers of the characters up to the closing quotes, escapes resolved. -/
def quoted? (escape? : List Char → Read (List Nat)) (delimiter : Delimiter)
    (characters : List Char) : Read (List Nat) :=
  match closing? delimiter characters with
  | some rest => some ([], rest)
  | none =>
      match characters with
      | [] => none
      | '\\' :: rest =>
          match escape? rest with
          | none => none
          | some (resolved, more) =>
              if _shorter : more.length ≤ rest.length then
                (quoted? escape? delimiter more).map fun read => (resolved ++ read.1, read.2)
              else none
      | character :: rest =>
          if character = '\n' && !delimiter.long then none
          else
            (quoted? escape? delimiter rest).map fun read => (character.toNat :: read.1, read.2)
termination_by characters.length

def quotedAt? (escape? : List Char → Read (List Nat)) : List Char → Read (List Nat)
  | quote :: rest =>
      let long := [quote, quote].isPrefixOf rest
      quoted? escape? ⟨quote, long⟩ (if long then rest.drop 2 else rest)
  | [] => none

def textAt? (lexicon : Lexicon) (raw : Bool) (characters : List Char) : Read (List Nat) :=
  quotedAt? (if raw then rawEscape? else textEscape? lexicon) characters

/-- Read quoted bytes: every character that is quoted is in ASCII, and of a number in
base eight only the lowest byte counts. -/
def bytesAt? (raw : Bool) (characters : List Char) : Read (List UInt8) :=
  (quotedAt? (if raw then rawEscape? else commonEscape?) characters).bind fun (numbers, rest) =>
    let written := characters.take (characters.length - rest.length)
    if written.all fun character => character.toNat < 0x80 then
      some (numbers.map UInt8.ofNat, rest)
    else none

/-! ## Numbers -/

/-- The bases of whole numbers that are written with a mark for the base. -/
def baseOf? (letter : Char) : Option Nat :=
  match letter with
  | 'x' | 'X' => some 16
  | 'o' | 'O' => some 8
  | 'b' | 'B' => some 2
  | _ => none

/-- The number that a decimal numeral stands for.  A whole number other than zero
does not begin with a zero and has no more than the most digits. -/
def decimalValue? (leadingZero : Bool) (numeral : Number.DecimalNumeral) : Option Value :=
  if numeral.pointed then
    some (.float (Binary64.ofDecimal false numeral.digits numeral.exponent))
  else if numeral.digits = 0 then some (.int 0)
  else if leadingZero || Numeral.mostDigits < numeral.wholeDigits then none
  else some (.int numeral.digits)

def decimalAt? (characters : List Char) : Read Value :=
  (Number.decimalNumeral? characters).bind fun numeral =>
    (decimalValue? (characters.head? = some '0') numeral).map fun value =>
      (value, numeral.rest)

def numberAt? (characters : List Char) : Read Value :=
  match characters with
  | '0' :: letter :: rest =>
      match baseOf? letter with
      | some base =>
          let digits := match rest with
            | '_' :: more => more
            | more => more
          (Number.digitRun? base digits).map fun run => (.int run.value, run.rest)
      | none => decimalAt? characters
  | _ => decimalAt? characters

end Literal
end DebugIndex
