import DebugIndex.Settings.Literal

/-!
# Tokens of a settings file

A settings file is made of names, keywords, literals and marks, in lines.  A line
ends where no bracket is open; between brackets line ends are blank.  Lines are not
indented, and a backslash at the end of a line joins it to the next.  Which words are
names, and which names are the same, a lexicon tells.
-/

namespace DebugIndex

/-- A token of a settings file. -/
inductive Token
  | name (characters : String)
  | keyword (characters : String)
  | constant (value : Value)
  | text (points : List Nat)
  | bytes (content : List UInt8)
  | mark (character : Char)
  | doubleStar
  | becomes
  | lineEnd

namespace Token

/-- Whether a word begins with a character: one that is in a name, except a digit,
or any character beyond ASCII. -/
def isWordStart (character : Char) : Bool :=
  character.isAlpha || character = '_' || 0x80 ≤ character.toNat

def isWordPart (character : Char) : Bool :=
  isWordStart character || character.isDigit

/-- The words that are no names. -/
def keywords : List String :=
  ["False", "None", "True", "and", "as", "assert", "async", "await", "break", "class",
    "continue", "def", "del", "elif", "else", "except", "finally", "for", "from", "global",
    "if", "import", "in", "is", "lambda", "nonlocal", "not", "or", "pass", "raise", "return",
    "try", "while", "with", "yield"]

/-- The token of a word: a keyword, or the name with the normal form of the word. -/
def ofWord? (lexicon : Lexicon) (word : List Char) : Option Token :=
  if keywords.contains (String.ofList word) then some (.keyword (String.ofList word))
  else if lexicon.isName word then some (.name (String.ofList (lexicon.normalize word)))
  else none

/-- Read a number, which no part of a word may follow. -/
def numberAt? (characters : List Char) : Option (Token × List Char) :=
  (Literal.numberAt? characters).bind fun (value, rest) =>
    if rest.head?.any isWordPart then none else some (.constant value, rest)

/-- Read a quoted text or quoted bytes with the letters in front that say which. -/
def quotedAt? (lexicon : Lexicon) (letters characters : List Char) :
    Option (Token × List Char) :=
  let text (raw : Bool) :=
    (Literal.textAt? lexicon raw characters).map fun (points, rest) => (Token.text points, rest)
  let bytes (raw : Bool) :=
    (Literal.bytesAt? raw characters).map fun (content, rest) => (Token.bytes content, rest)
  match letters.map Char.toLower with
  | [] | ['u'] => text false
  | ['r'] => text true
  | ['b'] => bytes false
  | ['b', 'r'] | ['r', 'b'] => bytes true
  | _ => none

/-- Read a word, or what is quoted right behind it. -/
def wordAt? (lexicon : Lexicon) (characters : List Char) : Option (Token × List Char) :=
  let word := characters.takeWhile isWordPart
  let rest := characters.dropWhile isWordPart
  match rest.head? with
  | some '\'' | some '"' => quotedAt? lexicon word rest
  | _ => (ofWord? lexicon word).map (·, rest)

/-- Where the lexer stands: how many brackets are open, and whether a line begins. -/
structure Place where
  depth : Nat := 0
  fresh : Bool := true

/-- What one step of the lexer read. -/
structure Lexeme where
  token : Option Token
  place : Place
  rest : List Char

/-- Read a mark.  Only `:` may have an `=` right behind it. -/
def markAt? (depth : Nat) (characters : List Char) : Option Lexeme :=
  let read (token : Token) (newDepth : Nat) (rest : List Char) : Option Lexeme :=
    some ⟨some token, ⟨newDepth, false⟩, rest⟩
  match characters with
  | '.' :: '.' :: '.' :: rest => read (.constant Value.ellipsis) depth rest
  | ':' :: '=' :: rest => read .becomes depth rest
  | '*' :: '*' :: rest => if rest.head? = some '=' then none else read .doubleStar depth rest
  | character :: rest =>
      match character with
      | '[' | '\x7b' | '(' => read (.mark character) (depth + 1) rest
      | ']' | '\x7d' | ')' =>
          if depth = 0 then none else read (.mark character) (depth - 1) rest
      | ',' | ':' | ';' => read (.mark character) depth rest
      | '=' | '-' | '+' | '*' =>
          if rest.head? = some '=' then none else read (.mark character) depth rest
      | _ => none
  | [] => none

def lexemeInLine? (lexicon : Lexicon) (depth : Nat) (characters : List Char) : Option Lexeme :=
  let inLine (read : Option (Token × List Char)) : Option Lexeme :=
    read.map fun (token, rest) => ⟨some token, ⟨depth, false⟩, rest⟩
  match characters with
  | [] => none
  | '\n' :: rest =>
      if depth = 0 then some ⟨some .lineEnd, ⟨0, true⟩, rest⟩
      else some ⟨none, ⟨depth, false⟩, rest⟩
  | '\\' :: '\n' :: rest => if rest.isEmpty then none else some ⟨none, ⟨depth, false⟩, rest⟩
  | '#' :: rest => some ⟨none, ⟨depth, false⟩, rest.dropWhile (· ≠ '\n')⟩
  | character :: rest =>
      if character = ' ' || character = '\t' || character = '\x0c' then
        some ⟨none, ⟨depth, false⟩, rest⟩
      else if character = '\'' || character = '"' then inLine (quotedAt? lexicon [] characters)
      else if character.isDigit || (character = '.' && rest.head?.any Char.isDigit) then
        inLine (numberAt? characters)
      else if isWordStart character then inLine (wordAt? lexicon characters)
      else markAt? depth characters

/-- The width of the blanks at the beginning of a line, and what follows them.  A
tabulator goes on to a multiple of eight, and a form feed begins anew.  If lines
are joined, the first width in front of a backslash, other than zero, counts. -/
def indentation : (width joined : Nat) → List Char → Nat × List Char
  | width, joined, ' ' :: rest => indentation (width + 1) joined rest
  | width, joined, '\t' :: rest => indentation ((width / 8 + 1) * 8) joined rest
  | _, joined, '\x0c' :: rest => indentation 0 joined rest
  | width, joined, '\\' :: '\n' :: rest =>
      indentation width (if joined = 0 then width else joined) rest
  | width, joined, rest => (if joined = 0 then width else joined, rest)

/-- One step of the lexer. -/
def lexeme? (lexicon : Lexicon) (place : Place) (characters : List Char) : Option Lexeme :=
  if place.fresh then
    let indented := indentation 0 0 characters
    match indented.2 with
    | [] => if characters.getLast? = some '\n' then none else some ⟨none, ⟨0, true⟩, []⟩
    | '\n' :: rest => some ⟨none, ⟨0, true⟩, rest⟩
    | '#' :: rest => some ⟨none, ⟨0, true⟩, (rest.dropWhile (· ≠ '\n')).drop 1⟩
    | rest => if indented.1 = 0 then lexemeInLine? lexicon 0 rest else none
  else lexemeInLine? lexicon place.depth characters

/-- What has been read of some characters: their tokens, and how many brackets are still open
behind them. -/
structure Scan where
  tokens : List Token
  openBrackets : Nat

/-- What has been read with more tokens in front. -/
def Scan.after (scan : Scan) (front : List Token) : Scan :=
  { scan with tokens := front ++ scan.tokens }

@[simp]
theorem Scan.after_nil (scan : Scan) : scan.after [] = scan := rfl

@[simp]
theorem Scan.after_after (scan : Scan) (first second : List Token) :
    (scan.after second).after first = scan.after (first ++ second) := by
  simp [after]

@[simp]
theorem Scan.map_after_after (scan : Option Scan) (first second : List Token) :
    (scan.map (·.after second)).map (·.after first) = scan.map (·.after (first ++ second)) := by
  cases scan <;> simp

def scanFrom? (lexicon : Lexicon) (place : Place) (characters : List Char) : Option Scan :=
  match characters with
  | [] => some ⟨if place.fresh then [] else [.lineEnd], place.depth⟩
  | character :: more =>
      match lexeme? lexicon place (character :: more) with
      | none => none
      | some lexeme =>
          if _shorter : lexeme.rest.length ≤ more.length then
            (scanFrom? lexicon lexeme.place lexeme.rest).map (·.after lexeme.token.toList)
          else none
termination_by characters.length

/-- Read a settings file, which holds no null character. -/
def scan? (lexicon : Lexicon) (characters : List Char) : Option Scan :=
  if characters.contains '\x00' then none else scanFrom? lexicon {} characters

/-- How many brackets are open behind a token, if so many are open in front of it. -/
def depthBehind (depth : Nat) : Token → Nat
  | .mark '[' | .mark '\x7b' | .mark '(' => depth + 1
  | .mark ']' | .mark '\x7d' | .mark ')' => depth - 1
  | _ => depth

/-- The most brackets that are open at once in tokens, if so many are open in front of them. -/
def deepest : (depth : Nat) → List Token → Nat
  | depth, [] => depth
  | depth, token :: rest => max depth (deepest (token.depthBehind depth) rest)

end Token
end DebugIndex
