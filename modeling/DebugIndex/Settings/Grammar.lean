import DebugIndex.Settings.Expression
import DebugIndex.Settings.Token

/-!
# Grammar of a settings file

A settings file is a sequence of statements, each at the end of a line or in front of
a semicolon.  A statement is a value, with targets and equals signs in front of it, or
a target with a hint behind a colon.  A value is a constant, a number with signs in
front, texts side by side, a list, a tuple, a map, a value in parentheses, a
name, or an item of one of these.
-/

namespace DebugIndex
namespace Grammar

/-- How a phrase is read: what the beginning of some tokens stands for, and the tokens
behind it. -/
abbrev Phrase (α : Type) := List Token → Option (α × List Token)

/-- What follows a mark, if it comes next. -/
def after? (expected : Char) : List Token → Option (List Token)
  | .mark character :: rest => if character = expected then some rest else none
  | _ => none

def comesNext (marks : List Char) : List Token → Bool
  | .mark character :: _ => marks.contains character
  | _ => false

def constant? (word : String) : Option Value :=
  match word with
  | "None" => some .null
  | "True" => some (.bool true)
  | "False" => some (.bool false)
  | _ => none

/-- Read a text together with those that directly follow it. -/
def adjacentTexts (points : List Nat) : List Token → List Nat × List Token
  | .text more :: rest => adjacentTexts (points ++ more) rest
  | tokens => (points, tokens)

/-- Read bytes together with those that directly follow them. -/
def adjacentBytes (content : List UInt8) : List Token → List UInt8 × List Token
  | .bytes more :: rest => adjacentBytes (content ++ more) rest
  | tokens => (content, tokens)

/-! ## Items -/

/-- Items that have been read, and whether a comma stands behind any of them. -/
structure Items (α : Type) where
  values : List α
  separated : Bool

/-- Items with one more in front of them, separated by a comma. -/
def Items.cons {α : Type} (value : α) (items : Items α) : Items α :=
  ⟨value :: items.values, true⟩

/-- Read items up to where they end.  A comma stands between two items, and may follow
the last one. -/
def items {α : Type} (item : Phrase α) (ended : List Token → Bool)
    (tokens : List Token) : Option (Items α × List Token) :=
  if ended tokens then some (⟨[], false⟩, tokens)
  else
    match item tokens with
    | none => none
    | some (read, behind) =>
        match after? ',' behind with
        | none => some (⟨[read], false⟩, behind)
        | some rest =>
            if _shorter : rest.length < tokens.length then
              (items item ended rest).map fun (more, remaining) => (more.cons read, remaining)
            else none
termination_by tokens.length

def bracketed {α : Type} (item : Phrase α) (bracket : Char) : Phrase (Items α) := fun tokens =>
  (items item (comesNext [bracket]) tokens).bind fun (read, behind) =>
    (after? bracket behind).map (read, ·)

/-- What items without brackets stand for: a single one without a comma for itself, and
any others for a tuple. -/
def bare? : Items Expression → Option Expression
  | ⟨[], _⟩ => none
  | ⟨[single], false⟩ => some single
  | ⟨values, _⟩ => some (.tuple values)

/-- What items in parentheses stand for. -/
def grouped : Items Expression → Expression
  | ⟨[single], false⟩ => .group single
  | ⟨values, _⟩ => .group (.tuple values)

/-- An item that may have a star in front of it. -/
def starred (value : Phrase Expression) : Phrase Expression
  | .mark '*' :: rest => (value rest).map fun (read, behind) => (.star read, behind)
  | tokens => value tokens

/-- An item between brackets: its value may be given a name. -/
def element (value : Phrase Expression) : Phrase Expression
  | .name name :: .becomes :: rest =>
      if name = truthName then none
      else (value rest).map fun (read, behind) => (.binding name read, behind)
  | tokens => starred value tokens

/-- Read an entry of a map: a key, a colon and a value, or a map that is spread. -/
def entry (value : Phrase Expression) :
    Phrase (Option Expression × Expression)
  | .doubleStar :: rest => (value rest).map fun (read, behind) => ((none, read), behind)
  | tokens => do
      let (key, behind) ← value tokens
      let (content, rest) ← value (← after? ':' behind)
      return ((some key, content), rest)

/-! ## Items of a value -/

/-- Read a bound of a slice, which may be missing. -/
def bound (value : Phrase Expression) : Phrase Expression := fun tokens =>
  if comesNext [':', ',', ']'] tokens then some (.constant .null, tokens) else value tokens

/-- Read a slice from behind its first colon on. -/
def sliceFrom (value : Phrase Expression) (start : Expression) : Phrase Expression :=
  fun tokens => do
    let (stop, behind) ← bound value tokens
    match after? ':' behind with
    | none => return (.slice start stop (.constant .null), behind)
    | some rest =>
        let (step, behindStep) ← bound value rest
        return (.slice start stop step, behindStep)

/-- Read what names an item: a value or a slice. -/
def position (value : Phrase Expression) : Phrase Expression := fun tokens =>
  match after? ':' tokens with
  | some rest => sliceFrom value (.constant .null) rest
  | none => do
      let (read, behind) ← element value tokens
      match read, after? ':' behind with
      | .star _, some _ | .binding .., some _ => none
      | _, some rest => sliceFrom value read rest
      | _, none => return (read, behind)

/-- What stands in brackets behind a value: a star makes a tuple. -/
def index? (read : Items Expression) : Option Expression :=
  match read with
  | ⟨[.star inner], _⟩ => some (.tuple [.star inner])
  | other => bare? other

/-- Read the brackets behind a value. -/
def itemsOf (value : Phrase Expression) (container : Expression)
    (tokens : List Token) : Option (Expression × List Token) :=
  match after? '[' tokens with
  | none => some (container, tokens)
  | some inside =>
      match bracketed (position value) ']' inside with
      | none => none
      | some (read, rest) =>
          if _shorter : rest.length < tokens.length then
            (index? read).bind fun index => itemsOf value (.item container index) rest
          else none
termination_by tokens.length

/-! ## Values -/

/-- Read a value without signs in front and brackets behind. -/
def atom (value : Phrase Expression) : Phrase Expression
  | .name name :: rest => some (.name name, rest)
  | .keyword word :: rest => (constant? word).map (.constant ·, rest)
  | .constant value :: rest => some (.constant value, rest)
  | .text points :: rest =>
      let joined := adjacentTexts points rest
      some (.constant (Value.ofPoints joined.1), joined.2)
  | .bytes content :: rest =>
      let joined := adjacentBytes content rest
      some (.constant (.bytes joined.1), joined.2)
  | .mark '[' :: rest =>
      (bracketed (element value) ']' rest).map fun (read, behind) => (.list read.values, behind)
  | .mark '\x7b' :: rest =>
      (bracketed (entry value) '\x7d' rest).map fun (read, behind) => (.map read.values, behind)
  | .mark '(' :: rest =>
      (bracketed (element value) ')' rest).map fun (read, behind) => (grouped read, behind)
  | _ => none

/-- Read a value in which signs and brackets are nested less than `levels` deep. -/
def value : (levels : Nat) → Phrase Expression
  | 0, _ => none
  | levels + 1, tokens =>
      match tokens with
      | .mark '-' :: rest =>
          (value levels rest).map fun (operand, behind) => (.sign true operand, behind)
      | .mark '+' :: rest =>
          (value levels rest).map fun (operand, behind) => (.sign false operand, behind)
      | _ =>
          (atom (value levels) tokens).bind fun (read, behind) =>
            itemsOf (value levels) read behind

/-- Read a value.  It can not be nested deeper than it has tokens. -/
def anyValue : Phrase Expression := fun tokens =>
  value (tokens.length + 1) tokens

/-! ## Statements -/

/-- Whether a line ends or a mark comes next that can not be in a value without brackets. -/
def chunkEnds (tokens : List Token) : Bool :=
  match tokens with
  | [] | .lineEnd :: _ => true
  | _ => comesNext ['=', ':', ';'] tokens

/-- Read values without brackets around them. -/
def chunk : Phrase Expression := fun tokens =>
  (items (starred anyValue) chunkEnds tokens).bind fun (read, behind) =>
    (bare? read).map (·, behind)

/-- Read the values behind equals signs. -/
def chain (tokens : List Token) : Option (List Expression × List Token) :=
  match after? '=' tokens with
  | none => some ([], tokens)
  | some rest =>
      match chunk rest with
      | none => none
      | some (read, behind) =>
          if _shorter : behind.length < tokens.length then
            (chain behind).map fun (more, remaining) => (read :: more, remaining)
          else none
termination_by tokens.length

def takesHint : Expression → Bool
  | .name _ | .item .. => true
  | .group inner => takesHint inner
  | _ => false

/-- Whether an expression is a name without parentheses. -/
def isPlain : Expression → Bool
  | .name _ => true
  | _ => false

/-- Read the hint of a target and what is assigned to it, from behind the colon on. -/
def hintFor (hinted : Expression) : Phrase Statement := fun tokens => do
  let target ← if takesHint hinted then Target.ofExpression? hinted else none
  let (read, behind) ← anyValue tokens
  match after? '=' behind with
  | none => return (.hint target (isPlain hinted) read none, behind)
  | some rest =>
      let (assigned, remaining) ← chunk rest
      return (.hint target (isPlain hinted) read (some assigned), remaining)

/-- The assignment of the last of some values to the others. -/
def assignment? (first : Expression) (more : List Expression) : Option Statement :=
  ((first :: more).dropLast.mapM Target.ofExpression?).map fun targets =>
    .assign targets (more.getLast?.getD first)

/-- Read a statement.  The word `pass` stands for one that does nothing. -/
def statement : Phrase Statement
  | .keyword "pass" :: rest => some (.assign [] (.constant .null), rest)
  | tokens => do
      let (first, behind) ← chunk tokens
      match after? ':' behind with
      | some rest => hintFor first rest
      | none =>
          let (more, remaining) ← chain behind
          return (← assignment? first more, remaining)

/-- What follows the end of a statement: a semicolon, the end of the line, or both. -/
def ended? : List Token → Option (List Token)
  | .lineEnd :: rest => some rest
  | .mark ';' :: .lineEnd :: rest => some rest
  | .mark ';' :: rest => some rest
  | _ => none

/-- Read statements.  A semicolon stands between two statements of a line, and may follow
the last one. -/
def statements (tokens : List Token) : Option (List Statement) :=
  if tokens.isEmpty then some []
  else
    match statement tokens with
    | none => none
    | some (read, behind) =>
        match ended? behind with
        | none => none
        | some rest =>
            if _shorter : rest.length < tokens.length then
              (statements rest).map (read :: ·)
            else none
termination_by tokens.length

end Grammar
end DebugIndex
