import DebugIndex.Value.Basic

/-!
# Expressions of a settings file

What may stand on the two sides of an assignment.  An expression is what has been
written, before it is known what its names stand for.  Parentheses are kept, since
a value in parentheses is nested one level deeper for the reader.
-/

namespace DebugIndex

/-- An expression.  A star spreads what it stands in front of, and an entry of a map
without a key does so too.  A bound that a slice lacks is the null value. -/
inductive Expression
  | constant (value : Value)
  | name (characters : String)
  | group (inner : Expression)
  | sign (negative : Bool) (operand : Expression)
  | list (items : List Expression)
  | tuple (items : List Expression)
  | map (entries : List (Option Expression × Expression))
  | item (container index : Expression)
  | slice (start stop step : Expression)
  | star (inner : Expression)
  | binding (name : String) (value : Expression)

namespace Expression

/-- The text that an expression is, with or without parentheses. -/
def textPoints? : Expression → Option (List Nat)
  | .constant value => value.points?
  | .group inner => inner.textPoints?
  | _ => none

end Expression

/-- Where a value is assigned to: a name, an item of a list or a map, or several
targets, of which one may take all that the others leave. -/
inductive Target
  | name (characters : String)
  | item (container index : Expression)
  | rest (target : Target)
  | several (targets : List Target)

/-- The name that is true and can not be assigned. -/
def truthName : String := "__debug__"

namespace Target

/-- Whether a target takes all that others leave. -/
def isRest : Target → Bool
  | .rest _ => true
  | _ => false

/-- The most targets that can stand in front of one that takes all that others leave. -/
def mostBeforeRest : Nat := 255

/-- Several targets, at most one of which takes all that the others leave. -/
def several? (targets : List Target) : Option Target :=
  if (targets.dropWhile (!·.isRest)).tail.any isRest then none
  else if targets.any isRest && mostBeforeRest < (targets.takeWhile (!·.isRest)).length then none
  else some (.several targets)

mutual

/-- The target that is written as an expression.  A target that takes all that others
leave has to be one of several. -/
def ofExpression? : Expression → Option Target
  | .name characters => if characters = truthName then none else some (.name characters)
  | .group inner => ofExpression? inner
  | .list items | .tuple items => (ofItems? items).bind several?
  | .item container index => some (.item container index)
  | _ => none

def ofItems? : List Expression → Option (List Target)
  | [] => some []
  | .star inner :: more => do
      let target ← ofExpression? inner
      return .rest target :: (← ofItems? more)
  | single :: more => do
      let target ← ofExpression? single
      return target :: (← ofItems? more)

end

end Target

/-- A statement: a value is assigned to targets, or a target gets a hint of what it is
meant to hold, and perhaps a value too.  A target is plain if it is a name without
parentheses. -/
inductive Statement
  | assign (targets : List Target) (value : Expression)
  | hint (target : Target) (plain : Bool) (hint : Expression)
      (value : Option Expression)

namespace Statement

def textPoints? : Statement → Option (List Nat)
  | .assign [] value => value.textPoints?
  | _ => none

def hasHint : Statement → Bool
  | .hint .. => true
  | .assign .. => false

end Statement
end DebugIndex
