import DebugIndex.Settings.Expression

/-!
# Nesting in a settings file

An interpreter reads only so deep.  Two measures are bounded: the height of an expression, in
which parentheses do not count, and its reach, the levels that a reader goes down to get to the
innermost part, of which a sign takes one and a bracket many.  How many each phrase takes and how
many there are differs between interpreters.
-/

namespace DebugIndex

/-- How deep an interpreter reads: the most height, how far each phrase reaches and how far each
part of a statement may. -/
structure NestingLimits where
  mostHeight : Nat
  /-- a text, and a bracket with nothing in it -/
  text : Nat
  bracket : Nat
  /-- an item behind another in a bracket, in no brackets, and behind two others in a group -/
  next : Nat
  bareNext : Nat
  groupNext : Nat
  /-- an opening parenthesis, and the bracket behind a value -/
  group : Nat
  index : Nat
  /-- how much less far an item reaches that is spread -/
  spread : Nat
  /-- the value of an assignment, one that begins with a bracket, and how much farther either can
  reach if it is assigned to nothing -/
  value : Nat
  bracketedValue : Nat
  unassigned : Nat
  /-- a hint, a value behind a hint, and an expression in a target -/
  hint : Nat
  hinted : Nat
  target : Nat

namespace NestingLimits

/-- The limits that were measured of one interpreter with the stack that it has by default. -/
def measured : NestingLimits where
  mostHeight := 2981
  text := 2
  bracket := 29
  next := 30
  bareNext := 2
  groupNext := 3
  group := 28
  index := 24
  spread := 6
  value := 5967
  bracketedValue := 5985
  unassigned := 3
  hint := 5970
  hinted := 5966
  target := 5964

end NestingLimits

namespace Expression

/-! ## Height -/

mutual

def height : Expression → Nat
  | .constant _ | .name _ => 1
  | .group inner => height inner
  | .sign _ inner | .star inner | .binding _ inner => height inner + 1
  | .list items | .tuple items => itemsHeight items + 1
  | .map entries => entriesHeight entries + 1
  | .item container index => max (height container) (height index) + 1
  | .slice start stop step => max (height start) (max (height stop) (height step)) + 1

def itemsHeight : List Expression → Nat
  | [] => 0
  | single :: more => max (height single) (itemsHeight more)

/-- The most height of the keys and values of some entries. -/
def entriesHeight : List (Option Expression × Expression) → Nat
  | [] => 0
  | (some key, content) :: more => max (max (height key) (height content)) (entriesHeight more)
  | (none, spread) :: more => max (height spread) (entriesHeight more)

end

/-! ## Reach -/

variable (limits : NestingLimits)

mutual

/-- How many levels a reader goes down in an expression. -/
def reach : Expression → Nat
  | .constant value => if value.points?.isSome then limits.text else 0
  | .name _ => 0
  | .group (.tuple items) => itemsReach 0 limits.bareNext limits.groupNext items + limits.group
  | .group inner => reach inner + limits.group
  | .sign _ inner | .binding _ inner | .star inner => reach inner + 1
  | .list items => max limits.bracket (itemsReach limits.bracket limits.next limits.next items)
  | .tuple items => itemsReach 0 limits.bareNext limits.bareNext items
  | .map entries => max limits.bracket (entriesReach limits.bracket entries)
  | .item container index => max (reach container) (reach index + limits.index)
  | .slice start stop step => max (reach start) (max (reach stop) (reach step))

/-- How many levels a reader goes down in items, of which the first begins at one level,
the second at another, and all others begin at a third. -/
def itemsReach (first second others : Nat) : List Expression → Nat
  | [] => 0
  | .star inner :: more =>
      max (reach inner + first - limits.spread) (itemsReach second others others more)
  | single :: more => max (reach single + first) (itemsReach second others others more)

/-- How many levels a reader goes down in entries, of which the first begins at a level. -/
def entriesReach (first : Nat) : List (Option Expression × Expression) → Nat
  | [] => 0
  | (some key, content) :: more =>
      max (max (reach key) (reach content) + first) (entriesReach limits.next more)
  | (none, spread) :: more =>
      max (reach spread + first - limits.spread) (entriesReach limits.next more)

end

def isBracketed : Expression → Bool
  | .group _ | .list _ | .map _ => true
  | .tuple (first :: _) => isBracketed first
  | .item container _ => isBracketed container
  | _ => false

/-! ## Bounds -/

/-- Whether an expression is neither too high nor reaches too far. -/
def fits (mostReach : Nat) (expression : Expression) : Bool :=
  expression.height ≤ limits.mostHeight && expression.reach limits ≤ mostReach

/-- How far the value of an assignment can reach. -/
def valueReach (value : Expression) : Nat :=
  if value.isBracketed then limits.bracketedValue else limits.value

end Expression

variable (limits : NestingLimits)

namespace Target

mutual

/-- Whether the expressions in a target are not nested too deep. -/
def fits : Target → Bool
  | .name _ => true
  | .item container index => (Expression.item container index).fits limits limits.target
  | .rest target => fits target
  | .several targets => allFit targets

/-- Whether the expressions in all of some targets are not nested too deep. -/
def allFit : List Target → Bool
  | [] => true
  | target :: more => fits target && allFit more

end

end Target

namespace Statement

/-- Whether the expressions of a statement are not nested too deep. -/
def fits : Statement → Bool
  | .assign [] value => value.fits limits (value.valueReach limits + limits.unassigned)
  | .assign targets value =>
      Target.allFit limits targets && value.fits limits (value.valueReach limits)
  | .hint target _ given value =>
      target.fits limits && given.fits limits limits.hint &&
        value.all (·.fits limits limits.hinted)

end Statement
end DebugIndex
