import DebugIndex.Settings.Expression
import DebugIndex.Settings.Predefined

/-!
# Carrying out a settings file

The statements of a settings file are carried out one after the other.  An expression
is worked out from left to right, a name stands for what has been assigned to it last,
and a list or map that is written anew gets a label that no other one has.  Whatever
makes no sense ends the whole file.
-/

namespace DebugIndex

/-- What has been assigned so far: the datum of every name in the order of the first
assignments, the data that wait to be assigned, and the label that comes next. -/
structure Assigned where
  bindings : List (String × Datum) := []
  waiting : List Datum := []
  nextLabel : Nat := 0

namespace Assigned

/-- Give a name a datum: a new name goes to the end, a known one keeps its place. -/
def bindIn (bindings : List (String × Datum)) (name : String) (datum : Datum) :
    List (String × Datum) :=
  match bindings with
  | [] => [(name, datum)]
  | (known, old) :: rest =>
      if known = name then (known, datum) :: rest else (known, old) :: bindIn rest name datum

def bind (assigned : Assigned) (name : String) (datum : Datum) : Assigned :=
  { assigned with bindings := bindIn assigned.bindings name datum }

/-- What has been assigned once a list or map has changed: every datum that holds the
one with its label changes with it. -/
def replace (assigned : Assigned) (label : Nat) (changed : Datum) : Assigned :=
  { assigned with
    bindings := assigned.bindings.map fun (name, datum) => (name, Datum.refresh label changed datum)
    waiting := Datum.refreshAll label changed assigned.waiting }

def values (assigned : Assigned) : List (String × Value) :=
  assigned.bindings.map fun (name, datum) => (name, datum.value)

end Assigned

namespace Evaluation

/-- A step that may change what has been assigned, and may fail. -/
abbrev Step := StateT Assigned Option

/-- A label that no list or map has. -/
def newLabel : Step Nat := fun assigned =>
  some (assigned.nextLabel, { assigned with nextLabel := assigned.nextLabel + 1 })

def bind (name : String) (datum : Datum) : Step Unit :=
  modify (·.bind name datum)

/-- What a name stands for: what has been assigned to it, or else what it stands for
from the beginning. -/
def read (predefined : String → Option Value) (name : String) : Step Datum := fun assigned =>
  let known :=
    if name = truthName then some (.scalar (.bool true))
    else (assigned.bindings.lookup name).or ((predefined name).map .scalar)
  known.map (·, assigned)

/-- Set an item of a list or map. -/
def store (container index item : Datum) : Step Unit := do
  let changed ← container.store? index item
  let label ← container.label?
  modify (·.replace label changed)

/-- Make data wait to be assigned, the first of them first. -/
def await (data : List Datum) : Step Unit :=
  modify fun assigned => { assigned with waiting := data ++ assigned.waiting }

def next : Step Datum := fun assigned =>
  match assigned.waiting with
  | [] => none
  | datum :: rest => some (datum, { assigned with waiting := rest })

/-! ## Signs -/

def negate? : Value → Option Value
  | .float number =>
      some (.float (match number with
        | .nan => .nan
        | .infinite negative => .infinite (!negative)
        | .finite negative significand exponent canonical =>
            .finite (!negative) significand exponent canonical))
  | value => value.whole?.map fun whole => .int (-whole)

/-- A number with a plus sign in front. -/
def affirm? : Value → Option Value
  | .float number => some (.float number)
  | value => value.whole?.map .int

def signed? (negative : Bool) : Datum → Option Datum
  | .scalar value => (if negative then negate? value else affirm? value).map .scalar
  | _ => none

/-! ## Expressions -/

def item? (label : Nat) (container index : Datum) : Option Datum :=
  (container.at? label index).or (Predefined.member? container index)

def entries? : Datum → Option (List (Value × Datum))
  | .map _ entries => some entries
  | _ => none

def bound? : Datum → Option Value
  | .scalar value => some value
  | _ => none

variable (predefined : String → Option Value)

mutual

def evaluate : Expression → Step Datum
  | .constant value => return .scalar value
  | .name name => read predefined name
  | .group inner => evaluate inner
  | .sign negative operand => do signed? negative (← evaluate operand)
  | .list items => do
      let data ← evaluateItems items
      return .list (← newLabel) data
  | .tuple items => return .tuple (← evaluateItems items)
  | .map entries => do
      let data ← evaluateEntries [] entries
      return .map (← newLabel) data
  | .item container index => do
      let known ← evaluate container
      let position ← evaluate index
      item? (← newLabel) known position
  | .slice start stop step => do
      let first ← evaluate start
      let last ← evaluate stop
      let distance ← evaluate step
      return .slice (← bound? first) (← bound? last) (← bound? distance)
  | .star _ => failure
  | .binding name value => do
      let datum ← evaluate value
      bind name datum
      return datum

def evaluateItems : List Expression → Step (List Datum)
  | [] => return []
  | .star inner :: more => do
      let spread ← (← evaluate inner).items?
      return spread ++ (← evaluateItems more)
  | single :: more => do
      let datum ← evaluate single
      return datum :: (← evaluateItems more)

/-- Work out the entries of a map, one after the other.  A list or a map can not be a
key. -/
def evaluateEntries (known : List (Value × Datum)) :
    List (Option Expression × Expression) → Step (List (Value × Datum))
  | [] => return known
  | (some key, content) :: more => do
      let name ← (← evaluate key).key?
      evaluateEntries (Datum.put known name (← evaluate content)) more
  | (none, inner) :: more => do
      let spread ← entries? (← evaluate inner)
      evaluateEntries (spread.foldl (fun data entry => Datum.put data entry.1 entry.2) known) more

end

/-! ## Targets -/

/-- Data in the order of targets: one that takes all that the others leave gets a list. -/
def arrange (targets : List Target) (data : List Datum) : Step (List Datum) := do
  let before := (targets.takeWhile (!·.isRest)).length
  if before = targets.length then
    if data.length = before then return data else failure
  else
    let behind := targets.length - before - 1
    if data.length < before + behind then failure
    else
      let taken := (data.drop before).take (data.length - before - behind)
      return data.take before ++ .list (← newLabel) taken :: data.drop (data.length - behind)

mutual

def assign : Target → Step Unit
  | .name name => do bind name (← next)
  | .item container index => do
      let known ← evaluate predefined container
      let position ← evaluate predefined index
      store known position (← next)
  | .rest target => assign target
  | .several targets => do
      await (← arrange targets (← (← next).items?))
      assignAll targets

/-- Assign the next data that wait to targets. -/
def assignAll : List Target → Step Unit
  | [] => return
  | target :: more => do
      assign target
      assignAll more

end

/-! ## Statements -/

/-- The name of the map that holds the hints of names. -/
def hintsName : String := "__annotations__"

/-- The name that stands for the text that a file begins with. -/
def documentationName : String := "__doc__"

/-- Work out the parts of a target without assigning it anything. -/
def visit : Target → Step Unit
  | .item container index => do
      let _ ← evaluate predefined container
      let _ ← evaluate predefined index
  | _ => return

/-- Work out the hint of a target.  Only that of a plain name is kept. -/
def keepHint (target : Target) (plain : Bool) (given : Expression) : Step Unit := do
  let datum ← evaluate predefined given
  match target with
  | .name name =>
      if plain then
        store (← read predefined hintsName) (.scalar (.text name)) datum
  | _ => return

/-- Carry out a statement.  A value is worked out once and assigned to every target in
turn, and a hint comes last. -/
def perform : Statement → Step Unit
  | .assign targets value => do
      let datum ← evaluate predefined value
      await (List.replicate targets.length datum)
      assignAll predefined targets
  | .hint target plain given none => do
      visit predefined target
      keepHint predefined target plain given
  | .hint target plain given (some value) => do
      await [← evaluate predefined value]
      assign predefined target
      keepHint predefined target plain given

/-- What is assigned before any statement: the map of hints, if there are any and
the name is free, and the text that a file begins with. -/
def prepare (statements : List Statement) : Step Unit := do
  let taken := ((← get).bindings.lookup hintsName).isSome
  if statements.any (·.hasHint) && !taken then
    bind hintsName (.map (← newLabel) [])
  match statements.head?.bind Statement.textPoints? with
  | some points => bind documentationName (.scalar (Value.ofPoints points))
  | none => return

/-- Carry out a settings file in which a name already stands for an empty map. -/
def run? (mapName : String) (statements : List Statement) : Option (List (String × Value)) :=
  let carryOut : Step Unit := do
    bind mapName (.map (← newLabel) [])
    prepare statements
    statements.forM (perform predefined)
  (carryOut.run {}).map fun (_, assigned) => assigned.values

end Evaluation
end DebugIndex
