import DebugIndex.Database.Query

/-!
# Arguments of any kind

A query can be put with values whose kind is known only when the program runs.
A number counts for what it is worth: one that is not whole lies between two
addresses.  What is no number can not be compared with one, which is an error as
soon as there is anything to compare it with.
-/

namespace DebugIndex

/-- Where an argument points: at an address, between an address and the next one,
or at no address at all. -/
inductive Position
  | exactly (address : Int)
  | between (address : Int)
  | nowhere
  deriving DecidableEq

namespace Position

def ofNumber (number : Binary64) : Position :=
  match number.whole?, number.floor? with
  | some address, _ => .exactly address
  | none, some address => .between address
  | none, none => .nowhere

/-- The last address that is not past a position.  A half-open range of addresses
contains both or neither. -/
def floor? : Position → Option Int
  | .exactly address | .between address => some address
  | .nowhere => none

end Position

namespace Database

/-! ## Addresses -/

def position (database : Database) (argument : Value) : Except QueryError Position :=
  match argument, argument.whole? with
  | .null, _ => .ok .nowhere
  | .float number, _ => .ok (.ofNumber number)
  | _, some address => .ok (.exactly address)
  | other, none =>
      if database.units.isEmpty then .ok .nowhere
      else .error (.unordered "<=" (Value.int 0).kind other.kind)

/-- The name of the function that starts exactly at a position. -/
def symbolNameNear? (database : Database) : Position → Option String
  | .exactly address => database.symbolName? address
  | _ => none

/-- The line at a position and its text.  No row is exactly between two addresses. -/
def lookUpLineNear? (database : Database) (position : Position) (tag : Option Tag) :
    Option (Int × Option String) :=
  match position with
  | .exactly address => database.lookUpLine? address tag
  | .between address =>
      (database.subprogramAt? address).bind fun subprogram =>
        if tag = some .subprogram then
          some (subprogram.declarationLine, subprogram.declarationText)
        else (LineRow.lastUpTo? subprogram.rows address).map rowAnswer
  | .nowhere => none

/-! ## Indices -/

/-- The index that an argument stands for, unless it lies outside. -/
def index? (argument : Value) (outside : Bool) : Except QueryError (Option Int) :=
  match argument with
  | .null => .ok none
  | other =>
      if !other.isNumber then .error (.unordered "<" other.kind (Value.int 0).kind)
      else if outside then .ok none
      else
        match other.whole? with
        | some index => .ok (some index)
        | none => .error (.unfitIndex other.kind)

/-- An index counted from zero among some items. -/
def indexAmong? (count : Nat) (argument : Value) : Except QueryError (Option Int) :=
  index? argument (argument.order? 0 = some .lt || (argument.order? count).any (· ≠ .lt))

/-- An index counted from one among some items. -/
def ordinalAmong? (count : Nat) (argument : Value) : Except QueryError (Option Int) :=
  index? argument (argument.order? 1 = some .lt || argument.order? count = some .gt)

def functionLineTextFor? (database : Database) (address line : Value) :
    Except QueryError (Option String) :=
  (database.position address).map fun position =>
    match position.floor?, line.worth? with
    | some place, some number => database.functionLineText? place number
    | _, _ => none

def unitLineTextFor? (database : Database) (address line : Value) :
    Except QueryError (Option String) :=
  (database.position address).bind fun position =>
    match position.floor?.bind database.unitAt? with
    | some unit =>
        (ordinalAmong? unit.sourceLines.length line).map fun number => number.bind unit.lineText?
    | none => .ok none

/-! ## Variables -/

/-- The variables of a scope: all globals for an argument that counts as false. -/
def variablesFor (database : Database) (scope : Value) : Except QueryError (List Variable) :=
  if scope.truthy then
    (database.position scope).map fun position =>
      ((position.floor?.bind database.subprogramAt?).map Subprogram.locals).getD []
  else .ok (database.variablesIn none)

/-- The variable of a scope, counted from one. -/
def nthVariableFor? (database : Database) (scope index : Value) :
    Except QueryError (Option Variable) :=
  (database.variablesFor scope).bind fun items =>
    (ordinalAmong? items.length index).map fun number => number.bind (nth? items)

/-- A value as the key of a map, unless it can not be one. -/
def keyOf (value : Value) : Except QueryError Value :=
  if value.isKey then .ok value else .error (.unfitKey value.kind)

/-- The first global variable with a name.  Only text is the name of any. -/
def globalFor? (database : Database) (name : Value) : Except QueryError (Option Variable) :=
  match name with
  | .text characters => .ok (database.global? characters)
  | other => (keyOf other).map fun _ => none

/-- The names of global variables that begin with a text, in ascending order.  None begins
with a text that has a surrogate in it. -/
def globalNamesFor (database : Database) (start : Value) : Except QueryError (List String) :=
  match start with
  | .text characters => .ok (database.globalNames characters)
  | .rawText _ => .ok []
  | other =>
      if database.names.entries.isEmpty then .ok []
      else if other.kind = Value.null.kind then .error (.unfitStart other.kind)
      else .error (.unordered "<" (Value.text "").kind other.kind)

end Database
end DebugIndex
