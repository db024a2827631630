import DebugIndex.Value.Text

/-!
# Data of a settings file

Lists and maps can be changed after they have been assigned, and two names may stand
for the same one.  So while a settings file is carried out each list and each map has a
label, and all that bear the same label have the same content.  Without the labels a
datum is a value.
-/

namespace DebugIndex

/-- A datum: a value that can not be changed, or one made of data.  A slice only names
items. -/
inductive Datum
  | scalar (value : Value)
  | tuple (items : List Datum)
  | list (label : Nat) (items : List Datum)
  | map (label : Nat) (entries : List (Value × Datum))
  | slice (start stop step : Value)

namespace Datum

mutual

/-- The value that a datum is without its labels. -/
def value : Datum → Value
  | .scalar value => value
  | .tuple items => .tuple (values items)
  | .list _ items => .list (values items)
  | .map _ entries => .map (entryValues entries)
  | .slice start stop step => .object "slice" ("slice" ++ (Value.tuple [start, stop, step]).written)

/-- The values that data are without their labels. -/
def values : List Datum → List Value
  | [] => []
  | item :: rest => item.value :: values rest

/-- The entries of a map without labels. -/
def entryValues : List (Value × Datum) → List (Value × Value)
  | [] => []
  | (key, content) :: rest => (key, content.value) :: entryValues rest

end

mutual

def ofKey : Value → Datum
  | .tuple items => .tuple (ofKeys items)
  | value => .scalar value

/-- The data of values that can be keys. -/
def ofKeys : List Value → List Datum
  | [] => []
  | item :: rest => ofKey item :: ofKeys rest

end

mutual

/-- The key that a datum can be: there is no list, map or slice in it. -/
def key? : Datum → Option Value
  | .scalar value => if value.isKey then some value else none
  | .tuple items => (keys? items).map .tuple
  | _ => none

def keys? : List Datum → Option (List Value)
  | [] => some []
  | item :: rest => do
      let key ← item.key?
      return key :: (← keys? rest)

end

mutual

/-- A datum in which the list or map with a label is replaced. -/
def refresh (label : Nat) (changed : Datum) : Datum → Datum
  | .tuple items => .tuple (refreshAll label changed items)
  | .list known items =>
      if known = label then changed else .list known (refreshAll label changed items)
  | .map known entries =>
      if known = label then changed else .map known (refreshEntries label changed entries)
  | other => other

/-- Data in which the list or map with a label is replaced. -/
def refreshAll (label : Nat) (changed : Datum) : List Datum → List Datum
  | [] => []
  | item :: rest => refresh label changed item :: refreshAll label changed rest

/-- The entries of a map in which the list or map with a label is replaced. -/
def refreshEntries (label : Nat) (changed : Datum) : List (Value × Datum) → List (Value × Datum)
  | [] => []
  | (key, content) :: rest =>
      (key, refresh label changed content) :: refreshEntries label changed rest

end

/-! ## Items -/

/-- Set a key of a map: a new key goes to the end, a known one keeps its place. -/
def put (entries : List (Value × Datum)) (key : Value) (content : Datum) : List (Value × Datum) :=
  match entries with
  | [] => [(key, content)]
  | (known, old) :: rest =>
      if known.same key then (known, content) :: rest
      else (known, old) :: put rest key content

/-- The items of a datum: a text consists of texts of a single code point, bytes of
numbers, a map of its keys. -/
def items? : Datum → Option (List Datum)
  | .tuple items | .list _ items => some items
  | .map _ entries => some (entries.map fun entry => ofKey entry.1)
  | .scalar (.bytes content) => some (content.map fun byte => .scalar (.int byte.toNat))
  | .scalar value =>
      value.points?.map fun points => points.map fun point => .scalar (Value.ofPoints [point])
  | .slice .. => none

/-- The place in a sequence that a number names: a negative one counts from the end. -/
def place? (length : Nat) (index : Int) : Option Nat :=
  let place := if index < 0 then index + length else index
  if 0 ≤ place ∧ place < length then some place.toNat else none

/-- The bound of a slice that a value is, if it is one. -/
def bound? : Value → Option (Option Int)
  | .null => some none
  | value => value.whole?.map some

/-- The places of a sequence that a slice names: where it starts, the distance between
two places, and how many there are. -/
structure Places where
  start : Int
  step : Int
  count : Nat

/-- The places themselves, in the order of the slice. -/
def Places.toList (places : Places) : List Nat :=
  (List.range places.count).map fun (index : Nat) =>
    (places.start + (index : Int) * places.step).toNat

/-- The places of a sequence that the bounds of a slice name.  Bounds beyond the
sequence count as its ends. -/
def places? (length : Nat) (start stop step : Value) : Option Places := do
  let start ← bound? start
  let stop ← bound? stop
  let distance := (← bound? step).getD 1
  let within (least most bound : Int) : Int :=
    max least (min most (if bound < 0 then bound + length else bound))
  if distance = 0 then none
  else if 0 < distance then
    let first := (start.map (within 0 length)).getD 0
    let last := (stop.map (within 0 length)).getD length
    return ⟨first, distance, ((last - first + distance - 1) / distance).toNat⟩
  else
    let first := (start.map (within (-1) (length - 1))).getD (length - 1)
    let last := (stop.map (within (-1) (length - 1))).getD (-1)
    return ⟨first, distance, ((first - last - distance - 1) / -distance).toNat⟩

def select {α : Type} (items : List α) (places : Places) : List α :=
  places.toList.filterMap (items[·]?)

/-- Items with those at the places of a slice replaced by others.  Side by side any
number of others can take their place, otherwise as many as there are places. -/
def replace? {α : Type} (items : List α) (places : Places) (others : List α) :
    Option (List α) :=
  if places.step = 1 then
    some (items.take places.start.toNat ++ others ++ items.drop (places.start.toNat + places.count))
  else if others.length = places.count then
    some ((places.toList.zip others).foldl (fun known (place, item) => known.set place item) items)
  else none

/-- The part of a sequence that a slice names.  A part of a list is a new list with a
label of its own. -/
def part? (label : Nat) (sequence : Datum) (start stop step : Value) : Option Datum := do
  let selected {α : Type} (items : List α) : Option (List α) :=
    (places? items.length start stop step).map (select items)
  match sequence with
  | .tuple items => (selected items).map .tuple
  | .list _ items => (selected items).map (.list label)
  | .scalar (.bytes content) => (selected content).map fun part => .scalar (.bytes part)
  | .scalar value =>
      (selected (← value.points?)).map fun part => .scalar (Value.ofPoints part)
  | _ => none

/-- The item of a datum that another datum names. -/
def at? (label : Nat) (container index : Datum) : Option Datum :=
  match container, index with
  | .map _ entries, index =>
      index.key?.bind fun key => (entries.find? fun entry => entry.1.same key).map Prod.snd
  | sequence, .slice start stop step => part? label sequence start stop step
  | sequence, .scalar value => do
      let items ← sequence.items?
      items[← place? items.length (← value.whole?)]?
  | _, _ => none

/-- A list or map with the item that a datum names set to another datum. -/
def store? (container index item : Datum) : Option Datum :=
  match container, index with
  | .map label entries, index => index.key?.map fun key => .map label (put entries key item)
  | .list label items, .scalar value => do
      let place ← place? items.length (← value.whole?)
      return .list label (items.set place item)
  | .list label items, .slice start stop step => do
      let places ← places? items.length start stop step
      return .list label (← replace? items places (← item.items?))
  | _, _ => none

def label? : Datum → Option Nat
  | .list label _ | .map label _ => some label
  | _ => none

end Datum
end DebugIndex
