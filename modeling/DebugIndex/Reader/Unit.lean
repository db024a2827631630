import DebugIndex.Entry.Basic

/-!
# What a reader delivers

A reader delivers compilation units, each with its top entry and its line rows.
A reader of an executable delivers them out of the executable's debug
information, if there is any.
-/

namespace DebugIndex

/-- The order of the bytes of an address. -/
inductive ByteOrder
  | big
  | little
  deriving DecidableEq

namespace ByteOrder

def name : ByteOrder → String
  | .big => "big"
  | .little => "little"

def ofName? : String → Option ByteOrder
  | "big" => some .big
  | "little" => some .little
  | _ => none

/-- The natural number that bytes in an order stand for. -/
def value : ByteOrder → List UInt8 → Nat
  | .big, bytes => bytes.foldl (fun total byte => total * 256 + byte.toNat) 0
  | .little, bytes => bytes.foldr (fun byte total => byte.toNat + 256 * total) 0

end ByteOrder

/-- One compilation unit as a reader delivers it.  The byte order may be unknown;
fetching the top entry may fail; rows are pairs of address and line. -/
structure UnitSource where
  offset : Int := 0
  byteOrder : Option ByteOrder := some .big
  top : Except Fault Entry
  rows : Feed (Int × Int) := ⟨[], none⟩

/-- The state of the line number machine after an operation. -/
structure LineState where
  address : Int
  line : Int
  endSequence : Bool := false
  deriving DecidableEq

/-- A compilation unit of an executable.  It may have no line program, and an
operation of the program may leave no state. -/
structure ImageUnit where
  offset : Int := 0
  top : Except Fault Entry
  program : Except Fault (Option (Feed (Option LineState))) := .ok none

/-- The debug information of an executable. -/
structure DebugInformation where
  present : Bool := true
  units : Feed ImageUnit := ⟨[], none⟩

/-- An executable that could be opened, and its debug information if it has any. -/
structure Image where
  littleEndian : Bool := true
  debugInformation : Option (Except Fault DebugInformation) := none

namespace ImageUnit

/-- The row that a state of the line number machine stands for: none at the end
of a sequence. -/
def rowOf? (state : Option LineState) : Option (Int × Int) :=
  match state with
  | some reached => if reached.endSequence then none else some (reached.address, reached.line)
  | none => none

def rows (unit : ImageUnit) : Feed (Int × Int) :=
  match unit.program with
  | .error fault => ⟨[], some fault⟩
  | .ok none => ⟨[], none⟩
  | .ok (some states) => ⟨states.items.filterMap rowOf?, states.fault⟩

def source (unit : ImageUnit) (byteOrder : ByteOrder) : UnitSource where
  offset := unit.offset
  byteOrder := some byteOrder
  top := unit.top
  rows := unit.rows

/-- A unit of an executable in one line. -/
def text (unit : ImageUnit) : String :=
  "Compilation unit (@offset " ++ Numeral.hex unit.offset ++ ")"

end ImageUnit
end DebugIndex
