import DebugIndex.TypeTable.Basic
import DebugIndex.Variable

/-!
# Type resolution

The type of a variable is found by following references from entry to entry.
Each entry that is visited adds to the display name, the capabilities, the size
and the encoding.  A bound on the number of entries ends cyclic references, and
a bound on the depth ends the expansion of members.
-/

namespace DebugIndex
namespace Resolution

/-- How many entries one walk may visit, and the depth from which on members are
not expanded. -/
structure Limits where
  steps : Int := 64
  depth : Int := 8

/-- What a walk has gathered about the type of a variable. -/
structure Progress where
  typeName : String := ""
  capabilities : Nat := 0
  byteSize : Int := 0
  encoding : Int := 0
  insideTypedef : Bool := false
  deriving DecidableEq

namespace Progress

def mark (progress : Progress) (capability : Capability) : Progress :=
  { progress with capabilities := progress.capabilities ||| capability.mask }

/-- Whether a capability has been recorded. -/
def has (progress : Progress) (capability : Capability) : Bool :=
  capability.isIn progress.capabilities

/-- Add to the end of the display name. -/
def write (progress : Progress) (text : String) : Progress :=
  { progress with typeName := progress.typeName ++ text }

/-- Add to the end of the display name if a condition holds. -/
def writeIf (progress : Progress) (condition : Bool) (text : String) : Progress :=
  if condition then progress.write text else progress

/-- Add the name of an entry unless a typedef already named the type. -/
def writeName (progress : Progress) (entry : TypeEntry) : Progress :=
  progress.writeIf (!progress.insideTypedef) (entry.name.getD "")

end Progress

/-- The encoding of every variable whose type runs through a pointer. -/
def pointerEncoding : Int := 0x10

def signedEncoding : Int := 0x5

/-- Where a walk goes from an entry: nowhere, to the entry at an offset, or to
the members of an aggregate. -/
inductive Step
  | stop
  | follow (offset : Int)
  | expand
  deriving DecidableEq

def visit (entry : TypeEntry) (progress : Progress) : Progress × Step :=
  match entry.tag with
  | .subroutineType => ((progress.mark .subroutine).write " (* ) ()", .stop)
  | .structureType => aggregate (progress.mark .struct)
  | .unionType => aggregate (progress.mark .union)
  | .pointerType =>
      let marked := { progress.mark .pointer with
        byteSize := entry.byteSize
        encoding := pointerEncoding }
      if entry.typeOffset ≠ 0 then (marked, .follow entry.typeOffset)
      else (marked.write "void* ", .stop)
  | .enumerationType =>
      let encoding :=
        if entry.encoding ≠ 0 then entry.encoding
        else if entry.byteSize = 4 then signedEncoding
        else progress.encoding
      ({ progress.mark .enum with byteSize := entry.byteSize, encoding := encoding }, .stop)
  | .typedef =>
      if progress.insideTypedef then (progress, .follow entry.typeOffset)
      else
        let marked := (progress.mark .typedef).writeName entry
        ({ marked with insideTypedef := true }, .follow entry.typeOffset)
  | .subrangeType => (progress.mark .subrange, .stop)
  | .arrayType => (progress.mark .array, .follow entry.typeOffset)
  | .constType => ((progress.mark .const).write "const ", .follow entry.typeOffset)
  | .baseType =>
      let named := progress.writeName entry
      let sized :=
        if named.has .pointer then named.write "* "
        else { named with byteSize := entry.byteSize, encoding := entry.encoding }
      (sized.writeIf (sized.has .array) "[]", .stop)
  | _ => (progress, .stop)
where
  /-- Visit a struct or union that has been marked as such. -/
  aggregate (marked : Progress) : Progress × Step :=
    let named := marked.writeName entry
    if entry.typeOffset ≠ 0 then (named, .follow entry.typeOffset)
    else (named.writeIf (named.has .pointer) "* ", .expand)

/-- How a walk ended: it ran out of references, it ran out of steps with an entry
still ahead, or it came to an aggregate whose members can be expanded. -/
inductive Ending
  | finished
  | truncated
  | aggregate (entry : TypeEntry)
  deriving DecidableEq

/-- A walk along references: what it gathered, how many entries it visited, and
how it ended. -/
structure Walk where
  progress : Progress
  steps : Nat
  ending : Ending
  deriving DecidableEq

def walk (table : TypeTable) : (remaining : Nat) → (reference : Int) → Progress → Walk
  | 0, reference, progress =>
      match table.target? reference with
      | none => ⟨progress, 0, .finished⟩
      | some _ => ⟨progress, 0, .truncated⟩
  | remaining + 1, reference, progress =>
      match table.target? reference with
      | none => ⟨progress, 0, .finished⟩
      | some entry =>
          match visit entry progress with
          | (visited, .stop) => ⟨visited, 1, .finished⟩
          | (visited, .expand) => ⟨visited, 1, .aggregate entry⟩
          | (visited, .follow next) =>
              let onward := walk table remaining next visited
              { onward with steps := onward.steps + 1 }

/-- Something that happened while a variable was resolved. -/
inductive Notice
  | truncated (name : Option String) (typeOffset : Int) (typeName : String)
  | collapsed (name : Option String) (depth : Int)
  deriving DecidableEq

/-- The walk that resolves a variable.  The size and the encoding stay what they
were until an entry sets them. -/
def walkOf (table : TypeTable) (limits : Limits) (item : Variable) : Walk :=
  walk table limits.steps.toNat item.typeOffset
    { byteSize := item.byteSize, encoding := item.encoding }

/-- A variable with what a walk gathered, and without members. -/
def settle (item : Variable) (progress : Progress) : Variable :=
  { item with
    typeName := progress.typeName
    capabilities := progress.capabilities
    byteSize := progress.byteSize
    encoding := progress.encoding
    members := [] }

def memberVariable (parent : Variable) (member : Member) : Variable where
  name := member.name
  typeOffset := member.typeOffset
  opcode := parent.opcode
  offset := member.location

end Resolution

/-- A resolved variable, the number of entries visited for it, and what happened. -/
structure Resolution where
  item : Variable
  steps : Nat
  notices : List Resolution.Notice

namespace Resolution

/-- Resolve a variable at a depth, with members down to `levels` levels below it.
Below the top level the members behind a pointer stay collapsed. -/
def resolveWithin (table : TypeTable) (limits : Limits) :
    (levels : Nat) → (depth : Int) → Variable → Resolution
  | levels, depth, item =>
      let walked := walkOf table limits item
      let settled := settle item walked.progress
      match walked.ending with
      | .finished => ⟨settled, walked.steps, []⟩
      | .truncated =>
          ⟨settled, walked.steps, [.truncated item.name item.typeOffset settled.typeName]⟩
      | .aggregate entry =>
          if item.opcode = 0 then ⟨settled, walked.steps, []⟩
          else
            match levels with
            | 0 => ⟨settled, walked.steps, [.collapsed item.name depth]⟩
            | levels + 1 =>
                if 0 < depth ∧ settled.isPointer then ⟨settled, walked.steps, []⟩
                else
                  let children := entry.members.map fun member =>
                    resolveWithin table limits levels (depth + 1) (memberVariable item member)
                  ⟨{ settled with members := children.map Resolution.item }, walked.steps,
                    children.flatMap Resolution.notices⟩

def resolve (table : TypeTable) (limits : Limits) (depth : Int) (item : Variable) : Resolution :=
  resolveWithin table limits (limits.depth - depth).toNat depth item

end Resolution
end DebugIndex
