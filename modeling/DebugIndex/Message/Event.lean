import DebugIndex.Entry.Tag
import DebugIndex.Message.Basic
import DebugIndex.SourceStatus

/-!
# Events

What happens while debug information is read.  Some events warn; the others only
trace the progress and are shown when tracing is on.
-/

namespace DebugIndex

/-- Something that happened while debug information was read. -/
inductive Event
  | lineTableUnreadable (source : Option String) (reason : String)
  | entriesUnreadable (source : Option String) (offset : Int) (reason : String)
  | entryMalformed (tag : Tag) (offset : Int) (reason : String)
  | typeTruncated (name : Option String) (typeOffset : Int) (limit : Value) (typeName : String)
  | sourcesMissing (missing total : Nat)
  | membersCollapsed (name : Option String) (depth : Int)
  | globalDropped (name : Option String)
  | sourceUnusable (path : String) (status : SourceStatus)
  | sourceUnreadable (path : String)
  | unitBuilt (source : Option String) (offset : Int) (subprograms globals types : Nat)
  | unitsLoaded (units : Nat) (elapsed : String)

namespace Event

/-- Whether an event only traces the progress. -/
def isTrace : Event → Bool
  | .lineTableUnreadable .. | .entriesUnreadable .. | .entryMalformed .. | .typeTruncated ..
  | .sourcesMissing .. => false
  | _ => true

def count (number : Nat) : String :=
  Numeral.decimal number

def text : Event → String
  | .lineTableUnreadable source reason =>
      "Error reading line table for " ++ source.getD "None" ++ ": " ++ reason
  | .entriesUnreadable source offset reason =>
      "Error reading DIE tree of " ++ source.getD "None" ++ " at offset " ++
        Numeral.address offset ++ ": " ++ reason
  | .entryMalformed tag offset reason =>
      "Skipping malformed " ++ tag.text ++ " at offset " ++ Numeral.address offset ++ ": " ++
        reason
  | .typeTruncated name typeOffset limit typeName =>
      "Type of " ++ name.getD "None" ++ " at <" ++ Numeral.address typeOffset ++
        "> does not terminate after " ++ limit.plain ++ " steps; truncating to " ++
        Text.quoted typeName
  | .sourcesMissing missing total =>
      count missing ++ " of " ++ count total ++
        " compilation units have no usable source file"
  | .membersCollapsed name depth =>
      "Not expanding members of " ++ name.getD "None" ++ " past depth " ++
        Numeral.decimal depth
  | .globalDropped name => "Dropping global " ++ name.getD "None" ++ " without a static address"
  | .sourceUnusable path status => "Source file " ++ path ++ ": " ++ status.name
  | .sourceUnreadable path => "Could not open source file " ++ path
  | .unitBuilt source offset subprograms globals types =>
      "Unit " ++ source.getD "None" ++ " @ " ++ Numeral.hex offset ++ ": " ++
        count subprograms ++ " subprograms, " ++ count globals ++ " globals, " ++
        count types ++ " types"
  | .unitsLoaded units elapsed =>
      "Loaded " ++ count units ++ " compilation units in " ++ elapsed

def level (event : Event) : Level :=
  if event.isTrace then .debug else .warn

/-- The message of an event: none for a trace when tracing is off. -/
def message? (tracing : Bool) (event : Event) : Option Message :=
  if event.isTrace && !tracing then none else some (.ofLevel event.level event.text)

def messages (tracing : Bool) (events : List Event) : List Message :=
  events.filterMap (message? tracing)

/-- An event that warns gives a message, whether progress is traced or not. -/
theorem message?_of_warns {event : Event} (warns : event.isTrace = false) (tracing : Bool) :
    event.message? tracing = some (.ofLevel .warn event.text) := by
  simp only [message?, level, warns, Bool.false_and, Bool.false_eq_true, if_false]

theorem messages_append (tracing : Bool) (events others : List Event) :
    messages tracing (events ++ others) = messages tracing events ++ messages tracing others :=
  List.filterMap_append

end Event
end DebugIndex
