import DebugIndex.Message.Basic

/-!
# Consoles

Messages on a terminal: one line each, in the colour of its level.  Other
receivers drop what they are given, or keep it to be asked for later.
-/

namespace DebugIndex
namespace Console

def colour (code : String) : String :=
  "\x1b[" ++ code ++ "m"

/-- The sequence that turns colours off, which is also that of ordinary text. -/
def colourOff : String := colour "0"

/-- A text in a colour, if colours are on and one is given. -/
def paint (enabled : Bool) (text : String) (sequence : Option String) : String :=
  match sequence with
  | some code => if enabled then code ++ text ++ colourOff else text
  | none => text

def colourOf : Level → String
  | .info => colourOff
  | .warn => colour "93"
  | .err => colour "91"
  | .debug => colour "90"
  | .success => colour "92"

def line (enabled : Bool) (message : Message) : String :=
  paint enabled message.text (some (colourOf (Level.ofValue message.level))) ++ "\n"

/-- Who receives messages: a terminal, nobody, or a keeper. -/
inductive Receiver
  | terminal
  | nobody
  | keeper
  deriving DecidableEq

/-- What a receiver puts on the terminal. -/
def Receiver.output (receiver : Receiver) (enabled : Bool) (messages : List Message) : String :=
  match receiver with
  | .terminal => String.join (messages.map (line enabled))
  | _ => ""

def Receiver.kept (receiver : Receiver) (messages : List Message) : List Message :=
  match receiver with
  | .keeper => messages
  | _ => []

def textsAt (messages : List Message) (level : Value) : List String :=
  (messages.filter fun message => message.level.same level).map Message.text

end Console
end DebugIndex
