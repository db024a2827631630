import DebugIndex.Number.Reading
import DebugIndex.Text.Blank
import DebugIndex.Text.Digit
import DebugIndex.Text.Quoted
import DebugIndex.Value.Basic

/-!
# Options of the command line

Options have short and long names.  A long name may be shortened as long as only
one option can be meant; a value may stand in the next argument, behind an equals
sign, or directly behind a short name.  Arguments are first told apart, then
carried out from left to right; help and the version end that at once.
-/

namespace DebugIndex
namespace CommandLine

/-- The options. -/
inductive Flag
  | help
  | file
  | searchPath
  | address
  | verbose
  | version
  deriving DecidableEq

namespace Flag

/-- The names of all options, in the order in which they are offered. -/
def names : List (String × Flag) :=
  [("-h", .help), ("--help", .help), ("-f", .file), ("--file", .file), ("-I", .searchPath),
    ("--search-path", .searchPath), ("-a", .address), ("--addr", .address),
    ("--verbose", .verbose), ("-v", .version), ("--version", .version)]

/-- The names of one option, as it is called in an error. -/
def title (flag : Flag) : String :=
  "/".intercalate ((names.filter fun entry => entry.2 = flag).map Prod.fst)

def takesValue : Flag → Bool
  | .file | .searchPath | .address => true
  | _ => false

/-- The option with exactly this name. -/
def ofName? (name : String) : Option Flag :=
  names.lookup name

end Flag

/-- The mark behind which all arguments are plain. -/
def separator : String := "--"

/-- Why the arguments make no sense. -/
inductive UsageError
  | ambiguous (argument : String) (candidates : List String)
  | missingValue (flag : Flag)
  | unexpectedValue (flag : Flag) (value : String)
  | invalidAddress (value : String)
  | missingFile
  | unrecognized (arguments : List String)

namespace UsageError

def message : UsageError → String
  | .ambiguous argument candidates =>
      "ambiguous option: " ++ argument ++ " could match " ++ ", ".intercalate candidates
  | .missingValue flag => "argument " ++ flag.title ++ ": expected one argument"
  | .unexpectedValue flag value =>
      "argument " ++ flag.title ++ ": ignored explicit argument " ++ Text.quoted value
  | .invalidAddress value =>
      "argument " ++ Flag.address.title ++ ": invalid <lambda> value: " ++ Text.quoted value
  | .missingFile => "the following arguments are required: " ++ Flag.file.title
  | .unrecognized arguments => "unrecognized arguments: " ++ " ".intercalate arguments

end UsageError

/-- An option found in an argument: whether by a short name, and what stands behind
the name in the same argument. -/
structure Match where
  flag : Flag
  short : Bool
  explicit : Option (List Char) := none
  deriving DecidableEq

/-- What an argument is: a plain one, the mark behind which all are plain, an
option, or something that looks like an option but is none. -/
inductive Kind
  | plain
  | separator
  | option (found : Match)
  | unknown
  deriving DecidableEq

/-- Whether an argument looks like a negative number: digits of any script, with
a point before the last of them perhaps. -/
def looksNegative (argument : List Char) : Bool :=
  match argument with
  | '-' :: rest =>
      let body := if rest.getLast? = some '\n' then rest.dropLast else rest
      let isDigit (character : Char) : Bool := (Text.digitValue? character).isSome
      match body.dropWhile isDigit with
      | [] => !body.isEmpty
      | '.' :: fraction => !fraction.isEmpty && fraction.all isDigit
      | _ => false
  | _ => false

/-- An argument cut at its first equals sign. -/
def cutAtMark (argument : List Char) : List Char × Option (List Char) :=
  let name := argument.takeWhile (· ≠ '=')
  (name, if name.length < argument.length then some (argument.drop (name.length + 1)) else none)

/-- The options that an argument could be short for. -/
def candidates (argument : List Char) : List (String × Match) :=
  match argument with
  | '-' :: '-' :: _ =>
      let cut := cutAtMark argument
      (Flag.names.filter fun entry => cut.1.isPrefixOf entry.1.toList).map fun entry =>
        (entry.1, ⟨entry.2, false, cut.2⟩)
  | '-' :: letter :: rest =>
      (Flag.names.filter fun entry => entry.1.toList = ['-', letter]).map fun entry =>
        (entry.1, ⟨entry.2, true, some rest⟩)
  | _ => []

def isShortName (name : List Char) : Bool :=
  !(['-', '-'].isPrefixOf name)

def kindOf (argument : String) : Except UsageError Kind :=
  let characters := argument.toList
  let cut := cutAtMark characters
  if characters.head? ≠ some '-' then .ok .plain
  else
    match Flag.ofName? argument with
    | some flag => .ok (.option ⟨flag, isShortName characters, none⟩)
    | none =>
        if characters.length = 1 then .ok .plain
        else
          match cut.2, Flag.ofName? (String.ofList cut.1) with
          | some value, some flag => .ok (.option ⟨flag, isShortName cut.1, some value⟩)
          | _, _ =>
              match candidates characters with
              | [single] => .ok (.option single.2)
              | [] =>
                  if looksNegative characters || characters.contains ' ' then .ok .plain
                  else .ok .unknown
              | several => .error (.ambiguous argument (several.map Prod.fst))

/-- Tell what each argument is; behind the separator all are plain. -/
def kindsOf : List String → Except UsageError (List (String × Kind))
  | [] => .ok []
  | argument :: rest =>
      if argument = separator then
        .ok ((argument, .separator) :: rest.map fun plain => (plain, .plain))
      else do
        let kind ← kindOf argument
        let kinds ← kindsOf rest
        .ok ((argument, kind) :: kinds)

def isNumberBlank (character : Char) : Bool :=
  if character.toNat < 0x7f then
    character = ' ' || (0x09 ≤ character.toNat && character.toNat ≤ 0x0d)
  else Text.isBlank character

/-- A digit of any script as an ASCII digit. -/
def plainDigit (character : Char) : Char :=
  match Text.digitValue? character with
  | some digit => Char.ofNat (0x30 + digit)
  | none => character

/-- Read a number without sign: in base sixteen, eight or two behind a mark, else in
base ten, where only zero begins with a zero. -/
def magnitude? (characters : List Char) : Option Nat :=
  let whole (run : Number.DigitRun) : Option Number.DigitRun :=
    if run.rest.isEmpty then some run else none
  let inBase (base : Nat) (digits : List Char) : Option Nat :=
    let unmarked := match digits with
      | '_' :: more => more
      | more => more
    ((Number.digitRun? base unmarked).bind whole).map Number.DigitRun.value
  match characters with
  | '0' :: 'x' :: digits | '0' :: 'X' :: digits => inBase 16 digits
  | '0' :: 'o' :: digits | '0' :: 'O' :: digits => inBase 8 digits
  | '0' :: 'b' :: digits | '0' :: 'B' :: digits => inBase 2 digits
  | _ =>
      ((Number.digitRun? 10 characters).bind whole).bind fun run =>
        if (characters.head? = some '0' && run.value != 0) || Numeral.mostDigits < run.count then
          none
        else some run.value

/-- Read an address: a number that blanks may surround and a sign may precede. -/
def address? (text : String) : Option Int :=
  let inner := text.toList.dropWhile isNumberBlank
  let trimmed := (inner.reverse.dropWhile isNumberBlank).reverse
  match trimmed.map plainDigit with
  | '-' :: rest => (magnitude? rest).map fun size => -(size : Int)
  | '+' :: rest => (magnitude? rest).map Int.ofNat
  | rest => (magnitude? rest).map Int.ofNat

/-- What an option is given as its value.  Nothing is left of the mark behind which
all arguments are plain. -/
inductive Given (α : Type)
  | value (content : α)
  | nothing
  deriving DecidableEq

namespace Given

def ofText (text : String) : Given String :=
  if text = separator then .nothing else .value text

/-- What is given as a value: an empty list if nothing is. -/
def toValue {α : Type} (valueOf : α → Value) : Given α → Value
  | .value content => valueOf content
  | .nothing => .list []

end Given

/-- What the command line asks for. -/
structure Options where
  file : Option (Given String) := none
  searchPaths : Option (List (Given String)) := none
  addresses : Option (List (Given Int)) := none
  verbose : Bool := false
  deriving DecidableEq

/-- What carrying out options comes to: to go on, to show help, or the version. -/
inductive Progress
  | goOn (options : Options)
  | showHelp
  | showVersion
  deriving DecidableEq

def Options.addAddress (options : Options) (address : Given Int) : Options :=
  { options with addresses := some (options.addresses.getD [] ++ [address]) }

def apply (options : Options) (flag : Flag) (value : String) : Except UsageError Progress :=
  let given := Given.ofText value
  match flag with
  | .help => .ok .showHelp
  | .version => .ok .showVersion
  | .verbose => .ok (.goOn { options with verbose := true })
  | .file => .ok (.goOn { options with file := some given })
  | .searchPath =>
      .ok (.goOn { options with searchPaths := some (options.searchPaths.getD [] ++ [given]) })
  | .address =>
      match given with
      | .nothing => .ok (.goOn (options.addAddress .nothing))
      | .value text =>
          match address? text with
          | some address => .ok (.goOn (options.addAddress (.value address)))
          | none => .error (.invalidAddress text)

/-- Carry out options one after the other, up to one that ends everything. -/
def applyAll (options : Options) : List (Flag × String) → Except UsageError Progress
  | [] => .ok (.goOn options)
  | (flag, value) :: rest =>
      match apply options flag value with
      | .ok (.goOn changed) => applyAll changed rest
      | other => other

/-- What one argument with an option stands for: options with their values, and
perhaps one that still needs the next argument. -/
structure Cluster where
  complete : List (Flag × String) := []
  pending : Option Flag := none

namespace Cluster

/-- The cluster with an option without value in front. -/
def cons (flag : Flag) (cluster : Cluster) : Cluster :=
  { cluster with complete := (flag, "") :: cluster.complete }

/-- The cluster of an option behind whose name nothing stands. -/
def bare (flag : Flag) : Cluster :=
  if flag.takesValue then { pending := some flag } else { complete := [(flag, "")] }

end Cluster

/-- What an option and the characters behind its name stand for.  Behind a short
name without value there can be further short names, and nothing else. -/
def clusterOf (flag : Flag) (short : Bool) (explicit : List Char) : Except UsageError Cluster :=
  if flag.takesValue then .ok { complete := [(flag, String.ofList explicit)] }
  else
    match explicit with
    | [] => .error (.unexpectedValue flag "")
    | letter :: rest =>
        match if short then Flag.ofName? (String.ofList ['-', letter]) else none with
        | none => .error (.unexpectedValue flag (String.ofList (letter :: rest)))
        | some next =>
            if rest.isEmpty then .ok (.cons flag (.bare next))
            else (clusterOf next true rest).map (.cons flag)
termination_by explicit.length

def Match.cluster (found : Match) : Except UsageError Cluster :=
  match found.explicit with
  | none => .ok (.bare found.flag)
  | some explicit => clusterOf found.flag found.short explicit

/-- Finish: a file is needed, and every argument has to be understood. -/
def finish (options : Options) (extras : List String) : Except UsageError Progress :=
  if options.file.isNone then .error .missingFile
  else if extras.isEmpty then .ok (.goOn options)
  else .error (.unrecognized extras)

/-- Carry out arguments that have been told apart, keeping those not understood. -/
def carryOut (options : Options) (extras : List String) :
    List (String × Kind) → Except UsageError Progress
  | [] => finish options extras
  | (argument, kind) :: rest =>
      match kind with
      | .plain | .separator | .unknown => carryOut options (extras ++ [argument]) rest
      | .option found =>
          match found.cluster with
          | .error error => .error error
          | .ok cluster =>
              match cluster.pending with
              | none =>
                  match applyAll options cluster.complete with
                  | .ok (.goOn changed) => carryOut changed extras rest
                  | other => other
              | some flag =>
                  match rest with
                  | (value, .plain) :: more =>
                      match applyAll options (cluster.complete ++ [(flag, value)]) with
                      | .ok (.goOn changed) => carryOut changed extras more
                      | other => other
                  | _ => .error (.missingValue flag)

def parse (arguments : List String) : Except UsageError Progress :=
  (kindsOf arguments).bind (carryOut {} [])

end CommandLine
end DebugIndex
