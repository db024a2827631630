import DebugIndex.CommandLine.Usage
import DebugIndex.Console
import DebugIndex.Executable

/-!
# Running the command line

One run of the program: the arguments are understood, the settings are read, the
executable is opened, and its units, or the addresses asked for, are described.
Everything is said on a terminal, in colours unless the settings forbid them.
-/

namespace DebugIndex
namespace CommandLine

/-- What a run is given besides its arguments. -/
structure World where
  files : FileSystem
  settingsPath : String
  interpreter : Interpreter
  read : ImageReader
  elapsed : String := ""

/-- What a run leaves behind. -/
structure Finished where
  exitCode : Nat
  output : String := ""
  errors : String := ""
  deriving DecidableEq

/-- An address in words: its function, source and line, and the text of the line. -/
def describeAddress (database : Database) (address : Int) : String :=
  match database.functionName? address with
  | none => Numeral.address address ++ ": no symbol"
  | some name =>
      let path := ((database.sourceAt? address).bind Prod.fst).getD "None"
      let line := Numeral.decimal (database.lineNumber address)
      let text :=
        match database.lineText? address with
        | some text => "\n    " ++ Text.trim text
        | none => ""
      Numeral.address address ++ ": " ++ name ++ " at " ++ path ++ ":" ++ line ++ text

/-- A unit in words: its range, its source file and the status of that. -/
def describeUnit (unit : CompilationUnit) : String :=
  "[" ++ Numeral.hexPadded 8 unit.low ++ ".." ++ Numeral.hexPadded 8 unit.high ++ ") " ++
    unit.fullPath.getD "None" ++ " (" ++ unit.status.name ++ ")"

/-- What is said about an address asked for, if one is given. -/
def describeGiven (database : Database) (address : Given Int) : Except Failure Message :=
  match address with
  | .value known => .ok (.ofLevel .info (describeAddress database known))
  | .nothing =>
      let value := address.toValue Value.int
      match database.position value with
      | .error cause => .error (.query cause)
      | .ok _ => .error (.query (.unfitNumber value.kind))

/-- What is said about a database: the addresses asked for, or else all units. -/
def describe (database : Database) (addresses : List (Given Int)) :
    Except Failure (List Message) :=
  if addresses.isEmpty then
    .ok (database.units.map (fun unit => .ofLevel .info (describeUnit unit)) ++
      [.ofLevel .success database.text])
  else addresses.mapM (describeGiven database)

/-- The settings of a run.  Asking for traces holds for this run alone, so the
settings are then kept apart from their file. -/
def storeFor (options : Options) (store : SettingsStore) : SettingsStore :=
  if options.verbose then
    { settings := store.settings.set .verbose (.bool true), path := store.path }
  else store

/-- What a failure leaves behind after some output.  Only the failure to have an
index is told to the user. -/
def giveUp (enabled : Bool) (output : String) (failure : Failure) : Except Failure Finished :=
  if failure.isIndexFailure then
    let told := [Message.ofLevel .err failure.message]
    .ok ⟨1, output ++ Console.Receiver.terminal.output enabled told, ""⟩
  else .error failure

/-- What a run is built from: its files, settings and search paths. -/
def requestOf (world : World) (options : Options) (store : SettingsStore) : Session.Request where
  files := world.files
  store := store
  searchPaths := options.searchPaths.map fun paths => paths.map (Given.toValue Value.text)
  elapsed := world.elapsed

/-- Describe an executable with given settings.  Colours are on until the settings
govern them, which is when the executable has been opened. -/
def inspect (world : World) (options : Options) (path : String) (store : SettingsStore) :
    Except Failure Finished :=
  let report := Executable.openSession world.files world.read path (requestOf world options store)
  let opened := (Executable.openDescribed world.files world.read path).isOk
  let enabled := !opened || store.settings.colors.truthy
  let told (messages : List Message) := Console.Receiver.terminal.output enabled messages
  let progress := told (Event.messages (Session.traces store.settings) report.events)
  match report.outcome with
  | .error failure => giveUp enabled progress failure
  | .ok session =>
      (describe session.database (options.addresses.getD [])).map fun description =>
        ⟨0, progress ++ told description, ""⟩

def run (world : World) (arguments : List String) : Except Failure Finished :=
  match parse arguments with
  | .error error => .ok ⟨2, "", errorText error⟩
  | .ok .showHelp => .ok ⟨0, helpText, ""⟩
  | .ok .showVersion => .ok ⟨0, versionText ++ "\n", ""⟩
  | .ok (.goOn options) =>
      let loading := SettingsStore.load world.interpreter world.files world.settingsPath
      match loading.outcome with
      | .error cause => .error (.settings cause)
      | .ok store =>
          let told := Console.Receiver.terminal.output true loading.messages
          match options.file.getD .nothing with
          | .nothing => .error (.notPath (.list []))
          | .value path =>
              (inspect world options path (storeFor options store)).map fun finished =>
                { finished with output := told ++ finished.output }

end CommandLine
end DebugIndex
