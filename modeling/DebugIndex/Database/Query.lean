import DebugIndex.Database.Ingest

/-!
# Queries

What a database tells about addresses, units and names.  A query never fails:
an address, index or name that is not known gives nothing, zero or an empty list.
-/

namespace DebugIndex
namespace Database

/-! ## Units -/

def size (database : Database) : Nat :=
  database.units.length

/-- The unit at an index counted from zero, in the order of ingestion. -/
def unit? (database : Database) (index : Int) : Option CompilationUnit :=
  nth? database.units (index + 1)

/-- The position of the first unit whose range contains an address. -/
def unitIndexAt? (database : Database) (address : Int) : Option Nat :=
  database.units.findIdx? fun unit => unit.contains address

def unitAt? (database : Database) (address : Int) : Option CompilationUnit :=
  database.units.find? fun unit => unit.contains address

/-- The language of a unit, zero if there is no such unit. -/
def language (database : Database) (index : Int) : Int :=
  ((database.unit? index).map CompilationUnit.language).getD 0

def fullPathOf? (database : Database) (index : Int) : Option String :=
  (database.unit? index).bind CompilationUnit.fullPath

def sourceNameOf? (database : Database) (index : Int) : Option String :=
  (database.unit? index).bind CompilationUnit.sourceName

/-- The source lines of a unit, or the texts of its rows. -/
def lineTexts? (database : Database) (index : Int) (used : Bool) :
    Option (List (Option String)) :=
  (database.unit? index).map fun unit => if used then unit.rowTexts else unit.sourceLines

/-- The number of source lines of a unit, or of rows that have a text entry. -/
def lineCount (database : Database) (index : Int) (used : Bool) : Nat :=
  ((database.lineTexts? index used).map List.length).getD 0

def rowLines? (database : Database) (index : Int) : Option (List Int) :=
  (database.unit? index).map fun unit => unit.rows.map LineRow.line

/-- The line index of each row of a unit, counted from zero. -/
def rowIndices? (database : Database) (index : Int) : Option (List Int) :=
  (database.unit? index).map CompilationUnit.rowIndices

/-! ## Addresses -/

/-- The function at an address: its unit's function whose range contains it. -/
def subprogramAt? (database : Database) (address : Int) : Option Subprogram :=
  (database.unitAt? address).bind fun unit => unit.subprogramAt? address

def subprogramIndexAt? (database : Database) (address : Int) : Option (Nat × Nat) :=
  (database.unitIndexAt? address).bind fun index =>
    (database.units[index]?.bind fun unit => unit.positionAt? address).map (index, ·)

def functionName? (database : Database) (address : Int) : Option String :=
  (database.subprogramAt? address).bind Subprogram.name

/-- The name of the function that starts exactly at an address. -/
def symbolName? (database : Database) (address : Int) : Option String :=
  ((database.unitAt? address).bind fun unit => unit.subprogramStartingAt? address).bind
    Subprogram.name

def sourceAt? (database : Database) (address : Int) : Option (Option String × SourceStatus) :=
  (database.unitAt? address).map fun unit => (unit.fullPath, unit.status)

def sourceNameAt? (database : Database) (address : Int) : Option String :=
  (database.unitAt? address).bind CompilationUnit.sourceName

def rowAnswer (row : LineRow) : Int × Option String :=
  (row.line, row.text)

/-- The line at an address and its text.  Inside a function that is the
declaration line if the tag of functions is given, else the row at the address or
the nearest one before it; otherwise only a row exactly at the address counts. -/
def lookUpLine? (database : Database) (address : Int) (tag : Option Tag) :
    Option (Int × Option String) :=
  (database.unitAt? address).bind fun unit =>
    match unit.subprogramAt? address with
    | some subprogram =>
        if tag = some .subprogram then
          some (subprogram.declarationLine, subprogram.declarationText)
        else
          match subprogram.rowAt? address with
          | some row => some (rowAnswer row)
          | none => (unit.rowAt? address).map rowAnswer
    | none => (unit.rowAt? address).map rowAnswer

/-- The source line at an address, zero if none is known. -/
def lineNumber (database : Database) (address : Int) (tag : Option Tag := none) : Int :=
  ((database.lookUpLine? address tag).map Prod.fst).getD 0

def lineText? (database : Database) (address : Int) (tag : Option Tag := none) :
    Option String :=
  (database.lookUpLine? address tag).bind Prod.snd

/-- The text of a line in the function at an address: of its declaration, or of
its first row with that line. -/
def functionLineText? (database : Database) (address line : Int) : Option String :=
  (database.subprogramAt? address).bind fun subprogram =>
    if subprogram.declarationLine = line then subprogram.declarationText
    else (subprogram.rows.find? fun row => row.line = line).bind LineRow.text

def unitLineText? (database : Database) (address line : Int) : Option String :=
  (database.unitAt? address).bind fun unit => unit.lineText? line

/-! ## Variables -/

/-- The variables of a scope: all globals without an address or at address zero,
else the variables of the function at the address. -/
def variablesIn (database : Database) (address : Option Int) : List Variable :=
  match address with
  | none => database.globals
  | some place =>
      if place = 0 then database.globals
      else ((database.subprogramAt? place).map Subprogram.locals).getD []

/-- The variable of a scope, counted from one. -/
def nthVariable? (database : Database) (address : Option Int) (index : Int) : Option Variable :=
  nth? (database.variablesIn address) index

def global? (database : Database) (name : String) : Option Variable :=
  database.names.get? name

/-- The address of the first global variable with a name, zero if there is none. -/
def globalAddress (database : Database) (name : String) : Int :=
  ((database.global? name).map Variable.address).getD 0

/-- The names of global variables that begin with a text, in ascending order. -/
def globalNames (database : Database) (start : String) : List String :=
  database.names.namesFrom start

def text (database : Database) : String :=
  "SymbolDatabase(" ++ Numeral.decimal database.units.length ++ " units, " ++
    Numeral.decimal database.globals.length ++ " globals)"

end Database
end DebugIndex
