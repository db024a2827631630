import DebugIndex.Settings.Basic
import DebugIndex.Settings.Evaluation
import DebugIndex.Settings.Grammar

/-!
# Interpreters

A settings file is carried out by an interpreter of a whole language.  Most settings files, and all
that are written here, are literal: they assign to names what is made of constants and brackets
only.  What becomes of those depends on the interpreter only in how deep they may be nested.
What becomes of any other file is for the interpreter to say: it may leave variables behind or make
no sense, and it may do what nobody here can tolerate.  What such a file does besides, to files or
to the program itself, is its own affair and not looked at.
-/

namespace DebugIndex

/-- What carrying out a file leads to: its variables, a failure that is tolerated, or one that is
not.  The last is also the case if what the file leaves behind can not be looked at: if a value of
its own making does not let itself be compared, gone through or shown, or is nested too deep for
that.  A value that holds itself counts as an object. -/
inductive Execution
  | bound (assigned : List (String × Value))
  | failed
  | escaped (escape : Escape)

namespace Expression

def numberNames : List String := ["inf", "nan"]

mutual

/-- Whether an expression is made of constants and brackets, signs and the names of numbers. -/
def isLiteral : Expression → Bool
  | .constant _ => true
  | .name characters => numberNames.contains characters
  | .group inner | .sign _ inner => isLiteral inner
  | .list items | .tuple items => areLiteral items
  | .map entries => haveLiteral entries
  | _ => false

def areLiteral : List Expression → Bool
  | [] => true
  | single :: more => isLiteral single && areLiteral more

/-- Whether all of some entries have a literal key and a literal value. -/
def haveLiteral : List (Option Expression × Expression) → Bool
  | [] => true
  | (some key, content) :: more => isLiteral key && isLiteral content && haveLiteral more
  | (none, _) :: _ => false

end

mutual

/-- How deep the brackets and signs of a literal expression are nested. -/
def depth : Expression → Nat
  | .group inner | .sign _ inner => depth inner + 1
  | .list items | .tuple items => itemsDepth items + 1
  | .map entries => entriesDepth entries + 1
  | _ => 0

def itemsDepth : List Expression → Nat
  | [] => 0
  | single :: more => max (depth single) (itemsDepth more)

/-- The most depth of the keys and values of some entries. -/
def entriesDepth : List (Option Expression × Expression) → Nat
  | [] => 0
  | (some key, content) :: more => max (max (depth key) (depth content)) (entriesDepth more)
  | (none, _) :: more => entriesDepth more

end

end Expression

namespace Target

def isName : Target → Bool
  | .name _ => true
  | _ => false

end Target

namespace Statement

/-- The expression that a statement assigns to names, if that is all it does and it is literal. -/
def literal? : Statement → Option Expression
  | .assign (first :: more) value =>
      if first.isName && more.all Target.isName && value.isLiteral then some value else none
  | _ => none

end Statement

/-- An interpreter: the most brackets that may be open at once in a file, the literal expressions
that it has room for, and what becomes of a file that is not literal.  Of those who write a file it
is known how many levels of a value they can go down.  Every interpreter has room for a hundred
levels and a sign. -/
structure Interpreter where
  mostBrackets : Nat
  takes : Expression → Bool
  mostLevels : Nat
  beyond : (mapName : String) → List Char → Execution
  brackets_le : 101 ≤ mostBrackets
  takes_of_depth_le : ∀ value : Expression, value.isLiteral = true → value.depth ≤ 101 →
    takes value = true

namespace Interpreter

/-- Carry out the statements of a literal file. -/
def runLiteral (interpreter : Interpreter) (mapName : String) (statements : List Statement)
    (values : List Expression) : Execution :=
  if values.all interpreter.takes then
    match Evaluation.run? (fun _ => none) mapName statements with
    | some assigned => .bound assigned
    | none => .failed
  else .failed

/-- Carry out a settings file in which a name already stands for an empty map. -/
def run (interpreter : Interpreter) (mapName : String) (characters : List Char) : Execution :=
  match Token.scan? .ascii characters with
  | none => interpreter.beyond mapName characters
  | some scan =>
      if scan.openBrackets ≠ 0 ∨ interpreter.mostBrackets < Token.deepest 0 scan.tokens then .failed
      else
        match Grammar.statements scan.tokens with
        | none => interpreter.beyond mapName characters
        | some statements =>
            match statements.mapM Statement.literal? with
            | none => interpreter.beyond mapName characters
            | some values => interpreter.runLiteral mapName statements values

end Interpreter
end DebugIndex
