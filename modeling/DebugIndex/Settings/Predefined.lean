import DebugIndex.Settings.Datum

/-!
# Predefined names

The names that a settings file can use without assigning them.  Most stand for objects
that settings have no use for, but a file that mentions them makes sense.
-/

namespace DebugIndex
namespace Predefined

def types : List String :=
  ["ArithmeticError", "AssertionError", "AttributeError", "BaseException", "BaseExceptionGroup",
    "BlockingIOError", "BrokenPipeError", "BufferError", "BytesWarning", "ChildProcessError",
    "ConnectionAbortedError", "ConnectionError", "ConnectionRefusedError", "ConnectionResetError",
    "DeprecationWarning", "EOFError", "EncodingWarning", "Exception", "ExceptionGroup",
    "FileExistsError", "FileNotFoundError", "FloatingPointError", "FutureWarning",
    "GeneratorExit", "ImportError", "ImportWarning", "IndentationError", "IndexError",
    "InterruptedError", "IsADirectoryError", "KeyError", "KeyboardInterrupt", "LookupError",
    "MemoryError", "ModuleNotFoundError", "NameError", "NotADirectoryError",
    "NotImplementedError", "OSError", "OverflowError", "PendingDeprecationWarning",
    "PermissionError", "ProcessLookupError", "RecursionError", "ReferenceError",
    "ResourceWarning", "RuntimeError", "RuntimeWarning", "StopAsyncIteration", "StopIteration",
    "SyntaxError", "SyntaxWarning", "SystemError", "SystemExit", "TabError", "TimeoutError",
    "TypeError", "UnboundLocalError", "UnicodeDecodeError", "UnicodeEncodeError", "UnicodeError",
    "UnicodeTranslateError", "UnicodeWarning", "UserWarning", "ValueError", "Warning",
    "ZeroDivisionError", "bool", "bytearray", "bytes", "classmethod", "complex", "dict",
    "enumerate", "filter", "float", "frozenset", "int", "list", "map", "memoryview", "object",
    "property", "range", "reversed", "set", "slice", "staticmethod", "str", "super", "tuple",
    "type", "zip"]

def functions : List String :=
  ["__build_class__", "__import__", "abs", "aiter", "all", "anext", "any", "ascii", "bin",
    "breakpoint", "callable", "chr", "compile", "delattr", "dir", "divmod", "eval", "exec",
    "format", "getattr", "globals", "hasattr", "hash", "hex", "id", "input", "isinstance",
    "issubclass", "iter", "len", "locals", "max", "min", "next", "oct", "open", "ord", "pow",
    "print", "repr", "round", "setattr", "sorted", "sum", "vars"]

/-- The types that can have items, which are types again. -/
def familyNames : List String :=
  ["BaseExceptionGroup", "ExceptionGroup", "dict", "enumerate", "frozenset", "list", "set", "tuple",
    "type"]

def typeNamed (name : String) : Value :=
  .object "type" ("<class '" ++ name ++ "'>")

def functionNamed (name : String) : Value :=
  .object "builtin_function_or_method" ("<built-in function " ++ name ++ ">")

/-- What a name stands for that is neither a type nor a function. -/
def other? (name : String) : Option Value :=
  match name with
  | "None" => some .null
  | "True" => some (.bool true)
  | "False" => some (.bool false)
  | "Ellipsis" => some Value.ellipsis
  | "NotImplemented" => some (.object "NotImplementedType" "NotImplemented")
  | "EnvironmentError" | "IOError" => some (typeNamed "OSError")
  | "__name__" => some (.text "builtins")
  | "__package__" => some (.text "")
  | _ => none

/-- What a name stands for that has not been assigned. -/
def value? (name : String) : Option Value :=
  if types.contains name then some (typeNamed name)
  else if functions.contains name then some (functionNamed name)
  else other? name

/-- How an item of a type is written: types and functions by their names. -/
def parameter (value : Value) : String :=
  match value with
  | .object kind shown =>
      let named (name : String) : Bool :=
        (typeNamed name).same (.object kind shown) || (functionNamed name).same (.object kind shown)
      if value.same Value.ellipsis then "..." else ((types ++ functions).find? named).getD shown
  | value => value.written

def member? (container index : Datum) : Option Datum :=
  (familyNames.find? fun name => (typeNamed name).same container.value).map fun name =>
    let parameters := match index with
      | .tuple [] => "()"
      | .tuple items => ", ".intercalate ((Datum.values items).map parameter)
      | single => parameter single.value
    .scalar (.object "GenericAlias" (name ++ "[" ++ parameters ++ "]"))

end Predefined
end DebugIndex
