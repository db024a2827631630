import DebugIndex.CommandLine.Options

/-!
# Texts of the command line

What the program says about itself and about arguments that make no sense.
-/

namespace DebugIndex
namespace CommandLine

def programName : String := "dwarf-symdb"

def versionText : String := "DWARF symbol database (" ++ programName ++ ") version 0.1.0"

/-- The shortest description of the arguments. -/
def usageLine : String :=
  "usage: " ++ programName ++ " [-h] -f elf_file [-I dir] [-a address] [--verbose] [-v]\n"

/-- The description of the program and its options. -/
def helpText : String :=
  usageLine ++
    "\nQuery the DWARF debug symbols of an ELF file\n" ++
    "\noptions:\n" ++
    "  -h, --help            show this help message and exit\n" ++
    "  -f elf_file, --file elf_file\n" ++
    "  -I dir, --search-path dir\n" ++
    "                        Directory to search for sources of units without a\n" ++
    "                        compilation dir\n" ++
    "  -a address, --addr address\n" ++
    "                        Code address to describe\n" ++
    "  --verbose\n" ++
    "  -v, --version         show program's version number and exit\n"

/-- What is said about arguments that make no sense. -/
def errorText (error : UsageError) : String :=
  usageLine ++ programName ++ ": error: " ++ error.message ++ "\n"

end CommandLine
end DebugIndex
