import DebugIndex.CommandLine.Run
import DebugIndex.Reader.Identification
import DebugIndex.Settings.Standard

/-!
# The program

The files that the arguments and the settings name are read, the run is worked
out, and what it says is printed.
-/

namespace DebugIndex
namespace Main

/-- The content of a file, if it can be read. -/
def content? (path : String) : IO (Option (List UInt8)) := do
  try
    let bytes ← IO.FS.readBinFile path
    pure (some bytes.toList)
  catch _ => pure none

/-- The files with the one at a path, if it can be read. -/
def observe (files : FileSystem) (path : String) : IO FileSystem := do
  match ← content? path with
  | none => pure files
  | some content =>
      let place := (FileSystem.components path).foldl FileSystem.normalStep (files.origin path)
      pure ((files.makeDirectories 0 place.dropLast).place place (.file content 0))

/-- The file that the arguments name, if they make sense. -/
def fileOf (arguments : List String) : Option String :=
  match CommandLine.parse arguments with
  | .ok (.goOn options) =>
      match options.file with
      | some (.value path) => some path
      | _ => none
  | _ => none

def runOnDisk (arguments : List String) : IO (Except Failure CommandLine.Finished) := do
  let current ← IO.currentDir
  let home := (← IO.getEnv "HOME").getD ""
  let settingsPath := home ++ "/.dwarf_symdb.conf"
  let root : FileSystem := {}
  let directory := (FileSystem.components current.toString).foldl FileSystem.normalStep []
  let empty := { root.makeDirectories 0 directory with workingDirectory := directory }
  let settled ← observe empty settingsPath
  let files ← observe settled ((fileOf arguments).getD "")
  pure (CommandLine.run ⟨files, settingsPath, .standard, Identification.read, "0.000s"⟩ arguments)

end Main
end DebugIndex

def main (arguments : List String) : IO UInt32 := do
  match ← DebugIndex.Main.runOnDisk arguments with
  | .ok finished =>
      IO.print finished.output
      IO.eprint finished.errors
      pure finished.exitCode.toUInt32
  | .error failure =>
      IO.eprintln failure.message
      pure 1
