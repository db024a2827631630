import DebugIndex.Text.Quoted
import DebugIndex.Text.Utf8

/-!
# File systems

A file system is a tree of directories and files with modification times, and a
working directory.  A path is followed one component at a time, so every step
but the last has to be a directory.  There are no links.  What the tree allows the
system can still refuse, for want of permission or of room, or because a disk is
broken; and what it has begun to write it can break off.
-/

namespace DebugIndex

/-- What the system says when it refuses something that is there.  That nothing is there, which has
the number two, the tree tells. -/
structure SystemError where
  number : Nat
  reason : String
  number_ne_two : number ≠ 2 := by decide
  deriving DecidableEq

namespace SystemError

def message (cause : SystemError) : String :=
  "[Errno " ++ Numeral.decimal cause.number ++ "] " ++ cause.reason

end SystemError

/-- Why a path leads to nothing usable.  The system can refuse to look at what is there or to
open it, and it can break off what is read or written once it is open. -/
inductive FileError
  | notFound
  | notADirectory
  | isADirectory
  | nameTooLong
  | embeddedNull
  | refused (cause : SystemError)
  | interrupted (cause : SystemError)
  deriving DecidableEq

namespace FileError

def message (failure : FileError) (path : String) : String :=
  match failure with
  | .notFound => "[Errno 2] No such file or directory: " ++ Text.quoted path
  | .notADirectory => "[Errno 20] Not a directory: " ++ Text.quoted path
  | .isADirectory => "[Errno 21] Is a directory: " ++ Text.quoted path
  | .nameTooLong => "[Errno 36] File name too long: " ++ Text.quoted path
  | .embeddedNull => "embedded null byte"
  | .refused cause => cause.message ++ ": " ++ Text.quoted path
  | .interrupted cause => cause.message

/-- Whether the system reported the failure; a path with a null byte never
reaches the system. -/
def isReported (failure : FileError) : Bool :=
  failure ≠ .embeddedNull

end FileError

/-- A directory or a file. -/
inductive Node
  | directory (modified : Int)
  | file (content : List UInt8) (modified : Int)
  deriving DecidableEq

namespace Node

def modified : Node → Int
  | .directory modified => modified
  | .file _ modified => modified

end Node

/-- What the system refuses besides what the tree forbids: to look at a path, to open it for
reading or for writing, to go on reading, and to go on writing a content once so many bytes of it
have been kept. -/
structure Obstacles where
  inspecting : String → Option SystemError := fun _ => none
  opening : String → Option SystemError := fun _ => none
  rewriting : String → Option SystemError := fun _ => none
  reading : String → Option SystemError := fun _ => none
  writing : String → List UInt8 → Option (Nat × SystemError) := fun _ _ => none

/-- A tree of directories and files, each under the list of the names that lead
to it from the root, the names that lead to the working directory, and what stands in the way. -/
structure FileSystem where
  workingDirectory : List String := []
  rootModified : Int := 0
  nodes : List (List String × Node) := []
  obstacles : Obstacles := {}

namespace FileSystem

/-- The components of a path, empty ones included. -/
def components (path : String) : List String :=
  (path.toList.splitOn '/').map String.ofList

/-- The node at a place; the root is always a directory. -/
def node? (files : FileSystem) (place : List String) : Option Node :=
  if place.isEmpty then some (.directory files.rootModified) else files.nodes.lookup place

def origin (files : FileSystem) (path : String) : List String :=
  if path.startsWith "/" then [] else files.workingDirectory

def follow (files : FileSystem) : List String → List String → Except FileError (List String)
  | place, [] => .ok place
  | place, component :: rest =>
      match files.node? place with
      | none => .error .notFound
      | some (.file _ _) => .error .notADirectory
      | some (.directory _) =>
          if component = "" ∨ component = "." then follow files place rest
          else if component = ".." then follow files place.dropLast rest
          else if 255 < component.utf8ByteSize then .error .nameTooLong
          else
            match files.node? (place ++ [component]) with
            | none => .error .notFound
            | some _ => follow files (place ++ [component]) rest

/-- Refuse a path that the system does not even look at. -/
def accept (path : String) : Except FileError Unit :=
  if path.contains '\x00' then .error .embeddedNull
  else if path.isEmpty then .error .notFound
  else if 4096 ≤ path.utf8ByteSize then .error .nameTooLong
  else .ok ()

/-- What the system refuses, as a failure. -/
def allow (obstacle : Option SystemError) : Except FileError Unit :=
  match obstacle with
  | some cause => .error (.refused cause)
  | none => .ok ()

def inspect (files : FileSystem) (path : String) : Except FileError Node := do
  accept path
  allow (files.obstacles.inspecting path)
  let place ← files.follow (files.origin path) (components path)
  match files.node? place with
  | some node => .ok node
  | none => .error .notFound

def has (files : FileSystem) (path : String) : Bool :=
  (files.inspect path).isOk

/-- The file that a path leads to, opened for reading: its content and modification time. -/
def openFile (files : FileSystem) (path : String) : Except FileError (List UInt8 × Int) := do
  match ← files.inspect path with
  | .directory _ => .error .isADirectory
  | .file content modified =>
      allow (files.obstacles.opening path)
      .ok (content, modified)

def read (files : FileSystem) (path : String) : Except FileError (List UInt8) := do
  let (content, _) ← files.openFile path
  match files.obstacles.reading path with
  | some cause => .error (.interrupted cause)
  | none => .ok content

def place (files : FileSystem) (names : List String) (node : Node) : FileSystem :=
  { files with nodes := (names, node) :: files.nodes.filter fun entry => entry.1 ≠ names }

/-- Make a directory at a place, with those above it that are missing. -/
def makeDirectories (files : FileSystem) (modified : Int) (names : List String) : FileSystem :=
  (List.range names.length).foldl
    (fun made index =>
      let above := names.take (index + 1)
      if (made.node? above).isSome then made else made.place above (.directory modified))
    files

/-- The place of a file that comes into being under a path, if its directory exists. -/
def placeToCreate (files : FileSystem) (path : String) : Except FileError (List String) := do
  accept path
  let parts := components path
  let name := parts.getLastD ""
  let above ← files.follow (files.origin path) (parts.dropLast ++ ["."])
  if name = "" then .error .isADirectory else .ok (above ++ [name])

/-- The place of the file that a path leads to once it is opened for writing. -/
def placeToWrite (files : FileSystem) (path : String) : Except FileError (List String) := do
  let names ←
    match files.inspect path with
    | .ok (.directory _) => .error .isADirectory
    | .ok (.file _ _) => files.follow (files.origin path) (components path)
    | .error .notFound => files.placeToCreate path
    | .error failure => .error failure
  allow (files.obstacles.rewriting path)
  .ok names

def kept (files : FileSystem) (path : String) (content : List UInt8) : List UInt8 :=
  match files.obstacles.writing path content with
  | some (length, _) => content.take length
  | none => content

/-- Whether a content is written to its end under a path. -/
def finish (files : FileSystem) (path : String) (content : List UInt8) : Except FileError Unit :=
  match files.obstacles.writing path content with
  | some (_, cause) => .error (.interrupted cause)
  | none => .ok ()

/-- Write a whole file, which comes into being if its directory exists.  What has been kept of a
file that is broken off stays there. -/
def write (files : FileSystem) (path : String) (content : List UInt8) (modified : Int) :
    FileSystem × Except FileError Unit :=
  match files.placeToWrite path with
  | .error failure => (files, .error failure)
  | .ok names =>
      (files.place names (.file (files.kept path content) modified), files.finish path content)

/-- One component of a path, read without looking at the tree. -/
def normalStep (place : List String) (component : String) : List String :=
  if component = "" ∨ component = "." then place
  else if component = ".." then place.dropLast
  else place ++ [component]

/-- The absolute form of a path, without empty components, `.` and `..`. -/
def absolute (files : FileSystem) (path : String) : String :=
  "/" ++ "/".intercalate ((components path).foldl normalStep (files.origin path))

end FileSystem
end DebugIndex
