import DebugIndex.Session

/-!
# Executables

An executable is a file whose content a reader understands.  Opening it gives
its real path, its modification time and its debug information, if there is any;
a session with its database is started from these.
-/

namespace DebugIndex

/-- How the content of an executable is read. -/
abbrev ImageReader := List UInt8 → Except Fault Image

/-- An executable that has been opened. -/
structure Executable where
  path : String
  modified : Int
  byteOrder : ByteOrder
  debugInformation : Option DebugInformation

namespace Executable

/-- The debug information of an image; information without units proper counts as none. -/
def informationOf (image : Image) : Except Fault (Option DebugInformation) :=
  match image.debugInformation with
  | none => .ok none
  | some (.error fault) => .error fault
  | some (.ok information) => .ok (if information.present then some information else none)

def byteOrderOf (image : Image) : ByteOrder :=
  if image.littleEndian then .little else .big

def openAt (files : FileSystem) (read : ImageReader) (path : String) :
    Except OpenError Executable :=
  if path.contains '\x00' then .error (.file .embeddedNull path)
  else
    let real := files.absolute path
    match files.openFile real with
    | .error failure => .error (.file failure real)
    | .ok (content, modified) =>
        match read content with
        | .error fault => .error (.reader fault)
        | .ok image =>
            match informationOf image with
            | .error fault => .error (.reader fault)
            | .ok information => .ok ⟨real, modified, byteOrderOf image, information⟩

def hasDebugInformation (executable : Executable) : Bool :=
  executable.debugInformation.isSome

/-- The units of an executable as the reader delivers them. -/
def imageUnits (executable : Executable) : Feed ImageUnit :=
  match executable.debugInformation with
  | some information => information.units
  | none => ⟨[], none⟩

def units (executable : Executable) : Feed UnitSource :=
  ⟨executable.imageUnits.items.map fun unit => unit.source executable.byteOrder,
    executable.imageUnits.fault⟩

def text (executable : Executable) : String :=
  "ElfDebugInfoSource(" ++ executable.path ++ ")"

/-- The failure of opening: what the system or the format says is told with the
path, anything else is passed on. -/
def openFailure (path : String) (cause : OpenError) : Failure :=
  match cause with
  | .file failure real =>
      if failure.isReported then .unopened path cause else .file failure real
  | .reader fault =>
      if fault.isMalformed || fault.kind = .system then .unopened path cause else .reader fault

/-- The failure of reading: malformed debug information is told with the path. -/
def readFailure (path : String) (failure : Failure) : Failure :=
  match failure with
  | .reader fault => if fault.isMalformed then .unreadable path fault else .reader fault
  | other => other

/-- Open the executable at a path, if it has debug information. -/
def openDescribed (files : FileSystem) (read : ImageReader) (path : String) :
    Except Failure Executable :=
  match openAt files read path with
  | .error cause => .error (openFailure path cause)
  | .ok executable =>
      if executable.hasDebugInformation then .ok executable
      else .error (.noDebugInformation executable.path)

/-- Start a session with the database of an executable that was opened by a path. -/
def start (executable : Executable) (path : String) (request : Session.Request) :
    Report Session :=
  (Session.start { request with executableModified := some executable.modified }
    executable.units).mapFailure (readFailure path)

def openSession (files : FileSystem) (read : ImageReader) (path : String)
    (request : Session.Request) : Report Session :=
  (Report.ofExcept id (openDescribed files read path)).bind fun executable =>
    executable.start path request

end Executable
end DebugIndex
