import DebugIndex.FileSystem
import DebugIndex.SourceStatus
import DebugIndex.Text.Encoding
import DebugIndex.Text.Quoted
import DebugIndex.Value.Basic

/-!
# Source text

A source file is inspected, read and split into lines.  Carriage returns are
dropped, and the last line is ended if it is not, so that every line ends in a
newline and the lines joined with their newlines are the text.
-/

namespace DebugIndex

/-- Why a value names no encoding, or bytes are no text in the one that it names. -/
inductive EncodingError
  | unknown (name : String)
  | embeddedNull
  | surrogates (points : List Nat)
  | notText (value : Value)
  | undecodable (fault : Text.CodecFault)

namespace EncodingError

/-- Where the first surrogate of a text stands, and how many surrogates stand there
side by side. -/
def surrogatesOf (points : List Nat) : Nat × Nat :=
  let position := points.findIdx Text.isSurrogate
  (position, ((points.drop position).takeWhile Text.isSurrogate).length)

/-- What is said about the first surrogates of a text: a single one is shown. -/
def surrogateMessage (points : List Nat) : String :=
  let (position, count) := surrogatesOf points
  let place :=
    if count = 1 then
      "character " ++ Text.quotedPoints ((points.drop position).take 1) ++ " in position " ++
        Numeral.decimal position
    else
      "characters in position " ++ Numeral.decimal position ++ "-" ++
        Numeral.decimal (position + count - 1)
  "'utf-8' codec can't encode " ++ place ++ ": surrogates not allowed"

/-- The wording of the failure. -/
def message : EncodingError → String
  | .unknown name => "unknown encoding: " ++ name
  | .embeddedNull => "embedded null character"
  | .surrogates points => surrogateMessage points
  | .notText .null => "decode() argument 'encoding' must be str, not None"
  | .notText value => "decode() argument 'encoding' must be str, not " ++ value.kind
  | .undecodable fault => fault.message

end EncodingError

namespace SourceText

def codecOf (codecs : Text.Codecs) : Value → Except EncodingError Text.Codec
  | .text name =>
      if name.contains '\x00' then .error .embeddedNull
      else
        match codecs.find? name with
        | some codec => .ok codec
        | none => .error (.unknown name)
  | .rawText raw => .error (.surrogates raw.points)
  | value => .error (.notText value)

/-- Inspect a source file: its status, and its modification time if it could be
inspected.  A file newer than the executable is outdated; without a time for the
executable none is. -/
def check (files : FileSystem) (path : String) (executableModified : Option Int) :
    SourceStatus × Option Int :=
  match files.inspect path with
  | .error .notFound => (.noFile, none)
  | .error _ => (.noFileInfo, none)
  | .ok node =>
      if executableModified.any (· < node.modified) then (.outdatedFile, some node.modified)
      else (.ok, some node.modified)

/-- The bytes of a source file without carriage returns, the last line ended. -/
def normalize (content : List UInt8) : List UInt8 :=
  let kept := content.filter (· ≠ 13)
  if kept.isEmpty || kept.getLast? = some 10 then kept else kept ++ [10]

/-- The lines of a text in which every line ends in a newline. -/
def linesOf (text : List Char) : List (List Char) :=
  (text.splitOn '\n').dropLast

/-- The text and the lines of a file's bytes.  The encoding is looked at only if
there is something to decode. -/
def ofBytes (codecs : Text.Codecs) (content : List UInt8) (encoding : Value) :
    Except EncodingError (List Char × List (List Char)) :=
  let normal := normalize content
  if normal.isEmpty then .ok ([], [])
  else
    (codecOf codecs encoding).bind fun codec =>
      match codec normal with
      | .ok text => .ok (text, linesOf text)
      | .error fault => .error (.undecodable fault)

/-- The text of a source file and its lines. -/
structure Loaded where
  text : String
  lines : List String

/-- Read a source file; none if it can not be read. -/
def load? (codecs : Text.Codecs) (files : FileSystem) (path : String) (encoding : Value) :
    Except EncodingError (Option Loaded) :=
  match files.read path with
  | .error _ => .ok none
  | .ok content =>
      (ofBytes codecs content encoding).map fun loaded =>
        some ⟨String.ofList loaded.1, loaded.2.map String.ofList⟩

end SourceText
end DebugIndex
