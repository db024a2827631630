import DebugIndex.Text.Utf8

/-!
# Text encodings

Three encodings are known everywhere.  Bytes that one of them does not know become replacement
characters; Latin-1 knows all bytes.  Which other codecs there are depends on where the program
runs, and so does what they make of bytes.
-/

namespace DebugIndex
namespace Text

/-- An encoding of text as bytes. -/
inductive Encoding
  | latin1
  | utf8
  | ascii
  deriving DecidableEq, Repr

/-- Why a codec makes no text of bytes: the kind of its failure and what it says. -/
structure CodecFault where
  kind : String
  message : String

/-- What a codec makes of bytes, which it may refuse. -/
abbrev Codec := List UInt8 → Except CodecFault (List Char)

namespace Encoding

def mainNames : Encoding → List String
  | .latin1 => ["latin_1", "iso8859_1"]
  | .utf8 => ["utf_8"]
  | .ascii => ["ascii"]

/-- The other names of an encoding. -/
def aliases : Encoding → List String
  | .latin1 =>
      ["latin1", "latin", "l1", "iso8859_1", "iso8859", "iso_8859_1", "8859", "cp819",
        "csisolatin1", "ibm819", "iso_8859_1_1987", "iso_ir_100"]
  | .utf8 => ["utf8", "utf", "u8", "utf8_ucs2", "utf8_ucs4", "cp65001"]
  | .ascii =>
      ["us_ascii", "us", "646", "ansi_x3.4_1968", "ansi_x3_4_1968", "ansi_x3.4_1986", "cp367",
        "csascii", "ibm367", "iso646_us", "iso_646.irv_1991", "iso_ir_6"]

/-- Whether a character counts in the name of an encoding: a letter or digit of ASCII, or a
point. -/
def inName (character : Char) : Bool :=
  character.isAlphanum || character = '.'

/-- The characters of a name that count, in small letters, with a line for whatever stands between
two of them. -/
def joined (apart : Bool) : List Char → List Char
  | [] => []
  | character :: rest =>
      if inName character then
        (if apart then ['_', character.toLower] else [character.toLower]) ++ joined false rest
      else joined true rest

def comparable (name : String) : String :=
  String.ofList (joined false (name.toList.dropWhile (!inName ·)))

/-- Whether an encoding has a name.  In other names than the main ones a point can stand for a
line. -/
def hasName (encoding : Encoding) (name : String) : Bool :=
  encoding.mainNames.contains name || encoding.aliases.contains name ||
    encoding.aliases.contains (name.map fun character => if character = '.' then '_' else character)

def ofName? (name : String) : Option Encoding :=
  [latin1, utf8, ascii].find? (·.hasName (comparable name))

/-- The characters that the bytes stand for. -/
def decode : Encoding → List UInt8 → List Char
  | .latin1, bytes => bytes.map fun byte => Char.ofNat byte.toNat
  | .utf8, bytes => Utf8.decodeLossy bytes
  | .ascii, bytes => bytes.map fun byte =>
      if byte < 0x80 then Char.ofNat byte.toNat else '\ufffd'

def codec (encoding : Encoding) : Codec :=
  fun bytes => .ok (encoding.decode bytes)

end Encoding

/-- The codecs that there are besides those of the known encodings. -/
structure Codecs where
  others : String → Option Codec := fun _ => none

namespace Codecs

def find? (codecs : Codecs) (name : String) : Option Codec :=
  match Encoding.ofName? name with
  | some encoding => some encoding.codec
  | none => codecs.others name

end Codecs
end Text
end DebugIndex
