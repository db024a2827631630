/-!
# Bytes read as UTF-8

Reading goes byte by byte.  Between two bytes the reader is either at a
character boundary or inside a character, where it knows the bits gathered so
far, how many bytes are owed and the range of the next byte.  A byte outside
that range closes the malformed part and is read again at a boundary, so every
malformed part is a maximal prefix of a well-formed character.
-/

namespace DebugIndex
namespace Text
namespace Utf8

/-- Why a part of the bytes is no character. -/
inductive Malformation
  | badStart
  | badContinuation
  | endOfData
  deriving DecidableEq, Repr

def Malformation.description : Malformation → String
  | .badStart => "invalid start byte"
  | .badContinuation => "invalid continuation byte"
  | .endOfData => "unexpected end of data"

/-- What one stretch of bytes turned out to be: a character, or a malformed part
with its length in bytes. -/
inductive Piece
  | scalar (character : Char)
  | malformed (length : Nat) (reason : Malformation)
  deriving DecidableEq, Repr

/-- The reader between two bytes. -/
inductive State
  | boundary
  | inside (bits taken owed : Nat) (low high : UInt8)
  deriving DecidableEq, Repr

def start (byte : UInt8) : List Piece × State :=
  if byte < 0x80 then ([.scalar (Char.ofNat byte.toNat)], .boundary)
  else if byte < 0xc2 then ([.malformed 1 .badStart], .boundary)
  else if byte < 0xe0 then ([], .inside (byte.toNat - 0xc0) 1 1 0x80 0xbf)
  else if byte < 0xf0 then
    ([], .inside (byte.toNat - 0xe0) 1 2
      (if byte = 0xe0 then 0xa0 else 0x80) (if byte = 0xed then 0x9f else 0xbf))
  else if byte < 0xf5 then
    ([], .inside (byte.toNat - 0xf0) 1 3
      (if byte = 0xf0 then 0x90 else 0x80) (if byte = 0xf4 then 0x8f else 0xbf))
  else ([.malformed 1 .badStart], .boundary)

def advance : State → UInt8 → List Piece × State
  | .boundary, byte => start byte
  | .inside bits taken owed low high, byte =>
      if low ≤ byte ∧ byte ≤ high then
        let gathered := bits * 64 + (byte.toNat - 0x80)
        if owed ≤ 1 then ([.scalar (Char.ofNat gathered)], .boundary)
        else ([], .inside gathered (taken + 1) (owed - 1) 0x80 0xbf)
      else
        let restarted := start byte
        (.malformed taken .badContinuation :: restarted.1, restarted.2)

def piecesFrom : State → List UInt8 → List Piece
  | .boundary, [] => []
  | .inside _ taken _ _ _, [] => [.malformed taken .endOfData]
  | state, byte :: rest =>
      let advanced := advance state byte
      advanced.1 ++ piecesFrom advanced.2 rest

def pieces (bytes : List UInt8) : List Piece :=
  piecesFrom .boundary bytes

/-- The characters of the bytes, one replacement character for each malformed part. -/
def decodeLossy (bytes : List UInt8) : List Char :=
  (pieces bytes).map fun
    | .scalar character => character
    | .malformed _ _ => '\ufffd'

/-- The first malformed part: its bytes, the position of its first byte, and the reason. -/
structure Defect where
  bytes : List UInt8
  position : Nat
  reason : Malformation
  deriving DecidableEq, Repr

/-- Read on from a position, refusing the first malformed part. -/
def decodePieces (bytes : List UInt8) : Nat → List Piece → Except Defect (List Char)
  | _, [] => .ok []
  | position, .scalar character :: rest =>
      (decodePieces bytes (position + character.utf8Size) rest).map (character :: ·)
  | position, .malformed length reason :: _ =>
      .error ⟨(bytes.drop position).take length, position, reason⟩

/-- The characters of well-formed bytes, or the first defect. -/
def decode (bytes : List UInt8) : Except Defect (List Char) :=
  decodePieces bytes 0 (pieces bytes)

def encode (text : String) : List UInt8 :=
  text.toUTF8.toList

end Utf8
end Text
end DebugIndex
