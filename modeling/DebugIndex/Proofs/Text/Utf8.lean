import DebugIndex.Text.Utf8

/-!
# Text written as UTF-8

Each character is written as one to four bytes.  A reader at a boundary that comes upon them
reads the character and is at a boundary again, so what has been written is read back.
-/

namespace DebugIndex
namespace Text
namespace Utf8

/-! ## The bytes of a text -/

theorem toList_loop_eq (bytes : ByteArray) (position : Nat) (gathered : List UInt8) :
    ByteArray.toList.loop bytes position gathered =
      gathered.reverse ++ bytes.data.toList.drop position := by
  induction position, gathered using ByteArray.toList.loop.induct bytes with
  | case1 position gathered inside ih =>
      have listed : position < bytes.data.toList.length := by simpa using inside
      have given : bytes.get! position = bytes.data.toList[position] := by
        simp [ByteArray.get!, getElem!_pos, inside]
      rw [ByteArray.toList.loop, if_pos inside, ih, List.drop_eq_getElem_cons listed, given]
      simp
  | case2 position gathered outside =>
      have ended : bytes.data.toList.length ≤ position := by simpa using outside
      rw [ByteArray.toList.loop, if_neg outside, List.drop_eq_nil_of_le ended, List.append_nil]

theorem encode_eq_flatMap (text : String) :
    encode text = text.toList.flatMap String.utf8EncodeChar := by
  have whole : text.toUTF8 = (text.toList.flatMap String.utf8EncodeChar).toByteArray :=
    String.utf8Encode_toList.symm
  rw [encode, ByteArray.toList, toList_loop_eq, whole]
  simp

/-! ## Reading a character -/

variable {byte low high : UInt8} {bits taken owed number : Nat} {rest : List UInt8}

theorem start_of_one (small : byte.toNat < 0x80) :
    start byte = ([.scalar (Char.ofNat byte.toNat)], .boundary) := by
  simp [start, UInt8.lt_iff_toNat_lt, small]

theorem start_of_two (given : byte.toNat = number + 0xc0) (least : 2 ≤ number)
    (most : number < 0x20) : start byte = ([], .inside number 1 1 0x80 0xbf) := by
  have beyondOne : ¬ number + 0xc0 < 0x80 := by omega
  have started : ¬ number + 0xc0 < 0xc2 := by omega
  have two : number + 0xc0 < 0xe0 := by omega
  simp [start, UInt8.lt_iff_toNat_lt, given, beyondOne, started, two]

theorem start_of_three (given : byte.toNat = number + 0xe0) (most : number < 0x10) :
    start byte =
      ([], .inside number 1 2 (if number = 0 then 0xa0 else 0x80)
        (if number = 0xd then 0x9f else 0xbf)) := by
  have beyondOne : ¬ number + 0xe0 < 0x80 := by omega
  have started : ¬ number + 0xe0 < 0xc2 := by omega
  have three : number + 0xe0 < 0xf0 := by omega
  simp [start, UInt8.lt_iff_toNat_lt, ← UInt8.toNat_inj, given, beyondOne, started, three]

theorem start_of_four (given : byte.toNat = number + 0xf0) (most : number < 5) :
    start byte =
      ([], .inside number 1 3 (if number = 0 then 0x90 else 0x80)
        (if number = 4 then 0x8f else 0xbf)) := by
  have beyondOne : ¬ number + 0xf0 < 0x80 := by omega
  have started : ¬ number + 0xf0 < 0xc2 := by omega
  have beyondTwo : ¬ number + 0xf0 < 0xe0 := by omega
  have four : number + 0xf0 < 0xf5 := by omega
  simp [start, UInt8.lt_iff_toNat_lt, ← UInt8.toNat_inj, given, beyondOne, started, beyondTwo, four]

theorem piecesFrom_inside (given : byte.toNat = number + 0x80) (least : low.toNat ≤ number + 0x80)
    (most : number + 0x80 ≤ high.toNat) :
    piecesFrom (.inside bits taken (owed + 2) low high) (byte :: rest) =
      piecesFrom (.inside (bits * 64 + number) (taken + 1) (owed + 1) 0x80 0xbf) rest := by
  have within : low ≤ byte ∧ byte ≤ high := by
    rw [UInt8.le_iff_toNat_le, UInt8.le_iff_toNat_le, given]
    exact ⟨least, most⟩
  simp [piecesFrom, advance, within, given]

theorem piecesFrom_last (given : byte.toNat = number + 0x80) (small : number < 0x40) :
    piecesFrom (.inside bits taken 1 0x80 0xbf) (byte :: rest) =
      .scalar (Char.ofNat (bits * 64 + number)) :: piecesFrom .boundary rest := by
  have within : 0x80 ≤ byte ∧ byte ≤ 0xbf := by
    rw [UInt8.le_iff_toNat_le, UInt8.le_iff_toNat_le, given]
    exact ⟨Nat.le_add_left _ _, Nat.add_le_add_right (Nat.le_of_lt_succ small) 0x80⟩
  simp [piecesFrom, advance, within, given]

/-! ## The bytes of a character -/

theorem piecesFrom_boundary_cons (byte : UInt8) (rest : List UInt8) :
    piecesFrom .boundary (byte :: rest) = (start byte).1 ++ piecesFrom (start byte).2 rest := rfl

theorem toNat_byte {number : Nat} (small : number < 256) : (UInt8.ofNat number).toNat = number :=
  UInt8.toNat_ofNat_of_lt small

theorem toNat_ofNat_continuation (number : Nat) :
    (UInt8.ofNat (number % 0x40 + 0x80)).toNat = number % 0x40 + 0x80 :=
  toNat_byte (by omega)

variable {character : Char}

theorem piecesFrom_two (least : 0x80 ≤ character.toNat) (most : character.toNat < 0x800) :
    piecesFrom .boundary (UInt8.ofNat (character.toNat / 64 % 0x20 + 0xc0) ::
        UInt8.ofNat (character.toNat % 0x40 + 0x80) :: rest) =
      .scalar character :: piecesFrom .boundary rest := by
  have leading := start_of_two (toNat_byte (by omega) :
    (UInt8.ofNat (character.toNat / 64 % 0x20 + 0xc0)).toNat = _) (by omega) (by omega)
  have whole : character.toNat / 64 % 0x20 * 64 + character.toNat % 0x40 =
      character.toNat := by omega
  rw [piecesFrom_boundary_cons, leading, List.nil_append,
    piecesFrom_last (toNat_ofNat_continuation _) (by omega), whole, Char.ofNat_toNat]

theorem piecesFrom_three (least : 0x800 ≤ character.toNat) (most : character.toNat < 0x10000) :
    piecesFrom .boundary (UInt8.ofNat (character.toNat / 4096 % 0x10 + 0xe0) ::
        UInt8.ofNat (character.toNat / 64 % 0x40 + 0x80) ::
        UInt8.ofNat (character.toNat % 0x40 + 0x80) :: rest) =
      .scalar character :: piecesFrom .boundary rest := by
  have valid : character.toNat < 0xd800 ∨ 0xdfff < character.toNat ∧ character.toNat < 0x110000 :=
    character.valid
  have leading := start_of_three (toNat_byte (by omega) :
    (UInt8.ofNat (character.toNat / 4096 % 0x10 + 0xe0)).toNat = _) (by omega)
  have whole : (character.toNat / 4096 % 0x10 * 64 + character.toNat / 64 % 0x40) * 64 +
      character.toNat % 0x40 = character.toNat := by omega
  rw [piecesFrom_boundary_cons, leading, List.nil_append,
    piecesFrom_inside (toNat_ofNat_continuation _),
    piecesFrom_last (toNat_ofNat_continuation _) (by omega), whole, Char.ofNat_toNat]
  · split
    · show 0xa0 ≤ _
      omega
    · show 0x80 ≤ _
      omega
  · split
    · show _ ≤ 0x9f
      omega
    · show _ ≤ 0xbf
      omega

theorem piecesFrom_four (least : 0x10000 ≤ character.toNat) :
    piecesFrom .boundary (UInt8.ofNat (character.toNat / 262144 % 0x08 + 0xf0) ::
        UInt8.ofNat (character.toNat / 4096 % 0x40 + 0x80) ::
        UInt8.ofNat (character.toNat / 64 % 0x40 + 0x80) ::
        UInt8.ofNat (character.toNat % 0x40 + 0x80) :: rest) =
      .scalar character :: piecesFrom .boundary rest := by
  have valid : character.toNat < 0xd800 ∨ 0xdfff < character.toNat ∧ character.toNat < 0x110000 :=
    character.valid
  have leading := start_of_four (toNat_byte (by omega) :
    (UInt8.ofNat (character.toNat / 262144 % 0x08 + 0xf0)).toNat = _) (by omega)
  have whole : ((character.toNat / 262144 % 0x08 * 64 + character.toNat / 4096 % 0x40) * 64 +
      character.toNat / 64 % 0x40) * 64 + character.toNat % 0x40 = character.toNat := by
    omega
  rw [piecesFrom_boundary_cons, leading, List.nil_append,
    piecesFrom_inside (toNat_ofNat_continuation _), piecesFrom_inside (toNat_ofNat_continuation _),
    piecesFrom_last (toNat_ofNat_continuation _) (by omega), whole, Char.ofNat_toNat]
  · show 0x80 ≤ _
    omega
  · show _ ≤ 0xbf
    omega
  · split
    · show 0x90 ≤ _
      omega
    · show 0x80 ≤ _
      omega
  · split
    · show _ ≤ 0x8f
      omega
    · show _ ≤ 0xbf
      omega

/-- Whatever bytes come next, the bytes of a character are read as the character. -/
theorem piecesFrom_utf8EncodeChar (character : Char) (rest : List UInt8) :
    piecesFrom .boundary (String.utf8EncodeChar character ++ rest) =
      .scalar character :: piecesFrom .boundary rest := by
  have same : character.val.toNat = character.toNat := rfl
  simp only [String.utf8EncodeChar, same]
  split
  case isTrue one =>
    have byteOf : (UInt8.ofNat character.toNat).toNat = character.toNat :=
      toNat_byte (by omega)
    rw [List.singleton_append, piecesFrom_boundary_cons, start_of_one (by rw [byteOf]; omega),
      byteOf, Char.ofNat_toNat]
    rfl
  case isFalse beyondOne =>
    split
    case isTrue two => exact piecesFrom_two (by omega) (by omega)
    case isFalse beyondTwo =>
      split
      case isTrue three => exact piecesFrom_three (by omega) (by omega)
      case isFalse beyondThree => exact piecesFrom_four (by omega)

theorem decode_encode (text : String) : decode (encode text) = .ok text.toList := by
  have read (characters : List Char) :
      pieces (characters.flatMap String.utf8EncodeChar) = characters.map .scalar := by
    induction characters with
    | nil => rfl
    | cons character rest ih =>
        rw [List.flatMap_cons, pieces, piecesFrom_utf8EncodeChar, List.map_cons]
        exact congrArg _ ih
  have taken (bytes : List UInt8) (characters : List Char) (position : Nat) :
      decodePieces bytes position (characters.map .scalar) = .ok characters := by
    induction characters generalizing position with
    | nil => rfl
    | cons character rest ih => rw [List.map_cons, decodePieces, ih]; rfl
  rw [decode, encode_eq_flatMap, read, taken]

theorem encode_inj {first second : String} : encode first = encode second ↔ first = second := by
  refine ⟨fun same => ?_, congrArg encode⟩
  have decoded := congrArg decode same
  rw [decode_encode, decode_encode] at decoded
  exact String.toList_inj.mp (Except.ok.inj decoded)

end Utf8
end Text
end DebugIndex
