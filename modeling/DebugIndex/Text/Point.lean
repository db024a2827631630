/-!
# Code points

A text can be given by code points.  Not every code point is that of a character:
surrogates, which come in pairs in another encoding, are not.
-/

namespace DebugIndex
namespace Text

def isSurrogate (point : Nat) : Bool :=
  0xd800 ≤ point && point ≤ 0xdfff

/-- The character of a code point; a surrogate becomes the replacement character. -/
def characterOf (point : Nat) : Char :=
  if isSurrogate point then '\ufffd' else Char.ofNat point

def pointsOf (text : String) : List Nat :=
  text.toList.map Char.toNat

/-- A text that is not one of characters alone: a surrogate is among its code points. -/
structure Raw where
  points : List Nat
  surrogate : points.any isSurrogate = true
  inRange : ∀ point ∈ points, point ≤ 0x10ffff

@[simp]
theorem isSurrogate_toNat (character : Char) : isSurrogate character.toNat = false := by
  have valid := character.valid
  have same : character.val.toNat = character.toNat := rfl
  simp only [UInt32.isValidChar, Nat.isValidChar, same] at valid
  simp only [isSurrogate, Bool.and_eq_false_iff, decide_eq_false_iff_not]
  omega

@[simp]
theorem any_isSurrogate_pointsOf (text : String) : (pointsOf text).any isSurrogate = false := by
  simp [pointsOf, isSurrogate_toNat]

@[simp]
theorem characterOf_toNat (character : Char) : characterOf character.toNat = character := by
  simp [characterOf, isSurrogate_toNat]

@[simp]
theorem map_characterOf_pointsOf (text : String) :
    (pointsOf text).map characterOf = text.toList := by
  rw [pointsOf, List.map_map]
  exact (List.map_congr_left fun character _ => characterOf_toNat character).trans
    (List.map_id' text.toList)

end Text
end DebugIndex
