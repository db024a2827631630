import DebugIndex.Leb128
import Mathlib.Data.Int.ModEq
import Mathlib.Data.Nat.Digits.Defs
import Mathlib.Tactic.Ring

/-!
# Numbers in groups of seven bits

The bytes of a number are those up to the first one whose high bit is clear.  Read as digits to
the base 128, least significant first, they are the unsigned number; the signed one is congruent
to it modulo the power of two that the groups span, and lies around zero.  So every way to write
a number is read back, with as many groups as one likes and with anything behind it.
-/

namespace DebugIndex
namespace Leb128

/-- The bytes that a number is read from: those up to the first one with a clear high bit, or
all of them. -/
def encoded (bytes : List UInt8) : List UInt8 :=
  bytes.take ((bytes.takeWhile fun byte => 0x80 ≤ byte).length + 1)

/-- The number whose digits to the base 128 are the groups of bytes. -/
def positional (bytes : List UInt8) : Nat :=
  Nat.ofDigits 128 (bytes.map fun byte => byte.toNat % 128)

/-- The ways to write a number, by what a last byte stands for: all bytes but the last have the
high bit set, and a byte stands for its group and 128 times what follows. -/
inductive Encodes (ofLast : UInt8 → Int) : List UInt8 → Int → Prop
  | last {byte : UInt8} : byte < 0x80 → Encodes ofLast [byte] (ofLast byte)
  | more {byte : UInt8} {rest : List UInt8} {number : Int} :
      0x80 ≤ byte → Encodes ofLast rest number →
        Encodes ofLast (byte :: rest) ((byte.toNat % 128 : Nat) + 128 * number)

def unsignedLast (byte : UInt8) : Int :=
  byte.toNat

/-- What the last byte of a signed number stands for: bit 6 carries the sign. -/
def signedLast (byte : UInt8) : Int :=
  if byte < 0x40 then byte.toNat else (byte.toNat : Int) - 128

/-! ## Digits -/

section Digits

variable {byte last : UInt8} {bytes front rest : List UInt8}

theorem encoded_cons_of_lt (last : byte < 0x80) : encoded (byte :: rest) = [byte] := by
  have ended : ¬ 0x80 ≤ byte := UInt8.not_le.mpr last
  simp [encoded, ended]

theorem encoded_cons_of_le (more : 0x80 ≤ byte) :
    encoded (byte :: rest) = byte :: encoded rest := by
  simp [encoded, more]

@[simp]
theorem encoded_eq_nil_iff : encoded bytes = [] ↔ bytes = [] := by
  simp [encoded]

theorem positional_cons (byte : UInt8) (rest : List UInt8) :
    positional (byte :: rest) = byte.toNat % 128 + 128 * positional rest :=
  Nat.ofDigits_cons

theorem positional_concat (front : List UInt8) (last : UInt8) :
    positional (front ++ [last]) = positional front + 128 ^ front.length * (last.toNat % 128) := by
  rw [positional, List.map_append, Nat.ofDigits_append, List.length_map]
  simp [positional]

theorem positional_lt (bytes : List UInt8) : positional bytes < 128 ^ bytes.length := by
  have digits : ∀ digit ∈ bytes.map fun byte => byte.toNat % 128, digit < 128 := by
    intro digit listed
    obtain ⟨byte, -, rfl⟩ := List.mem_map.mp listed
    exact Nat.mod_lt _ (by decide)
  simpa [positional] using Nat.ofDigits_lt_base_pow_length (by decide) digits

theorem two_pow_width (count : Nat) : 2 ^ (7 * count) = 128 ^ count :=
  pow_mul 2 7 count

/-! ## Reading -/

/-- What has been read is the number, the width and the last byte of the bytes that belong to
the number. -/
theorem readGroups_eq (groups : Groups) (bytes : List UInt8) :
    readGroups groups bytes =
      ⟨groups.value + positional (encoded bytes) * 2 ^ groups.width,
        groups.width + 7 * (encoded bytes).length, (encoded bytes).getLastD groups.last⟩ := by
  induction bytes generalizing groups with
  | nil => simp [readGroups, encoded, positional]
  | cons byte rest ih =>
      by_cases last : byte < 0x80
      · rw [readGroups, if_pos last, encoded_cons_of_lt last, positional_cons]
        simp [Groups.add, positional]
      · have more : 0x80 ≤ byte := UInt8.not_lt.mp last
        rw [readGroups, if_neg last, ih, encoded_cons_of_le more, positional_cons]
        simp only [Groups.add, Nat.pow_eq, List.length_cons, List.getLastD_cons, Groups.mk.injEq,
          and_true]
        constructor
        · ring
        · omega

theorem unsigned_eq (bytes : List UInt8) : unsigned bytes = positional (encoded bytes) := by
  rw [unsigned, groupsOf, readGroups_eq]
  simp

theorem signed_of_encoded_eq_nil (none : encoded bytes = []) : signed bytes = 0 := by
  rw [encoded_eq_nil_iff.mp none]
  rfl

theorem signed_of_encoded_eq_concat (parts : encoded bytes = front ++ [last]) :
    signed bytes =
      if 64 ≤ last.toNat % 128 then
        (positional (encoded bytes) : Int) - 2 ^ (7 * (encoded bytes).length)
      else positional (encoded bytes) := by
  have wide : 7 * (encoded bytes).length ≠ 0 := by simp [parts]
  rw [signed, groupsOf, readGroups_eq]
  simp only [Nat.zero_add, pow_zero, Nat.mul_one, ne_eq, wide, not_false_eq_true, true_and,
    Nat.pow_eq, Nat.cast_pow, Nat.cast_ofNat]
  simp [parts]

/-- The sign is set exactly if the unsigned number is in the upper half of its range. -/
theorem sign_iff_upper_half (front : List UInt8) (last : UInt8) :
    64 ≤ last.toNat % 128 ↔ 2 ^ (7 * (front.length + 1) - 1) ≤ positional (front ++ [last]) := by
  have half : 2 ^ (7 * (front.length + 1) - 1) = 128 ^ front.length * 64 := by
    have bits : 7 * (front.length + 1) - 1 = 7 * front.length + 6 := by omega
    rw [bits, pow_add, two_pow_width]
    rfl
  have small := positional_lt front
  rw [half, positional_concat]
  constructor
  · intro upper
    exact (Nat.mul_le_mul_left _ upper).trans (Nat.le_add_left _ _)
  · intro upper
    by_contra lower
    have room : 128 ^ front.length * (last.toNat % 128 + 1) ≤ 128 ^ front.length * 64 :=
      Nat.mul_le_mul_left _ (by omega)
    rw [Nat.mul_add, Nat.mul_one] at room
    omega

/-- Of the numbers of one class modulo an even number exactly one lies in the half around zero. -/
theorem ite_eq_iff_modEq {half value : Nat} (small : value < 2 * half) (number : Int) :
    (if half ≤ value then (value : Int) - 2 * half else value) = number ↔
      number ≡ value [ZMOD 2 * half] ∧ -half ≤ number ∧ number < half := by
  have congruent : (2 * half : Int) ∣
      (value : Int) - (if half ≤ value then (value : Int) - 2 * half else value) := by
    split <;> simp
  constructor
  · rintro rfl
    refine ⟨Int.modEq_iff_dvd.mpr congruent, ?_⟩
    split <;> omega
  · rintro ⟨same, least, most⟩
    have multiple := Int.dvd_sub (Int.modEq_iff_dvd.mp same) congruent
    have near := Int.eq_zero_of_abs_lt_dvd multiple (by rw [abs_lt]; split <;> omega)
    omega

/-- The signed number is the only one around zero that is congruent to the unsigned one. -/
theorem signed_eq_iff (filled : encoded bytes ≠ []) {number : Int} :
    signed bytes = number ↔
      number ≡ positional (encoded bytes) [ZMOD 2 ^ (7 * (encoded bytes).length)] ∧
        -2 ^ (7 * (encoded bytes).length - 1) ≤ number ∧
        number < 2 ^ (7 * (encoded bytes).length - 1) := by
  obtain ⟨front, last, parts⟩ : ∃ front last, encoded bytes = front ++ [last] :=
    ⟨_, _, (List.dropLast_concat_getLast filled).symm⟩
  have width : (encoded bytes).length = front.length + 1 := by simp [parts]
  have range : 2 ^ (7 * (encoded bytes).length) = 2 * 2 ^ (7 * (encoded bytes).length - 1) := by
    rw [← pow_succ']
    congr 1
    omega
  have small : positional (encoded bytes) < 2 * 2 ^ (7 * (encoded bytes).length - 1) := by
    rw [← range, two_pow_width]
    exact positional_lt _
  have sign := sign_iff_upper_half front last
  rw [← parts, ← width] at sign
  have halves := ite_eq_iff_modEq small number
  have rangeInt : (2 : Int) ^ (7 * (encoded bytes).length) =
      2 * (2 ^ (7 * (encoded bytes).length - 1) : Nat) := by exact_mod_cast range
  rw [signed_of_encoded_eq_concat parts, rangeInt]
  simp only [sign]
  simpa using halves

end Digits

/-! ## Writing -/

section Writing

variable {ofLast : UInt8 → Int} {bytes : List UInt8} {number : Int}

/-- The bytes of a number are found whatever is behind them, and their digits are the number up
to what the last byte stands for. -/
theorem Encodes.exists_concat (encodes : Encodes ofLast bytes number) :
    ∃ front last, bytes = front ++ [last] ∧ last < 0x80 ∧
      (∀ rest, encoded (bytes ++ rest) = bytes) ∧
        number = positional front + 128 ^ front.length * ofLast last := by
  induction encodes with
  | @last byte small =>
      exact ⟨[], byte, rfl, small, fun rest => encoded_cons_of_lt small, by simp [positional]⟩
  | @more byte rest number large _ ih =>
      obtain ⟨front, last, rfl, small, found, rfl⟩ := ih
      refine ⟨byte :: front, last, rfl, small, fun behind => ?_, ?_⟩
      · rw [List.cons_append, encoded_cons_of_le large, found]
      · rw [positional_cons, List.length_cons, pow_succ]
        push_cast
        ring

theorem unsigned_of_encodes (encodes : Encodes unsignedLast bytes number) (rest : List UInt8) :
    (unsigned (bytes ++ rest) : Int) = number := by
  obtain ⟨front, last, rfl, small, found, rfl⟩ := encodes.exists_concat
  have whole : last.toNat % 128 = last.toNat := Nat.mod_eq_of_lt (UInt8.lt_iff_toNat_lt.mp small)
  rw [unsigned_eq, found, positional_concat, whole, unsignedLast]
  push_cast
  ring

theorem signed_of_encodes (encodes : Encodes signedLast bytes number) (rest : List UInt8) :
    signed (bytes ++ rest) = number := by
  obtain ⟨front, last, rfl, small, found, rfl⟩ := encodes.exists_concat
  have whole : last.toNat % 128 = last.toNat := Nat.mod_eq_of_lt (UInt8.lt_iff_toNat_lt.mp small)
  have sign : last < 0x40 ↔ ¬ 64 ≤ last.toNat := by
    rw [UInt8.lt_iff_toNat_lt, Nat.not_le]
    rfl
  have range : (2 : Int) ^ (7 * (front.length + 1)) = 128 ^ front.length * 128 := by
    exact_mod_cast two_pow_width (front.length + 1)
  rw [signed_of_encoded_eq_concat (found rest), found, positional_concat, List.length_append,
    List.length_singleton, range, whole, signedLast]
  simp only [sign]
  push_cast
  split <;> ring

/-- If single bytes stand for all numbers of an interval, then each further byte makes the
interval 128 times as long. -/
theorem exists_encodes {low high : Int}
    (single : ∀ number, low ≤ number → number < high → ∃ byte < 0x80, ofLast byte = number)
    (more : Nat) (least : low * 128 ^ more ≤ number) (most : number < high * 128 ^ more) :
    ∃ bytes, bytes.length = more + 1 ∧ Encodes ofLast bytes number := by
  induction more generalizing number with
  | zero =>
      obtain ⟨byte, small, rfl⟩ := single number (by simpa using least) (by simpa using most)
      exact ⟨[byte], rfl, .last small⟩
  | succ more ih =>
      have group : 0 ≤ number % 128 := Int.emod_nonneg _ (by decide)
      rw [pow_succ, ← mul_assoc] at least most
      obtain ⟨rest, length, encodes⟩ := @ih (number / 128) (by omega) (by omega)
      obtain ⟨byte, given⟩ : ∃ byte : UInt8, byte.toNat = (number % 128).toNat + 128 :=
        ⟨UInt8.ofNat _, UInt8.toNat_ofNat_of_lt (by show _ < 256; omega)⟩
      have large : 0x80 ≤ byte := by
        rw [UInt8.le_iff_toNat_le, given]
        exact Nat.le_add_left _ _
      have whole : ((byte.toNat % 128 : Nat) : Int) + 128 * (number / 128) = number := by
        rw [given]
        omega
      refine ⟨byte :: rest, by rw [List.length_cons, length], ?_⟩
      rw [← whole]
      exact .more large encodes

theorem exists_unsignedLast (least : 0 ≤ number) (most : number < 128) :
    ∃ byte < 0x80, unsignedLast byte = number := by
  obtain ⟨byte, given⟩ : ∃ byte : UInt8, byte.toNat = number.toNat :=
    ⟨UInt8.ofNat _, UInt8.toNat_ofNat_of_lt (by show _ < 256; omega)⟩
  refine ⟨byte, ?_, by rw [unsignedLast, given]; omega⟩
  rw [UInt8.lt_iff_toNat_lt, given]
  show _ < 128
  omega

theorem exists_signedLast (least : -64 ≤ number) (most : number < 64) :
    ∃ byte < 0x80, signedLast byte = number := by
  obtain ⟨byte, given⟩ : ∃ byte : UInt8, byte.toNat = (number % 128).toNat :=
    ⟨UInt8.ofNat _, UInt8.toNat_ofNat_of_lt (by show _ < 256; omega)⟩
  have sign : byte < 0x40 ↔ (number % 128).toNat < 64 := by
    rw [UInt8.lt_iff_toNat_lt, given]
    rfl
  refine ⟨byte, ?_, ?_⟩
  · rw [UInt8.lt_iff_toNat_lt, given]
    show _ < 128
    omega
  · rw [signedLast, given]
    simp only [sign]
    split <;> omega

end Writing

/-- The unsigned number at the start of bytes is the sum of the groups of its bytes, each times
its power of 128, and the signed one is the number congruent to it, modulo the power of two that
the groups span, that lies around zero; without bytes both are zero.  What is behind the bytes of
the number does not matter.  So whatever way a number is written in, it is read back, and there
is a way for every number of groups that it fits into. -/
theorem unsigned_signed_positional :
    (∀ bytes : List UInt8,
      unsigned bytes = positional (encoded bytes) ∧
        (encoded bytes = [] → signed bytes = 0) ∧
        (encoded bytes ≠ [] → ∀ number : Int, signed bytes = number ↔
          number ≡ positional (encoded bytes) [ZMOD 2 ^ (7 * (encoded bytes).length)] ∧
            -2 ^ (7 * (encoded bytes).length - 1) ≤ number ∧
            number < 2 ^ (7 * (encoded bytes).length - 1)) ∧
        ∀ other, encoded other = encoded bytes →
          unsigned other = unsigned bytes ∧ signed other = signed bytes) ∧
      (∀ (number : Nat) (bytes : List UInt8), Encodes unsignedLast bytes number →
        ∀ rest, unsigned (bytes ++ rest) = number) ∧
      (∀ (number : Int) (bytes : List UInt8), Encodes signedLast bytes number →
        ∀ rest, signed (bytes ++ rest) = number) ∧
      (∀ (number more : Nat), number < 128 ^ (more + 1) →
        ∃ bytes, bytes.length = more + 1 ∧ Encodes unsignedLast bytes number) ∧
      ∀ (number : Int) (more : Nat), -64 * 128 ^ more ≤ number → number < 64 * 128 ^ more →
        ∃ bytes, bytes.length = more + 1 ∧ Encodes signedLast bytes number := by
  refine ⟨fun bytes => ⟨unsigned_eq bytes, signed_of_encoded_eq_nil,
    fun filled number => signed_eq_iff filled, ?_⟩, ?_, ?_, ?_, ?_⟩
  · intro other same
    refine ⟨by rw [unsigned_eq, same, unsigned_eq], ?_⟩
    by_cases filled : encoded bytes = []
    · rw [signed_of_encoded_eq_nil filled, signed_of_encoded_eq_nil (same.trans filled)]
    · rw [signed_eq_iff (by rw [same]; exact filled), same]
      exact (signed_eq_iff filled).mp rfl
  · intro number bytes encodes rest
    exact Int.ofNat_inj.mp (unsigned_of_encodes encodes rest)
  · intro number bytes encodes rest
    exact signed_of_encodes encodes rest
  · intro number more most
    refine exists_encodes (fun _ => exists_unsignedLast) more (by simp) ?_
    rw [← pow_succ']
    exact_mod_cast most
  · intro number more
    exact exists_encodes (fun _ => exists_signedLast) more

/-- Minus 128 in two and in three groups, and a number with a group more than it needs. -/
theorem unsigned_signed_paddedBytes :
    encoded [0x80, 0x7f, 0x99] = [0x80, 0x7f] ∧ signed [0x80, 0x7f, 0x99] = -128 ∧
      signed [0x80, 0x7f, 0x99] = signed [0x80, 0x7f] ∧
      Encodes signedLast [0x80, 0xff, 0x7f] (-128) ∧ signed [0x80, 0xff, 0x7f, 0x99] = -128 ∧
      Encodes unsignedLast [0xe5, 0x8e, 0xa6, 0x00] 624485 ∧
      unsigned [0xe5, 0x8e, 0xa6, 0x00, 0x99] = 624485 ∧ signed [] = 0 ∧
      (∃ bytes, bytes.length = 5 ∧ Encodes unsignedLast bytes 624485) ∧
      ∃ bytes, bytes.length = 5 ∧ Encodes signedLast bytes (-128) := by
  obtain ⟨reading, unsignedRead, signedRead, unsignedWritten, signedWritten⟩ :=
    unsigned_signed_positional
  obtain ⟨-, -, around, behind⟩ := reading [0x80, 0x7f]
  have own : encoded [0x80, 0x7f, 0x99] = encoded [0x80, 0x7f] := by decide
  have three : Encodes signedLast [0x80, 0xff, 0x7f] (-128) :=
    .more (by decide) (.more (by decide) (.last (by decide)))
  have four : Encodes unsignedLast [0xe5, 0x8e, 0xa6, 0x00] 624485 :=
    .more (by decide) (.more (by decide) (.more (by decide) (.last (by decide))))
  have two : signed [0x80, 0x7f] = -128 :=
    (around (by decide) (-128)).mpr ⟨by decide, by decide, by decide⟩
  refine ⟨by decide, (behind _ own).2.trans two, (behind _ own).2, three,
    signedRead (-128) _ three [0x99], four, unsignedRead 624485 _ four [0x99],
    (reading []).2.1 rfl, ?_, ?_⟩
  · exact unsignedWritten 624485 4 (by decide)
  · exact signedWritten (-128) 4 (by decide) (by decide)

end Leb128
end DebugIndex
