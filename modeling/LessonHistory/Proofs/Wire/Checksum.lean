-- What the checksum tells apart. No step of it forgets anything about the remainder: the highest
-- bit after a shift says whether the lowest bit before it was set. So two strings of bytes that
-- differ in one byte only never have the same checksum, however long they are.
import LessonHistory.Checksum
import Mathlib.Data.Nat.Bitwise
import Mathlib.Logic.Function.Basic

namespace LessonHistory

namespace Checksum

/-! ## Remainders -/

theorem toNat_polynomial : polynomial.toNat = 0xEDB88320 := rfl

theorem and_one_eq_one_iff (remainder : UInt32) :
    remainder &&& 1 = 1 ↔ remainder.toNat % 2 = 1 := by
  rw [← UInt32.toNat_inj, UInt32.toNat_and, show (1 : UInt32).toNat = 1 from rfl,
    Nat.and_one_is_mod]

theorem toNat_shift (remainder : UInt32) :
    (shift remainder).toNat = if remainder.toNat % 2 = 1
      then (remainder.toNat / 2) ^^^ 0xEDB88320 else remainder.toNat / 2 := by
  have hhalf : (remainder >>> 1).toNat = remainder.toNat / 2 := by
    rw [UInt32.toNat_shiftRight]
    exact Nat.shiftRight_one _
  unfold shift
  simp only [and_one_eq_one_iff]
  split
  · rw [UInt32.toNat_xor, hhalf, toNat_polynomial]
  · exact hhalf

/-- Half of a remainder lacks the highest bit, which the polynomial has. -/
theorem half_xor_polynomial_ne_half (first second : UInt32) :
    (first.toNat / 2) ^^^ 0xEDB88320 ≠ second.toNat / 2 := by
  intro h
  have hfirst : first.toNat / 2 < 2 ^ 31 := by have := first.toNat_lt; omega
  have hsecond : second.toNat / 2 < 2 ^ 31 := by have := second.toNat_lt; omega
  have hpolynomial : (first.toNat / 2) ^^^ (second.toNat / 2) = 0xEDB88320 := by
    rw [← h, ← Nat.xor_assoc, Nat.xor_self, Nat.zero_xor]
  have hlt := Nat.xor_lt_two_pow hfirst hsecond
  rw [hpolynomial] at hlt
  exact absurd hlt (by decide)

theorem shift_injective : Function.Injective shift := by
  intro first second h
  have hsame := congrArg UInt32.toNat h
  rw [toNat_shift, toNat_shift] at hsame
  apply UInt32.toNat_inj.1
  split at hsame <;> split at hsame
  · have hhalf := Nat.xor_left_inj.1 hsame
    omega
  · exact absurd hsame (half_xor_polynomial_ne_half first second)
  · exact absurd hsame.symm (half_xor_polynomial_ne_half second first)
  · omega

theorem shifts_injective (n : Nat) : Function.Injective (shifts n) := by
  induction n with
  | zero => exact fun _ _ h => h
  | succ n ih => exact fun _ _ h => shift_injective (ih h)

/-! ## Bytes -/

theorem step_left_injective (byte : UInt8) : Function.Injective (step · byte) :=
  fun _ _ h => (UInt32.xor_left_inj _).1 (shifts_injective 8 h)

theorem step_right_injective (remainder : UInt32) : Function.Injective (step remainder) :=
  fun _ _ h => UInt8.toUInt32_inj.1 ((UInt32.xor_right_inj _).1 (shifts_injective 8 h))

theorem foldl_step_injective (bytes : List UInt8) : Function.Injective (bytes.foldl step ·) := by
  induction bytes with
  | nil => exact fun _ _ h => h
  | cons byte rest ih => exact fun _ _ h => step_left_injective byte (ih h)

/-- The checksum tells apart strings of bytes that differ in one byte only. -/
theorem crc32_append_cons_inj {front back : List UInt8} {first second : UInt8}
    (h : crc32 (front ++ first :: back) = crc32 (front ++ second :: back)) : first = second := by
  unfold crc32 at h
  rw [UInt32.not_inj, List.foldl_append, List.foldl_append, List.foldl_cons, List.foldl_cons] at h
  exact step_right_injective _ (foldl_step_injective back h)

/-- A byte that is replaced by another one shows in the checksum. -/
theorem crc32_set_ne {bytes : List UInt8} {i : Nat} {byte : UInt8} (hi : i < bytes.length)
    (hbyte : bytes[i]? ≠ some byte) : crc32 (bytes.set i byte) ≠ crc32 bytes := by
  obtain ⟨front, back, hbytes, -, hset⟩ :
      ∃ front back, bytes = front ++ bytes[i] :: back ∧ front.length = i ∧
        bytes.set i byte = front ++ byte :: back := List.exists_of_set hi
  rw [hset]
  intro h
  rw [hbytes] at h
  rw [List.getElem?_eq_getElem hi, ← crc32_append_cons_inj h] at hbyte
  exact hbyte rfl

end Checksum

end LessonHistory
