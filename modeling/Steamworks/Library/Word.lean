import Mathlib

/-! Ranges across the conversions between signed and unsigned words. A small
bound on the unsigned reading excludes the negative numbers. -/
namespace Library.Word

theorem toInt32_bmod (u : UInt32) : u.toInt32.toInt = (u.toNat : ℤ).bmod (2 ^ 32) :=
  BitVec.toInt_eq_toNat_bmod u.toBitVec

theorem toInt32_range (u : UInt32) {n : ℕ} (small : n < 2 ^ 31) :
    (0 ≤ u.toInt32.toInt ∧ u.toInt32.toInt ≤ n) ↔ u.toNat ≤ n := by
  have bound := u.toNat_lt
  rw [toInt32_bmod, Int.bmod_def]
  split_ifs <;> omega

/-- A word below the sign bit is the same number either way. -/
theorem toInt32_of_lt (u : UInt32) (small : u.toNat < 2 ^ 31) : u.toInt32.toInt = u.toNat := by
  rw [toInt32_bmod, Int.bmod_def]
  split_ifs <;> omega

theorem toInt32_of_ge (u : UInt32) (large : 2 ^ 31 ≤ u.toNat) :
    u.toInt32.toInt = u.toNat - 2 ^ 32 := by
  have bound := u.toNat_lt
  rw [toInt32_bmod, Int.bmod_def]
  split_ifs <;> omega

theorem toUInt32_le (s : Int32) {n : ℕ} (small : n < 2 ^ 31) :
    s.toUInt32.toNat ≤ n ↔ 0 ≤ s.toInt ∧ s.toInt ≤ n := by
  have range := toInt32_range s.toUInt32 small
  rw [Int32.toInt32_toUInt32] at range
  exact range.symm

theorem toUInt32_of_nonneg (s : Int32) (nonneg : 0 ≤ s.toInt) :
    s.toUInt32.toNat = s.toInt.toNat := by
  have below : s.toInt < 2 ^ 31 := s.toInt_lt
  have upper := (toUInt32_le s (n := s.toInt.toNat) (by omega)).mpr (by omega)
  have lower := (toUInt32_le s (n := s.toUInt32.toNat) (by omega)).mp (le_refl _)
  omega

theorem toUInt32_emod (s : Int32) : (s.toUInt32.toNat : ℤ) = s.toInt % 2 ^ 32 := by
  have lower := s.le_toInt
  have upper := s.toInt_lt
  have word := toInt32_bmod s.toUInt32
  have bound := s.toUInt32.toNat_lt
  rw [Int32.toInt32_toUInt32, Int.bmod_def] at word
  split_ifs at word <;> omega

/-- A signed word subtracted from an unsigned one wraps around. -/
theorem toNat_sub_toUInt32 (u : UInt32) (s : Int32) :
    ((u - s.toUInt32).toNat : ℤ) = (u.toNat - s.toInt) % 2 ^ 32 := by
  have left := u.toNat_lt
  have right := s.toUInt32.toNat_lt
  have word := toUInt32_emod s
  rw [UInt32.toNat_sub]
  omega

end Library.Word
