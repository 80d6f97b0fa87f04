import Mathlib.Algebra.Order.Field.Power
import Mathlib.Algebra.Order.Ring.Abs
import Mathlib.Algebra.Order.Field.Rat
import Mathlib.Tactic.FieldSimp
import Mathlib.Tactic.Positivity
import Mathlib.Tactic.Ring
import SqlDialects.Proofs.DigitCounts

namespace SqlDialects.Proofs.DecimalValue

open DecimalSpelling
open DigitCounts
open Numeral
open Text (trimChars)

/-- The number with the digits of a numeral, its point moved by the exponent. -/
def value (n : Decimal) : ℚ :=
  (if n.negative then -1 else 1) *
    (valueOf n.whole + valueOf n.fraction / 10 ^ n.fraction.length) * 10 ^ n.exponent

def Denotes (text : String) (q : ℚ) : Prop :=
  ∃ n, Writes n (trimChars text.toList) ∧ q = value n

/-- The digits of a numeral as one integer. -/
def significand (n : Decimal) : Nat :=
  valueOf n.whole * 10 ^ n.fraction.length + valueOf n.fraction

theorem significand_eq (n : Decimal) : significand n = valueOf (n.whole ++ n.fraction) := by
  rw [valueOf, Nat.ofDigitChars_append, Nat.ofDigitChars_eq_ofDigitChars_zero, Nat.mul_comm]
  rfl

theorem ofDigitChars_lt {digits : List Char} (h : allDigits digits = true) (start : Nat) :
    Nat.ofDigitChars 10 digits start < (start + 1) * 10 ^ digits.length := by
  induction digits generalizing start with
  | nil => simp
  | cons c digits ih =>
      obtain ⟨hc, hdigits⟩ := Bool.and_eq_true_iff.mp h
      have hdigit : c.toNat - '0'.toNat < 10 := by
        have hnine : c.toNat ≤ '9'.toNat := (Char.isDigit_iff_toNat.mp hc).2
        rw [show '9'.toNat = 57 from rfl] at hnine
        rw [show '0'.toNat = 48 from rfl]
        omega
      rw [Nat.ofDigitChars_cons, List.length_cons, pow_succ']
      calc Nat.ofDigitChars 10 digits (10 * start + (c.toNat - '0'.toNat))
          < (10 * start + (c.toNat - '0'.toNat) + 1) * 10 ^ digits.length := ih hdigits _
        _ ≤ (start + 1) * 10 * 10 ^ digits.length := by
            apply Nat.mul_le_mul_right
            omega
        _ = (start + 1) * (10 * 10 ^ digits.length) := by ring

theorem valueOf_lt {digits : List Char} (h : allDigits digits = true) :
    valueOf digits < 10 ^ digits.length := by
  have hlt := ofDigitChars_lt h 0
  rw [Nat.zero_add, Nat.one_mul] at hlt
  exact hlt

theorem significand_lt {n : Decimal} (hwhole : allDigits n.whole = true)
    (hfraction : allDigits n.fraction = true) :
    significand n < 10 ^ (n.whole.length + n.fraction.length) := by
  have hw := valueOf_lt hwhole
  have hf := valueOf_lt hfraction
  rw [significand, pow_add]
  calc valueOf n.whole * 10 ^ n.fraction.length + valueOf n.fraction
      < (valueOf n.whole + 1) * 10 ^ n.fraction.length := by
        rw [Nat.add_mul, Nat.one_mul]
        exact Nat.add_lt_add_left hf _
    _ ≤ 10 ^ n.whole.length * 10 ^ n.fraction.length := Nat.mul_le_mul_right _ hw

theorem value_eq (n : Decimal) :
    value n = (if n.negative then -1 else 1) * significand n *
      10 ^ (n.exponent - n.fraction.length) := by
  rw [value, significand, zpow_sub₀ (by norm_num : (10 : ℚ) ≠ 0), zpow_natCast]
  push_cast
  field_simp

theorem abs_value (n : Decimal) :
    |value n| = significand n * 10 ^ (n.exponent - n.fraction.length) := by
  rw [value_eq, abs_mul, abs_mul]
  have hpow : (0 : ℚ) < 10 ^ (n.exponent - n.fraction.length) := by positivity
  rw [abs_of_pos hpow, Nat.abs_cast]
  split
  · rw [abs_neg, abs_one, one_mul]
  · rw [abs_one, one_mul]

theorem denotes_iff {text : String} {n : Decimal} (h : Writes n (trimChars text.toList)) (q : ℚ) :
    Denotes text q ↔ q = value n := by
  constructor
  · rintro ⟨other, hother, rfl⟩
    rw [hother.unique h]
  · intro hq
    exact ⟨n, h, hq⟩

theorem ten_zpow_le {e : Int} {k : Nat} (h : e ≤ k) : (10 : ℚ) ^ e ≤ 10 ^ k := by
  rw [← zpow_natCast]
  exact zpow_le_zpow_right₀ (by norm_num) h

theorem abs_value_lt {n : Decimal} (hwhole : allDigits n.whole = true)
    (hfraction : allDigits n.fraction = true) {k : Nat} (hk : (counts n n.exponent).1 ≤ k) :
    |value n| < 10 ^ k := by
  have hlt := significand_lt hwhole hfraction
  have hpow : (0 : ℚ) < 10 ^ (n.exponent - n.fraction.length) := by positivity
  rw [abs_value]
  calc (significand n : ℚ) * 10 ^ (n.exponent - n.fraction.length)
      < 10 ^ (n.whole.length + n.fraction.length) * 10 ^ (n.exponent - n.fraction.length) := by
        apply mul_lt_mul_of_pos_right _ hpow
        exact_mod_cast hlt
    _ = 10 ^ (n.whole.length + n.exponent) := by
        rw [← zpow_natCast, ← zpow_add₀ (by norm_num : (10 : ℚ) ≠ 0)]
        congr 1
        push_cast
        omega
    _ ≤ 10 ^ k := by
        apply ten_zpow_le
        have hcount : (n.whole.length + n.exponent).toNat ≤ k := hk
        omega

theorem exists_scaled_value {n : Decimal} {k : Nat} (hk : (counts n n.exponent).2 ≤ k) :
    ∃ m : ℤ, value n * 10 ^ k = m := by
  have hcount : (n.fraction.length - n.exponent).toNat ≤ k := hk
  obtain ⟨j, hj⟩ : ∃ j : Nat, n.exponent - n.fraction.length + k = j :=
    Int.eq_ofNat_of_zero_le (by omega)
  refine ⟨(if n.negative then -1 else 1) * significand n * 10 ^ j, ?_⟩
  rw [value_eq, mul_assoc, ← zpow_natCast, ← zpow_add₀ (by norm_num : (10 : ℚ) ≠ 0), hj,
    zpow_natCast]
  split
  · push_cast
    rfl
  · push_cast
    rfl

end SqlDialects.Proofs.DecimalValue
