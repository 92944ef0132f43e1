import FieldGateway.Json.Reader
import FieldGateway.Proofs.Floating.Rounded

/-
  The double of a significand. The digits are converted and then multiplied or divided by a power
  of ten, each step rounded. As far as digits and power are doubles themselves, the result is the
  one double next to the decimal (`Significand.scaled`); beyond that it is off by two roundings.
-/

namespace FieldGateway.Json

open FieldGateway.Floating FieldGateway.Floating.Double

/-- What a number is from one that it is near to. -/
theorem near_bounds {v y : ℚ} (hv : 0 < v) (near : |v - y| ≤ y / 2 ^ 53) :
    0 < y ∧ v / 2 ≤ y ∧ y ≤ 2 * v := by
  obtain ⟨lower, upper⟩ := abs_le.1 near
  have : 0 < y := by
    by_contra negative
    linarith
  exact ⟨this, by linarith, by linarith⟩

theorem fits_tenPow {k : Nat} (h : k ≤ 22) : Fits ((10 : ℚ) ^ k) := by
  refine ⟨5 ^ k, k, Nat.pow_pos (by decide), ?_, by omega, by omega, ?_⟩
  · exact Nat.lt_of_le_of_lt (Nat.pow_le_pow_right (by decide) h) (by decide)
  · push_cast
    rw [zpow_natCast, ← mul_pow]
    norm_num

theorem powerOfTen_is {k : Nat} (h : k ≤ 60) :
    ∃ m e, Is (powerOfTen k) false m e ∧ |(10 : ℚ) ^ k - m * 2 ^ e| ≤ m * 2 ^ e / 2 ^ 53 ∧
      (k ≤ 22 → (m : ℚ) * 2 ^ e = 10 ^ k) := by
  have ratio : ((tenPow k : Nat) : ℚ) / (1 : Nat) = 10 ^ k := by
    rw [Nat.cast_one, div_one]
    exact Nat.cast_pow 10 k
  have one_le : (1 : ℚ) ≤ 10 ^ k := one_le_pow₀ (by norm_num)
  have le : (10 : ℚ) ^ k ≤ 10 ^ 60 := pow_le_pow_right₀ (by norm_num) h
  obtain ⟨m, e, is, inside, exact'⟩ := ofRatio_is (n := tenPow k)
    (Nat.pow_pos (by decide)) Nat.one_pos false
    (by rw [ratio]; exact le_trans (by norm_num) one_le)
    (by rw [ratio]; exact lt_of_le_of_lt le (by norm_num))
  rw [ratio] at inside exact'
  exact ⟨m, e, is, inside.near is.full, fun small => exact' (fits_tenPow small)⟩

theorem ofInt_is {n : Nat} (hn : 0 < n) (h : n < 2 ^ 64) :
    ∃ m e, Is (Number.ofInt Format.double n) false m e ∧
      |(n : ℚ) - m * 2 ^ e| ≤ m * 2 ^ e / 2 ^ 53 ∧ (Fits n → (m : ℚ) * 2 ^ e = n) := by
  have ratio : ((n : Nat) : ℚ) / (1 : Nat) = n := by rw [Nat.cast_one, div_one]
  have one_le : (1 : ℚ) ≤ n := by exact_mod_cast hn
  have le : (n : ℚ) < 2 ^ 64 := by exact_mod_cast h
  obtain ⟨m, e, is, inside, exact'⟩ := ofRatio_is (n := n) hn Nat.one_pos false
    (by rw [ratio]; exact le_trans (by norm_num) one_le)
    (by rw [ratio]; exact lt_of_lt_of_le le (by norm_num))
  rw [ratio] at inside exact'
  refine ⟨m, e, ?_, inside.near is.full, exact'⟩
  have positive : decide ((n : Int) < 0) = false := by simp
  rw [Number.ofInt, positive, Int.natAbs_natCast]
  exact is

/-- A quotient by something near the divisor. -/
theorem near_div {v t p : ℚ} (hv : 0 < v) (ht : 0 < t) (hp : 0 < p)
    (near : |t - p| ≤ p / 2 ^ 53) : |v / t - v / p| ≤ v / t / 2 ^ 53 := by
  have parts : v / t - v / p = v / t * ((p - t) / p) := by field_simp
  have part : |(p - t) / p| ≤ 1 / 2 ^ 53 := by
    rw [abs_div, abs_of_pos hp, abs_sub_comm, div_le_iff₀ hp, one_div_mul_eq_div]
    exact near
  rw [parts, abs_mul, abs_of_pos (div_pos hv ht), div_eq_mul_one_div (v / t)]
  exact mul_le_mul_of_nonneg_left part (div_pos hv ht).le

section

variable {v k : Nat} (positive : 0 < v) (word : v < 2 ^ 64)

include positive word

/-- Digits multiplied by a power of ten that is a double. -/
theorem scaleReal_up (hk : k ≤ 22) :
    ∃ y m e, scaleReal (Number.ofInt Format.double v) k = some y ∧ Is y false m e ∧
      |(v : ℚ) * 10 ^ k - m * 2 ^ e| ≤ 33 / 16 * (v * 10 ^ k) / 2 ^ 53 ∧
      (Fits v → (Format.double.interval m e).Contains (v * 10 ^ k)) := by
  obtain ⟨mx, ex, hx, near_x, exact_x⟩ := ofInt_is positive word
  obtain ⟨mp, ep, hp, -, exact_p⟩ := powerOfTen_is (show k ≤ 60 by omega)
  have one_le : (1 : ℚ) ≤ v := by exact_mod_cast positive
  have word : (v : ℚ) < 2 ^ 64 := by exact_mod_cast word
  have p_pos : (0 : ℚ) < 10 ^ k := by positivity
  have p_ge : (1 : ℚ) ≤ 10 ^ k := one_le_pow₀ (by norm_num)
  have p_le : (10 : ℚ) ^ k ≤ 10 ^ 22 := pow_le_pow_right₀ (by norm_num) hk
  obtain ⟨x_pos, x_ge, x_le⟩ := near_bounds (by linarith) near_x
  obtain ⟨n, d, hn, hd, product, ratio⟩ := mul_eq hx hp
  rw [exact_p hk] at ratio
  have r_ge : (1 : ℚ) / 2 ≤ n / d := by rw [ratio]; nlinarith
  have r_le : (n : ℚ) / d ≤ 2 ^ 65 * 10 ^ 22 := by
    rw [ratio]
    exact mul_le_mul (by linarith) p_le p_pos.le (by norm_num)
  obtain ⟨m, e, is, inside, -⟩ := ofRatio_is hn hd (false != false)
    (le_trans (by norm_num) r_ge) (lt_of_le_of_lt r_le (by norm_num))
  rw [← product] at is
  refine ⟨_, m, e, ?_, is, ?_, fun fits => ?_⟩
  · have finite : ((Number.ofInt Format.double v).mul (powerOfTen k)).isInfinite = false := by
      rw [Number.isInfinite, is.decode]
    rw [scaleReal, if_neg (by omega), if_pos (by omega), Int.toNat_natCast]
    exact if_neg (by rw [finite]; exact Bool.false_ne_true)
  · have near_r : |(v : ℚ) * 10 ^ k - n / d| ≤ n / d / 2 ^ 53 := by
      rw [ratio, ← sub_mul, abs_mul, abs_of_pos p_pos, mul_div_right_comm]
      exact mul_le_mul_of_nonneg_right near_x p_pos.le
    obtain ⟨lower_r, upper_r⟩ := abs_le.1 near_r
    obtain ⟨lower_y, upper_y⟩ := abs_le.1 (inside.near is.full)
    exact abs_le.2 ⟨by linarith, by linarith⟩
  · rw [exact_x fits] at ratio
    rwa [ratio] at inside

/-- Digits divided by a power of ten. -/
theorem scaleReal_down (fits : Fits v) (some' : 0 < k) (hk : k ≤ 60) :
    ∃ y m e, scaleReal (Number.ofInt Format.double v) (-k) = some y ∧ Is y false m e ∧
      |(v : ℚ) / 10 ^ k - m * 2 ^ e| ≤ 33 / 16 * (v / 10 ^ k) / 2 ^ 53 ∧
      (k ≤ 22 → (Format.double.interval m e).Contains (v / 10 ^ k)) := by
  obtain ⟨mx, ex, hx, -, exact_x⟩ := ofInt_is positive word
  obtain ⟨mp, ep, hp, near_p, exact_p⟩ := powerOfTen_is hk
  have one_le : (1 : ℚ) ≤ v := by exact_mod_cast positive
  have word : (v : ℚ) < 2 ^ 64 := by exact_mod_cast word
  have t_pos : (0 : ℚ) < 10 ^ k := by positivity
  have t_ge : (1 : ℚ) ≤ 10 ^ k := one_le_pow₀ (by norm_num)
  have t_le : (10 : ℚ) ^ k ≤ 10 ^ 60 := pow_le_pow_right₀ (by norm_num) hk
  obtain ⟨p_pos, p_ge, p_le⟩ := near_bounds t_pos near_p
  obtain ⟨n, d, hn, hd, quotient, ratio⟩ := div_eq hx hp
  rw [exact_x fits] at ratio
  have r_ge : (1 : ℚ) / (2 * 10 ^ 60) ≤ n / d := by
    rw [ratio]
    exact div_le_div₀ (by linarith) one_le p_pos (by linarith)
  have r_le : (n : ℚ) / d ≤ 2 ^ 65 := by
    rw [ratio, div_le_iff₀ p_pos]
    linarith
  obtain ⟨m, e, is, inside, -⟩ := ofRatio_is hn hd (false != false)
    (le_trans (by norm_num) r_ge) (lt_of_le_of_lt r_le (by norm_num))
  rw [← quotient] at is
  refine ⟨_, m, e, ?_, is, ?_, fun small => ?_⟩
  · rw [scaleReal, if_neg (by omega), if_neg (by omega), if_pos (by omega), Int.natAbs_neg,
      Int.natAbs_natCast]
  · have near_r : |(v : ℚ) / 10 ^ k - n / d| ≤ v / 10 ^ k / 2 ^ 53 := by
      rw [ratio]
      exact near_div (by linarith) t_pos p_pos near_p
    obtain ⟨lower_r, upper_r⟩ := abs_le.1 near_r
    obtain ⟨lower_y, upper_y⟩ := abs_le.1 (inside.near is.full)
    exact abs_le.2 ⟨by linarith, by linarith⟩
  · rw [exact_p small] at ratio
    rwa [ratio] at inside

end

namespace Significand

/-- The number that is written. -/
def written (s : Significand) : ℚ := s.value * 10 ^ s.exponent

/-- A significand in range comes to a double near to what is written. If its digits and its power
of ten are doubles, it is the double next to it. -/
theorem scaled (s : Significand) (positive : 0 < s.value) (word : s.value < 2 ^ 64)
    (low : -60 ≤ s.exponent) (high : s.exponent ≤ 22) (fits : s.exponent < 0 → Fits s.value) :
    ∃ y m e, scaleReal (Number.ofInt Format.double s.value) s.exponent = some y ∧
      Is y false m e ∧ |s.written - m * 2 ^ e| ≤ 33 / 16 * s.written / 2 ^ 53 ∧
      (Fits s.value → -22 ≤ s.exponent → (Format.double.interval m e).Contains s.written) := by
  unfold written
  by_cases up : 0 ≤ s.exponent
  · obtain ⟨k, hk⟩ := Int.eq_ofNat_of_zero_le up
    rw [hk, zpow_natCast]
    obtain ⟨y, m, e, scale, is, near, inside⟩ := scaleReal_up positive word (k := k) (by omega)
    exact ⟨y, m, e, scale, is, near, fun fits _ => inside fits⟩
  · obtain ⟨k, hk⟩ : ∃ k : Nat, s.exponent = -k := ⟨(-s.exponent).toNat, by omega⟩
    have fits := fits (by omega)
    rw [hk, zpow_neg, zpow_natCast, ← div_eq_mul_inv]
    obtain ⟨y, m, e, scale, is, near, inside⟩ := scaleReal_down positive word fits (k := k)
      (by omega) (by omega)
    exact ⟨y, m, e, scale, is, near, fun _ small => inside (by omega)⟩

end Significand

end FieldGateway.Json
