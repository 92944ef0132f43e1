import FieldGateway.Floating.Shortest
import FieldGateway.Proofs.Floating.Words
import Mathlib.Algebra.Order.Field.Power
import Mathlib.Data.Rat.Cast.Order
import Mathlib.Tactic.FieldSimp
import Mathlib.Tactic.Linarith
import Mathlib.Tactic.Positivity
import Mathlib.Tactic.Ring

/-
  Which ratios are rounded to a number. Around each positive number of a format there is an
  interval (`Interval.Contains`), its ends half way to the neighbours, and every ratio inside
  comes to the word of the number (`Number.magnitudeOfRatio_eq`).
-/

namespace FieldGateway.Floating

/-! ## Counting in another unit -/

/-- Powers of `b` that are moved to the side where the exponent is positive. -/
theorem ratio_scale {b : Nat} (hb : 0 < b) (n d : Nat) (e : Int) :
    ((n * b ^ (-e).toNat : Nat) : ℚ) / (d * b ^ e.toNat : Nat) = n / d / (b : ℚ) ^ e := by
  have base : (b : ℚ) ≠ 0 := by positivity
  obtain ⟨k, rfl | rfl⟩ := Int.eq_nat_or_neg e
  · simp [div_div]
  · simp [mul_div_right_comm]

theorem ratio_shiftUp (n d : Nat) (e : Int) :
    (shiftUp n (-e) : ℚ) / shiftUp d e = n / d / 2 ^ e :=
  ratio_scale (b := 2) (by decide) n d e

theorem ratio_scaleTen (n d : Nat) (e : Int) :
    (scaleTen n (-e) : ℚ) / scaleTen d e = n / d / 10 ^ e :=
  ratio_scale (b := 10) (by decide) n d e

theorem ratio_two (n : Nat) (e : Int) :
    (shiftUp n e : ℚ) / shiftUp 1 (-e) = n * 2 ^ e := by
  have := ratio_shiftUp n 1 (-e)
  rw [neg_neg] at this
  rw [this, Nat.cast_one, div_one, zpow_neg, div_inv_eq_mul]

theorem ratio_ten (n : Nat) (e : Int) :
    (scaleTen n e : ℚ) / scaleTen 1 (-e) = n * 10 ^ e := by
  have := ratio_scaleTen n 1 (-e)
  rw [neg_neg] at this
  rw [this, Nat.cast_one, div_one, zpow_neg, div_inv_eq_mul]

theorem shiftUp_pos {n : Nat} (h : 0 < n) (e : Int) : 0 < shiftUp n e :=
  Nat.mul_pos h (twoPow_pos _)

theorem scaleTen_pos {n : Nat} (h : 0 < n) (e : Int) : 0 < scaleTen n e :=
  Nat.mul_pos h (Nat.pow_pos (by decide))

theorem nearest_eq {n d q : Nat} (hd : 0 < d) (lower : (q : ℚ) - 1 / 2 ≤ n / d)
    (upper : (n : ℚ) / d ≤ q + 1 / 2)
    (ends : q % 2 = 0 ∨ ((q : ℚ) - 1 / 2 < n / d ∧ (n : ℚ) / d < q + 1 / 2)) :
    nearest n d = q := by
  have hd' : (0 : ℚ) < d := by exact_mod_cast hd
  have l : 2 * (q * d) ≤ 2 * n + d := by
    rw [le_div_iff₀ hd'] at lower
    exact_mod_cast (by linarith : (2 : ℚ) * (q * d) ≤ 2 * n + d)
  have u : 2 * n ≤ 2 * (q * d) + d := by
    rw [div_le_iff₀ hd'] at upper
    exact_mod_cast (by linarith : (2 : ℚ) * n ≤ 2 * (q * d) + d)
  have strict : q % 2 = 0 ∨ (2 * (q * d) < 2 * n + d ∧ 2 * n < 2 * (q * d) + d) := by
    refine ends.imp_right fun ⟨hl, hu⟩ => ?_
    rw [lt_div_iff₀ hd'] at hl
    rw [div_lt_iff₀ hd'] at hu
    exact ⟨by exact_mod_cast (by linarith : (2 : ℚ) * (q * d) < 2 * n + d),
      by exact_mod_cast (by linarith : (2 : ℚ) * n < 2 * (q * d) + d)⟩
  -- the whole part is the count, or the one before it
  have parts := Nat.div_add_mod n d
  have rest := Nat.mod_lt n hd
  have below : n / d ≤ q := by
    by_contra above
    have := Nat.mul_le_mul_right d (show q + 1 ≤ n / d by omega)
    rw [Nat.add_mul, Nat.mul_comm (n / d)] at this
    omega
  have above : q ≤ n / d + 1 := by
    by_contra below
    have := Nat.mul_le_mul_right d (show n / d + 2 ≤ q by omega)
    rw [Nat.add_mul, Nat.mul_comm (n / d)] at this
    omega
  rw [nearest]
  obtain same | next : q = n / d ∨ q = n / d + 1 := by omega
  · rw [← same, Nat.mul_comm] at parts
    rw [if_neg (by omega), same]
  · rw [next, Nat.add_mul, Nat.mul_comm (n / d)] at l strict
    rw [if_pos (by omega), next]

/-! ## The binade of a ratio -/

theorem floorLog_spec {n d : Nat} (hn : 0 < n) (hd : 0 < d) :
    (2 : ℚ) ^ floorLog n d ≤ n / d ∧ (n : ℚ) / d < 2 ^ (floorLog n d + 1) := by
  have hd' : (0 : ℚ) < d := by exact_mod_cast hd
  have n_le : (2 : ℚ) ^ (n.log2 : ℤ) ≤ n := by exact_mod_cast Nat.log2_self_le hn.ne'
  have n_lt : (n : ℚ) < 2 ^ ((n.log2 : ℤ) + 1) := by exact_mod_cast Nat.lt_log2_self (n := n)
  have d_le : (2 : ℚ) ^ (d.log2 : ℤ) ≤ d := by exact_mod_cast Nat.log2_self_le hd.ne'
  have d_lt : (d : ℚ) < 2 ^ ((d.log2 : ℤ) + 1) := by exact_mod_cast Nat.lt_log2_self (n := d)
  let k : ℤ := n.log2 - d.log2
  have test : shiftUp d k ≤ shiftUp n (-k) ↔ (2 : ℚ) ^ k ≤ n / d := by
    have positive : (0 : ℚ) < shiftUp d k := by exact_mod_cast shiftUp_pos hd k
    have power : (0 : ℚ) < 2 ^ k := by positivity
    rw [← one_le_div₀ power, ← ratio_shiftUp, one_le_div₀ positive, Nat.cast_le]
  have two : (2 : ℚ) ≠ 0 := two_ne_zero
  have above : (n : ℚ) / d < 2 ^ (k + 1) := by
    rw [div_lt_iff₀ hd']
    calc (n : ℚ) < 2 ^ ((n.log2 : ℤ) + 1) := n_lt
      _ = 2 ^ (k + 1) * 2 ^ (d.log2 : ℤ) := by rw [← zpow_add₀ two]; congr 1; omega
      _ ≤ 2 ^ (k + 1) * d := by gcongr
  have below : (2 : ℚ) ^ (k - 1) < n / d := by
    rw [lt_div_iff₀ hd']
    calc (2 : ℚ) ^ (k - 1) * d < 2 ^ (k - 1) * 2 ^ ((d.log2 : ℤ) + 1) := by gcongr
      _ = 2 ^ (n.log2 : ℤ) := by rw [← zpow_add₀ two]; congr 1; omega
      _ ≤ n := n_le
  unfold floorLog
  by_cases h : shiftUp d k ≤ shiftUp n (-k)
  · rw [if_pos h]
    exact ⟨test.1 h, above⟩
  · rw [if_neg h, sub_add_cancel]
    exact ⟨below.le, lt_of_not_ge (mt test.2 h)⟩

theorem floorLog_eq {n d : Nat} (hn : 0 < n) (hd : 0 < d) {k : Int} (le : (2 : ℚ) ^ k ≤ n / d)
    (lt : (n : ℚ) / d < 2 ^ (k + 1)) : floorLog n d = k := by
  obtain ⟨le', lt'⟩ := floorLog_spec hn hd
  have one : (1 : ℚ) < 2 := one_lt_two
  have := (zpow_lt_zpow_iff_right₀ one).1 (le.trans_lt lt')
  have := (zpow_lt_zpow_iff_right₀ one).1 (le'.trans_lt lt)
  omega

/-! ## The interval of a number -/

namespace Interval

/-- How far down the interval reaches, as a part of the unit of the number. -/
def below (i : Interval) : ℚ := if i.narrowBelow then 1 / 4 else 1 / 2

/-- The numbers of the interval; the ends belong to it if the mantissa is even. -/
structure Contains (i : Interval) (v : ℚ) : Prop where
  lower : i.mantissa - i.below ≤ v / 2 ^ i.exponent
  upper : v / 2 ^ i.exponent ≤ i.mantissa + 1 / 2
  ends : i.mantissa % 2 = 0 ∨
    (i.mantissa - i.below < v / 2 ^ i.exponent ∧ v / 2 ^ i.exponent < i.mantissa + 1 / 2)

theorem below_le (i : Interval) : i.below ≤ 1 / 2 := by
  unfold below
  split <;> norm_num

theorem le_below (i : Interval) : 1 / 4 ≤ i.below := by
  unfold below
  split <;> norm_num

theorem contains_self (i : Interval) : i.Contains (i.mantissa * 2 ^ i.exponent) := by
  have unit : (0 : ℚ) < 2 ^ i.exponent := by positivity
  have reach := i.le_below
  refine ⟨?_, ?_, .inr ⟨?_, ?_⟩⟩
  all_goals
    rw [mul_div_cancel_right₀ _ unit.ne']
    linarith

end Interval

namespace Format

/-- The reals that are rounded to `m · 2 ^ e`: below a power of two the numbers stand twice as
close, but for the least of them. -/
def interval (f : Format) (m : Nat) (e : Int) : Interval :=
  ⟨m, e, m == twoPow f.fracBits && e != f.minExp⟩

variable (f : Format) (m : Nat) (e : Int)

theorem interval_mantissa : (f.interval m e).mantissa = m := rfl

theorem interval_exponent : (f.interval m e).exponent = e := rfl

end Format

section Bounds

variable {f : Format} {m : Nat} {e : Int} {v : ℚ}

theorem Interval.Contains.le_value (inside : (f.interval m e).Contains v) (hm : 0 < m) :
    (2 : ℚ) ^ (e - 1) ≤ v := by
  have unit : (0 : ℚ) < 2 ^ e := by positivity
  have one : (1 : ℚ) ≤ m := by exact_mod_cast hm
  have lower : m - (f.interval m e).below ≤ v / 2 ^ e := inside.lower
  have reach := (f.interval m e).below_le
  rw [zpow_sub_one₀ two_ne_zero, mul_comm, ← le_div_iff₀ unit]
  linarith

theorem Interval.Contains.value_lt (inside : (f.interval m e).Contains v) (held : f.Holds m e) :
    v < 2 ^ (f.fracBits + 1 + e) := by
  have unit : (0 : ℚ) < 2 ^ e := by positivity
  have upper : v / 2 ^ e ≤ m + 1 / 2 := inside.upper
  have fits : (m : ℚ) + 1 ≤ 2 * 2 ^ (f.fracBits : ℤ) := by exact_mod_cast held.fits
  rw [zpow_add₀ two_ne_zero, zpow_add_one₀ two_ne_zero, ← div_lt_iff₀ unit]
  linarith

end Bounds

namespace Number

variable {f : Format} {m n d : Nat} {e : Int}

/-- A ratio that is counted in the unit of the number is rounded to the number if it is the
nearest to it. -/
theorem magnitudeOfRatio_of_unit {u : Int} {q : Nat} (hn : 0 < n) (unit : unitExp f n d = u)
    (count : nearest (shiftUp n (-u)) (shiftUp d u) = q) (held : f.pack q u < f.infinityWord) :
    magnitudeOfRatio f n d = f.pack q u := by
  rw [magnitudeOfRatio, if_neg hn.ne', unit]
  simp only [count]
  exact Nat.min_eq_left held.le

/-- Every ratio in the interval of a number is rounded to it. -/
theorem magnitudeOfRatio_eq (held : f.Holds m e) (hn : 0 < n) (hd : 0 < d)
    (inside : (f.interval m e).Contains (n / d)) : magnitudeOfRatio f n d = f.pack m e := by
  obtain ⟨lower, upper, ends⟩ := id inside
  rw [Format.interval_mantissa, Format.interval_exponent] at lower upper ends
  have reach := (f.interval m e).below_le
  have two : (2 : ℚ) ≠ 0 := two_ne_zero
  have one : (1 : ℚ) < 2 := one_lt_two
  have unit : (0 : ℚ) < 2 ^ e := by positivity
  have scaled (u : Int) : ((shiftUp n (-u) : Nat) : ℚ) / (shiftUp d u : Nat) = n / d / 2 ^ u :=
    ratio_shiftUp n d u
  have bits : ((twoPow f.fracBits : Nat) : ℚ) = 2 ^ (f.fracBits : ℤ) := by simp [twoPow]
  obtain ⟨log_le, log_lt⟩ := floorLog_spec hn hd
  -- the ratio is below the end of the binade
  have below := inside.value_lt held
  have log_below := (zpow_lt_zpow_iff_right₀ one).1 (log_le.trans_lt below)
  by_cases normal : e = f.minExp ∨ (2 : ℚ) ^ (f.fracBits + e) ≤ n / d
  · -- it is counted in the unit of the number
    have counted : unitExp f n d = e := by
      have least := held.least
      have log_above : e = f.minExp ∨ f.fracBits + e < floorLog n d + 1 :=
        normal.imp_right fun h => (zpow_lt_zpow_iff_right₀ one).1 (h.trans_lt log_lt)
      rw [unitExp]
      omega
    refine magnitudeOfRatio_of_unit hn counted (nearest_eq (shiftUp_pos hd e) ?_ ?_ ?_) held.finite
    all_goals rw [scaled]
    · linarith
    · exact upper
    · exact ends.imp_right fun h => ⟨by linarith, h.2⟩
  · -- it is below the least number of the binade, and counted in a unit of half the size
    obtain ⟨above, under⟩ := not_or.1 normal
    have small : (n : ℚ) / d / 2 ^ e < twoPow f.fracBits := by
      rw [div_lt_iff₀ unit, bits, ← zpow_add₀ two]
      exact lt_of_not_ge under
    have least : m = twoPow f.fracBits := by
      have : (m : ℚ) < twoPow f.fracBits + 1 := by linarith
      have : m < twoPow f.fracBits + 1 := by exact_mod_cast this
      have := held.normal.resolve_left above
      omega
    subst least
    have narrow : (f.interval (twoPow f.fracBits) e).below = 1 / 4 := by
      simp [Interval.below, Format.interval, above]
    rw [narrow] at lower
    have half : (n : ℚ) / d / 2 ^ (e - 1) = 2 * (n / d / 2 ^ e) := by
      rw [zpow_sub_one₀ two]
      field_simp
    have log : floorLog n d = f.fracBits + e - 1 := by
      refine floorLog_eq hn hd ?_ ?_
      · rw [zpow_sub_one₀ two, zpow_add₀ two, ← bits]
        have := (le_div_iff₀ unit).1 lower
        have one_le : (1 : ℚ) ≤ twoPow f.fracBits := by exact_mod_cast twoPow_pos f.fracBits
        nlinarith
      · rw [sub_add_cancel]
        exact lt_of_not_ge under
    have counted : unitExp f n d = e - 1 := by
      have := held.least
      rw [unitExp, log]
      omega
    have packed : f.pack (2 * twoPow f.fracBits) (e - 1) = f.pack (twoPow f.fracBits) e :=
      f.pack_double (lt_of_le_of_ne held.least (Ne.symm above))
    rw [← packed]
    refine magnitudeOfRatio_of_unit hn counted (nearest_eq (shiftUp_pos hd _) ?_ ?_ ?_)
      (packed ▸ held.finite)
    all_goals
      rw [scaled, half]
      push_cast
    · linarith
    · linarith
    · exact .inl (by omega)

end Number

end FieldGateway.Floating
