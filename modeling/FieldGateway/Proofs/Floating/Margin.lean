import FieldGateway.Proofs.Floating.Gaps
import FieldGateway.Proofs.Floating.Rounded
import FieldGateway.Proofs.Floating.Shortest

/-
  What is near to a shortest decimal. The decimal keeps clear of the ends of the interval unless
  the grid it is on is about as coarse as the interval (`Interval.clear`), and then the ends are
  binary numbers with a gap to every decimal. So a number of the single format is still told from
  its neighbours by whatever is near to its shortest decimal (`single_contains`). A double has but
  one short decimal in its interval, which is its shortest one (`shortest_of_short`).
-/

namespace FieldGateway.Floating

namespace Interval

variable {i : Interval} {tie : Tie} {k : Int} {c : Nat}

/-- The decimal of a grid is clear of the ends by a twentieth of the gap above the number, except
for an end that the grid is coarse for. -/
theorem clear (h : i.onGrid? tie k = some c) :
    ((i.mantissa - i.below) * 2 ^ i.exponent + 2 ^ i.exponent / 20 ≤ (c : ℚ) * 10 ^ k ∨
        7 / 5 * (i.below * 2 ^ i.exponent) ≤ (10 : ℚ) ^ k) ∧
      ((c : ℚ) * 10 ^ k + 2 ^ i.exponent / 20 ≤ (i.mantissa + 1 / 2) * 2 ^ i.exponent ∨
        7 / 5 * (1 / 2 * 2 ^ i.exponent) ≤ (10 : ℚ) ^ k) := by
  have quarter : (0 : ℚ) < i.quarter k := by exact_mod_cast i.quarter_pos k
  have step : (0 : ℚ) < i.step k := by exact_mod_cast i.step_pos k
  have grid : (0 : ℚ) < 10 ^ k := by positivity
  -- everything in the unit in which the grid is counted
  obtain ⟨unit, positive, tens, twos⟩ : ∃ u : ℚ, 0 < u ∧ (10 : ℚ) ^ k = i.step k * u ∧
      (2 : ℚ) ^ i.exponent = 4 * i.quarter k * u := by
    refine ⟨10 ^ k / i.step k, by positivity, by field_simp, ?_⟩
    have := i.quarter_div_step k
    field_simp at this ⊢
    linarith
  have count : (i.count k : ℚ) = 4 * i.mantissa * i.quarter k := by
    rw [Interval.count]
    push_cast
    ring
  have reach := i.reachBelow_eq k
  obtain ⟨lower, upper⟩ := i.onGrid?_clear tie k h
  rw [tens, twos]
  refine ⟨lower.imp (fun clear => ?_) fun coarse => ?_,
    upper.imp (fun clear => ?_) fun coarse => ?_⟩
  · have clear : (5 * i.count k + i.quarter k : ℚ) ≤ 5 * (c * i.step k) + 5 * i.reachBelow k := by
      exact_mod_cast clear
    rw [count, reach] at clear
    have := mul_le_mul_of_nonneg_right clear positive.le
    linarith
  · have coarse : (7 * i.reachBelow k : ℚ) ≤ 5 * i.step k := by exact_mod_cast coarse
    rw [reach] at coarse
    have := mul_le_mul_of_nonneg_right coarse positive.le
    linarith
  · have clear : (5 * (c * i.step k) + i.quarter k : ℚ) ≤ 5 * i.count k + 10 * i.quarter k := by
      exact_mod_cast clear
    rw [count] at clear
    have := mul_le_mul_of_nonneg_right clear positive.le
    linarith
  · have coarse : (14 * i.quarter k : ℚ) ≤ 5 * i.step k := by exact_mod_cast coarse
    have := mul_le_mul_of_nonneg_right coarse positive.le
    linarith

/-- What is nearer to the decimal than the ends of the interval are is inside, too. -/
theorem contains_of_near (h : i.onGrid? tie k = some c) {v error : ℚ}
    (near : |c * 10 ^ k - v| ≤ error) (small : error < 2 ^ i.exponent / 20)
    (low : 7 / 5 * (i.below * 2 ^ i.exponent) ≤ 10 ^ k →
      error < c * 10 ^ k - (i.mantissa - i.below) * 2 ^ i.exponent)
    (high : 7 / 5 * (1 / 2 * 2 ^ i.exponent) ≤ (10 : ℚ) ^ k →
      error < (i.mantissa + 1 / 2) * 2 ^ i.exponent - c * 10 ^ k) : i.Contains v := by
  have unit : (0 : ℚ) < 2 ^ i.exponent := by positivity
  obtain ⟨lower, upper⟩ := clear h
  obtain ⟨above, below⟩ := abs_le.1 near
  have lower : i.mantissa - i.below < v / 2 ^ i.exponent := by
    rw [lt_div_iff₀ unit]
    obtain clear | coarse := lower
    · linarith
    · have := low coarse
      linarith
  have upper : v / 2 ^ i.exponent < i.mantissa + 1 / 2 := by
    rw [div_lt_iff₀ unit]
    obtain clear | coarse := upper
    · linarith
    · have := high coarse
      linarith
  exact ⟨lower.le, upper.le, .inr ⟨lower, upper⟩⟩

end Interval

/-! ## Short decimals of doubles -/

/-- A double has no more than one decimal of 14 digits in its interval, and it is the shortest. -/
theorem shortest_of_short {m : Nat} {e : Int} (full : 2 ^ 52 ≤ m) (tie : Tie) {c : Nat} {k : Int}
    (short : c ≤ 10 ^ 14)
    (inside : (Format.double.interval m e).Contains (c * 10 ^ k)) :
    (shortest Format.double tie m e).value = c * 10 ^ k := by
  have hm : 0 < m := Nat.lt_of_lt_of_le (by decide) full
  have unit : (0 : ℚ) < 2 ^ e := by positivity
  have ten : (10 : ℚ) ≠ 0 := by norm_num
  have full' : (2 : ℚ) ^ 52 ≤ m := by exact_mod_cast full
  have width {v : ℚ} (h : (Format.double.interval m e).Contains v) :
      |v - m * 2 ^ e| ≤ 2 ^ e / 2 := by
    have lower : m - (Format.double.interval m e).below ≤ v / 2 ^ e := h.lower
    have upper : v / 2 ^ e ≤ m + 1 / 2 := h.upper
    have reach := (Format.double.interval m e).below_le
    rw [le_div_iff₀ unit] at lower
    rw [div_le_iff₀ unit] at upper
    exact abs_le.2 ⟨by nlinarith, by linarith⟩
  obtain ⟨at_least, below⟩ := wholeLength_spec (e := e) hm
  -- a grid that is coarser than the interval is wide
  let g := wholeLength m e - (15 : Nat)
  have grid : (2 : ℚ) ^ e < 10 ^ g := by
    have : (10 : ℚ) ^ wholeLength m e = 10 ^ 15 * 10 ^ g := by
      rw [← zpow_natCast, ← zpow_add₀ ten]
      congr 1
      omega
    rw [this] at below
    nlinarith
  -- the decimal is on the grid of 15 digits
  have coarser : g ≤ k := by
    by_contra finer
    have few : (c : ℚ) ≤ 10 ^ 14 := by exact_mod_cast short
    have least : (c : ℚ) * 10 ^ k ≤ m * 2 ^ e / 10 := by
      calc (c : ℚ) * 10 ^ k ≤ 10 ^ 14 * 10 ^ (g - 1) :=
            mul_le_mul few (zpow_le_zpow_right₀ (by norm_num) (by omega)) (by positivity)
              (by positivity)
        _ = 10 ^ (wholeLength m e - 1) / 10 := by
            rw [← zpow_natCast, ← zpow_add₀ ten, div_eq_mul_inv, ← zpow_sub_one₀ ten]
            congr 1
            omega
        _ ≤ m * 2 ^ e / 10 := by gcongr
    have := (abs_le.1 (width inside)).1
    nlinarith
  have place (a : Nat) {j : Int} (h : g ≤ j) :
      (a : ℚ) * 10 ^ j = (a * 10 ^ (j - g).toNat : Nat) * 10 ^ g := by
    push_cast
    rw [mul_assoc, ← zpow_natCast, ← zpow_add₀ ten]
    congr 2
    omega
  rw [place c coarser] at inside
  obtain ⟨c', k', h, finest, value, -⟩ := shortest_found (f := Format.double) tie hm
    (n := 15) (by decide) (by decide)
    (Interval.onGrid?_of_reaches _ tie g (Interval.reaches_iff.2 inside))
  have inside' := Interval.reaches_iff.1 (Interval.onGrid?_reaches _ tie k' h)
  rw [value, place c' finest, place c coarser]
  rw [place c' finest] at inside'
  -- two points of the grid would be a step apart
  have near := abs_le.1 (width inside)
  have near' := abs_le.1 (width inside')
  have power : (0 : ℚ) < 10 ^ g := by positivity
  generalize c' * 10 ^ (k' - g).toNat = a at near' ⊢
  generalize c * 10 ^ (k - g).toNat = b at near ⊢
  have le : a ≤ b := by
    by_contra more
    have : (b : ℚ) + 1 ≤ a := by exact_mod_cast (show b + 1 ≤ a by omega)
    nlinarith
  have ge : b ≤ a := by
    by_contra more
    have : (a : ℚ) + 1 ≤ b := by exact_mod_cast (show a + 1 ≤ b by omega)
    nlinarith
  rw [Nat.le_antisymm le ge]

/-- What is computed from a decimal in two rounded steps has its shortest decimal near, too. -/
theorem near_shortest {m : Nat} {e : Int} (held : Format.double.Holds m e) (full : 2 ^ 52 ≤ m)
    (tie : Tie) {v : ℚ} (near : |v - m * 2 ^ e| ≤ 33 / 16 * v / 2 ^ 53) :
    |v - (shortest Format.double tie m e).value| ≤ 25 / 2 ^ 56 * v := by
  have hm : 0 < m := Nat.lt_of_lt_of_le (by decide) full
  obtain ⟨lower, upper⟩ := abs_le.1 near
  obtain ⟨lower', upper'⟩ := abs_le.1 ((shortest_inside (by decide) tie held hm).1.near full)
  exact abs_le.2 ⟨by linarith, by linarith⟩

/-! ## Numbers of the single format -/

/-- The gap between decimals and binary numbers, for units that are powers of ten and of two. -/
theorem gap_zpow {k h : Int} {c M : Nat} (low : -45 ≤ k) (high : k ≤ -23) (least : -150 ≤ h)
    (coarse : 7 / 5 * (2 : ℚ) ^ h ≤ 10 ^ k) (hc : 0 < c) (hM : M ≤ 2 ^ 25)
    (close : |(c : ℚ) * 10 ^ k - M * 2 ^ h| ≤ 25 / 2 ^ 56 * (c * 10 ^ k)) :
    M = 22841339 ∧ (h = -107 ∨ h = -108) := by
  have small : h < 0 := by
    by_contra large
    have : (1 : ℚ) ≤ 2 ^ h := one_le_zpow₀ one_le_two (by omega)
    have : (10 : ℚ) ^ k ≤ 1 := zpow_le_one_of_nonpos₀ (by norm_num) (by omega)
    linarith
  obtain ⟨a, rfl⟩ : ∃ a : Nat, k = -((a + 23 : Nat) : Int) := ⟨(-k - 23).toNat, by omega⟩
  obtain ⟨b, rfl⟩ : ∃ b : Nat, h = -(b : Int) := ⟨(-h).toNat, by omega⟩
  have tens : (0 : ℚ) < 10 ^ (a + 23) := by positivity
  have twos : (0 : ℚ) < 2 ^ b := by positivity
  rw [zpow_neg, zpow_neg, zpow_natCast, zpow_natCast] at close coarse
  have coarse : 7 * 10 ^ (a + 23) ≤ 5 * 2 ^ b := by
    field_simp at coarse
    exact_mod_cast coarse
  -- both counted in the product of the units
  have scaled : |(c : ℚ) * 2 ^ b - M * 10 ^ (a + 23)| ≤ 25 / 2 ^ 56 * (c * 2 ^ b) := by
    have parts : (c : ℚ) * 2 ^ b - M * 10 ^ (a + 23) =
        (c * (10 ^ (a + 23))⁻¹ - M * (2 ^ b)⁻¹) * (10 ^ (a + 23) * 2 ^ b) := by field_simp
    rw [parts, abs_mul, abs_of_pos (mul_pos tens twos)]
    calc _ ≤ 25 / 2 ^ 56 * ((c : ℚ) * (10 ^ (a + 23))⁻¹) * (10 ^ (a + 23) * 2 ^ b) :=
          mul_le_mul_of_nonneg_right close (mul_pos tens twos).le
      _ = 25 / 2 ^ 56 * (c * 2 ^ b) := by field_simp
  obtain ⟨lower, upper⟩ := abs_le.1 scaled
  have le : (2 ^ 56 * (c * 2 ^ b) : ℚ) ≤ 2 ^ 56 * (M * 10 ^ (a + 23)) + 25 * (c * 2 ^ b) := by
    linarith
  have ge : (2 ^ 56 * (M * 10 ^ (a + 23)) : ℚ) ≤ 2 ^ 56 * (c * 2 ^ b) + 25 * (c * 2 ^ b) := by
    linarith
  obtain ⟨same, exponent⟩ := gap (by omega) (by omega) coarse hc hM
    ⟨by exact_mod_cast le, by exact_mod_cast ge⟩
  exact ⟨same, by omega⟩

/-- The shortest decimal of a number of the single format has nine digits and 45 places behind the
point at most. -/
theorem single_found {m : Nat} {e : Int} (held : Format.single.Holds m e) (hm : 0 < m) (tie : Tie) :
    ∃ c k, (Format.single.interval m e).onGrid? tie k = some c ∧ -45 ≤ k ∧
      (shortest Format.single tie m e).value = c * 10 ^ k ∧
      k ≤ (shortest Format.single tie m e).exponent ∧ 0 < (shortest Format.single tie m e).digits ∧
      (shortest Format.single tie m e).digits ≤ c ∧ c ≤ 10 ^ 9 := by
  have least : -149 ≤ e := held.least
  have unit : (2 : ℚ) ^ (-149 : ℤ) ≤ 2 ^ e := zpow_le_zpow_right₀ one_le_two least
  have fine : (10 : ℚ) ^ (-45 : ℤ) < 3 / 4 * 2 ^ e :=
    calc (10 : ℚ) ^ (-45 : ℤ) < 3 / 4 * 2 ^ (-149 : ℤ) := by norm_num
      _ ≤ 3 / 4 * 2 ^ e := mul_le_mul_of_nonneg_left unit (by norm_num)
  have long : -44 ≤ wholeLength m e := by
    have one_le : (1 : ℚ) ≤ m := by exact_mod_cast hm
    have above : (10 : ℚ) ^ (-45 : ℤ) < 10 ^ wholeLength m e :=
      calc (10 : ℚ) ^ (-45 : ℤ) < 3 / 4 * 2 ^ e := fine
        _ ≤ m * 2 ^ e := mul_le_mul_of_nonneg_right (by linarith) (zpow_pos two_pos e).le
        _ < 10 ^ wholeLength m e := (wholeLength_spec hm).2
    have := (zpow_lt_zpow_iff_right₀ (by norm_num : (1 : ℚ) < 10)).1 above
    omega
  obtain ⟨n, positive, few, finest, found⟩ : ∃ n : Nat, 0 < n ∧ n ≤ 9 ∧ -45 ≤ wholeLength m e - n ∧
      ((Format.single.interval m e).onGrid? tie (wholeLength m e - n)).isSome = true := by
    by_cases short : wholeLength m e + 45 ≤ 9
    · refine ⟨(wholeLength m e + 45).toNat, by omega, by omega, by omega, ?_⟩
      refine Interval.onGrid?_isSome _ tie _ (Interval.step_lt ?_)
      rw [show wholeLength m e - (wholeLength m e + 45).toNat = -45 by omega]
      exact fine
    · have nine := onGrid?_length (f := Format.single) tie (by decide) held hm
      rw [show Format.single.fracBits / 3 + 2 = 9 from rfl] at nine
      exact ⟨9, by decide, by decide, by omega, nine⟩
  have fuel : n ≤ Format.single.fracBits / 3 + 3 := by
    rw [show Format.single.fracBits / 3 + 3 = 10 from rfl]
    omega
  obtain ⟨c, k, h, grid, value, exponent, some, digits, fits⟩ :=
    shortest_found tie hm positive fuel found
  exact ⟨c, k, h, by omega, value, exponent, some, digits,
    fits.trans (Nat.pow_le_pow_right (by decide) few)⟩

/-- The numbers on either side of `22841339 · 2 ^ -108` and of its double. -/
def Doubtful (m : Nat) (e : Int) : Prop := (m = 11420669 ∨ m = 11420670) ∧ (e = -106 ∨ e = -107)

/-- What is near to a small shortest decimal is rounded to the same number. -/
theorem single_contains {m : Nat} {e : Int} {tie : Tie} {c : Nat} {k : Int} {v : ℚ}
    (held : Format.single.Holds m e) (hm : 0 < m)
    (h : (Format.single.interval m e).onGrid? tie k = some c) (low : -45 ≤ k) (high : k ≤ -23)
    (clear : ¬ Doubtful m e) (near : |(c : ℚ) * 10 ^ k - v| ≤ 25 / 2 ^ 56 * (c * 10 ^ k)) :
    (Format.single.interval m e).Contains v := by
  have two : (2 : ℚ) ≠ 0 := two_ne_zero
  have unit : (0 : ℚ) < 2 ^ e := by positivity
  have reaches := Interval.onGrid?_reaches _ tie k h
  have hc : 0 < c := Interval.reaches_pos (i := Format.single.interval m e) hm reaches
  have inside := Interval.reaches_iff.1 reaches
  have lower : m - (Format.single.interval m e).below ≤ (c : ℚ) * 10 ^ k / 2 ^ e := inside.lower
  have upper : (c : ℚ) * 10 ^ k / 2 ^ e ≤ m + 1 / 2 := inside.upper
  rw [le_div_iff₀ unit] at lower
  rw [div_le_iff₀ unit] at upper
  have least : -149 ≤ e := held.least
  have bits : m < 2 ^ 24 := held.fits
  -- an end that the grid is coarse for
  have far {M : Nat} {j : Int} (hM : M ≤ 2 ^ 25) (hj : -150 ≤ j)
      (coarse : 7 / 5 * (2 : ℚ) ^ j ≤ 10 ^ k) (other : ¬ (M = 22841339 ∧ (j = -107 ∨ j = -108))) :
      25 / 2 ^ 56 * ((c : ℚ) * 10 ^ k) < |(c : ℚ) * 10 ^ k - M * 2 ^ j| :=
    lt_of_not_ge fun close => other (gap_zpow low high hj coarse hc hM close)
  have half : (2 : ℚ) ^ e = 2 * 2 ^ (e - 1) := by
    rw [zpow_sub_one₀ two]
    ring
  refine Interval.contains_of_near h near ?_ (fun coarse => ?_) fun coarse => ?_
  · have bits : (m : ℚ) + 1 ≤ 2 ^ 24 := by exact_mod_cast bits
    show 25 / 2 ^ 56 * ((c : ℚ) * 10 ^ k) < 2 ^ e / 20
    nlinarith
  · change 7 / 5 * ((Format.single.interval m e).below * 2 ^ e) ≤ (10 : ℚ) ^ k at coarse
    show _ < (c : ℚ) * 10 ^ k - (m - (Format.single.interval m e).below) * 2 ^ e
    rw [← abs_of_nonneg (sub_nonneg.2 lower)]
    by_cases narrow : (Format.single.interval m e).narrowBelow = true
    · have power : m = 2 ^ 23 ∧ e ≠ -149 := by
        simpa [Format.interval, Format.single, Format.minExp, twoPow] using narrow
      have quarter : (Format.single.interval m e).below = 1 / 4 := by
        rw [Interval.below, if_pos narrow]
      have fourth : (2 : ℚ) ^ e = 4 * 2 ^ (e - 2) := by
        rw [zpow_sub₀ two]
        ring
      have last : (m - 1 / 4 : ℚ) * 2 ^ e = (4 * m - 1 : Nat) * 2 ^ (e - 2) := by
        rw [fourth, Nat.cast_sub (by omega)]
        push_cast
        ring
      rw [quarter] at coarse ⊢
      rw [last]
      exact far (by omega) (by omega) (by rw [fourth] at coarse; linarith) (by omega)
    · have whole : (Format.single.interval m e).below = 1 / 2 := by
        rw [Interval.below, if_neg narrow]
      have last : (m - 1 / 2 : ℚ) * 2 ^ e = (2 * m - 1 : Nat) * 2 ^ (e - 1) := by
        rw [half, Nat.cast_sub (by omega)]
        push_cast
        ring
      rw [whole] at coarse ⊢
      rw [last]
      refine far (by omega) (by omega) (by rw [half] at coarse; linarith) fun same => clear ?_
      exact ⟨by omega, by omega⟩
  · change 7 / 5 * (1 / 2 * (2 : ℚ) ^ e) ≤ 10 ^ k at coarse
    show _ < (m + 1 / 2 : ℚ) * 2 ^ e - (c : ℚ) * 10 ^ k
    have last : (m + 1 / 2 : ℚ) * 2 ^ e = (2 * m + 1 : Nat) * 2 ^ (e - 1) := by
      rw [half]
      push_cast
      ring
    rw [← abs_of_nonneg (sub_nonneg.2 upper), abs_sub_comm, last]
    refine far (by omega) (by omega) (by rw [half] at coarse; linarith) fun same => clear ?_
    exact ⟨by omega, by omega⟩

/-- So many digits are on a fine grid, and what is near to them is far from the ends. -/
theorem single_contains_of_many {m : Nat} {e : Int} {tie : Tie} {c : Nat} {k : Int} {v : ℚ}
    (held : Format.single.Holds m e) (h : (Format.single.interval m e).onGrid? tie k = some c)
    (many : 9 * 10 ^ 8 ≤ c) (near : |(c : ℚ) * 10 ^ k - v| ≤ 25 / 2 ^ 56 * (c * 10 ^ k)) :
    (Format.single.interval m e).Contains v := by
  have unit : (0 : ℚ) < 2 ^ e := by positivity
  have inside := Interval.reaches_iff.1 (Interval.onGrid?_reaches _ tie k h)
  have upper : (c : ℚ) * 10 ^ k / 2 ^ e ≤ m + 1 / 2 := inside.upper
  have many : (9 * 10 ^ 8 : ℚ) ≤ c := by exact_mod_cast many
  have bits : (m : ℚ) + 1 ≤ 2 ^ 24 := by exact_mod_cast (show m < 2 ^ 24 from held.fits)
  have power : (0 : ℚ) < 10 ^ k := by positivity
  rw [div_le_iff₀ unit] at upper
  have fine : (10 : ℚ) ^ k < 7 / 20 * 2 ^ e := by nlinarith
  refine Interval.contains_of_near h near ?_ (fun coarse => ?_) fun coarse => ?_
  · show 25 / 2 ^ 56 * ((c : ℚ) * 10 ^ k) < 2 ^ e / 20
    nlinarith
  · change 7 / 5 * ((Format.single.interval m e).below * 2 ^ e) ≤ (10 : ℚ) ^ k at coarse
    have reach := (Format.single.interval m e).le_below
    nlinarith
  · change 7 / 5 * (1 / 2 * (2 : ℚ) ^ e) ≤ 10 ^ k at coarse
    linarith

end FieldGateway.Floating
