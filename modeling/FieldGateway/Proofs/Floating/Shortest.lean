import FieldGateway.Proofs.Floating.Nearest

/-
  The shortest digits. What the grid of a power of ten has to offer is said once
  (`Interval.onGrid?_cases`): one of the two points around the number, if one is in the interval,
  and then the nearer. So a decimal that is found is inside, one is found where there is any, and
  one is found as soon as the grid is finer than the interval; the search ends on such a grid at
  the latest (`shortest_found`, `shortest_inside`).
-/

namespace FieldGateway.Floating

namespace Decimal

/-- The number a decimal stands for. -/
def value (d : Decimal) : ℚ := d.digits * 10 ^ d.exponent

end Decimal

namespace Interval

variable (i : Interval) (tie : Tie) (k : Int)

/-- A quarter of the gap above the number, in the unit of the grid of `10 ^ k`. -/
def quarter : Nat := scaleTen (shiftUp 1 (i.exponent - 2)) (-k)

/-- A step of the grid of `10 ^ k`, in the same unit. -/
def step : Nat := scaleTen (shiftUp 1 (-(i.exponent - 2))) k

/-- How far down the interval reaches, in the same unit. -/
def reachBelow : Nat := if i.narrowBelow then i.quarter k else 2 * i.quarter k

theorem quarter_pos : 0 < i.quarter k := scaleTen_pos (shiftUp_pos Nat.one_pos _) _

theorem step_pos : 0 < i.step k := scaleTen_pos (shiftUp_pos Nat.one_pos _) _

theorem quarter_le_reachBelow : i.quarter k ≤ i.reachBelow k := by
  unfold reachBelow
  split <;> omega

theorem reachBelow_le : i.reachBelow k ≤ 2 * i.quarter k := by
  unfold reachBelow
  split <;> omega

theorem quarter_div_step : (i.quarter k : ℚ) / i.step k = 2 ^ i.exponent / 10 ^ k / 4 := by
  have two : (2 : ℚ) ≠ 0 := two_ne_zero
  rw [quarter, step, ratio_scaleTen, ratio_two, zpow_sub₀ two]
  ring

theorem reachBelow_eq : (i.reachBelow k : ℚ) = 4 * i.below * i.quarter k := by
  unfold reachBelow below
  split <;> push_cast <;> ring

/-- The number in the unit of the grid. -/
def count : Nat := 4 * i.mantissa * i.quarter k

/-- The point `c` of the grid is inside the interval. -/
def Reaches (c : Nat) : Prop :=
  i.count k ≤ c * i.step k + i.reachBelow k ∧ c * i.step k ≤ i.count k + 2 * i.quarter k ∧
    (i.mantissa % 2 = 0 ∨
      (i.count k < c * i.step k + i.reachBelow k ∧ c * i.step k < i.count k + 2 * i.quarter k))

/-- How far the number is above the grid point before it. -/
def rest : Nat := i.count k % i.step k

theorem rest_lt : i.rest k < i.step k := Nat.mod_lt _ (i.step_pos k)

theorem count_eq : i.count k = i.step k * (i.count k / i.step k) + i.rest k :=
  (Nat.div_add_mod _ _).symm

/-- The grid point before the number is inside the interval. -/
def FitsBelow : Prop :=
  i.rest k < i.reachBelow k ∨ (i.mantissa % 2 = 0 ∧ i.rest k = i.reachBelow k)

/-- The grid point after the number is inside the interval. -/
def FitsAbove : Prop :=
  i.step k - i.rest k < 2 * i.quarter k ∨
    (i.mantissa % 2 = 0 ∧ i.step k - i.rest k = 2 * i.quarter k)

/-- The decimal on a grid is the point before the number or the one after it, the nearer of the
two if both are inside the interval. -/
theorem onGrid?_cases :
    (i.onGrid? tie k = none ∧ ¬ i.FitsBelow k ∧ ¬ i.FitsAbove k) ∨
      (i.onGrid? tie k = some (i.count k / i.step k) ∧ i.FitsBelow k ∧
        (¬ i.FitsAbove k ∨ i.rest k ≤ i.step k - i.rest k)) ∨
      (i.onGrid? tie k = some (i.count k / i.step k + 1) ∧ i.FitsAbove k ∧
        (¬ i.FitsBelow k ∨ i.step k - i.rest k ≤ i.rest k)) := by
  have below : (decide (i.rest k < i.reachBelow k) ||
      (decide (i.mantissa % 2 = 0) && i.rest k == i.reachBelow k)) = true ↔ i.FitsBelow k := by
    simp [FitsBelow]
  have above : (decide (i.step k - i.rest k < 2 * i.quarter k) ||
      (decide (i.mantissa % 2 = 0) && i.step k - i.rest k == 2 * i.quarter k)) = true ↔
        i.FitsAbove k := by
    simp [FitsAbove]
  unfold onGrid?
  dsimp only
  split
  · rename_i low high
    exact .inl ⟨rfl, below.not.1 (Bool.eq_false_iff.1 low), above.not.1 (Bool.eq_false_iff.1 high)⟩
  · rename_i low high
    exact .inr (.inl ⟨rfl, below.1 low, .inl (above.not.1 (Bool.eq_false_iff.1 high))⟩)
  · rename_i low high
    exact .inr (.inr ⟨rfl, above.1 high, .inl (below.not.1 (Bool.eq_false_iff.1 low))⟩)
  · rename_i low high
    have low := below.1 low
    have high := above.1 high
    split
    · rename_i nearer
      exact .inr (.inl ⟨rfl, low, .inr nearer.le⟩)
    rename_i farther
    split
    · rename_i nearer
      exact .inr (.inr ⟨rfl, high, .inr nearer.le⟩)
    rename_i nearer
    cases tie with
    | up => exact .inr (.inr ⟨rfl, high, .inr (Nat.le_of_not_lt farther)⟩)
    | even =>
      let c := i.count k / i.step k
      obtain same | next : c + c % 2 = c ∨ c + c % 2 = c + 1 := by omega
      · exact .inr (.inl ⟨congrArg some same, low, .inr (Nat.le_of_not_lt nearer)⟩)
      · exact .inr (.inr ⟨congrArg some next, high, .inr (Nat.le_of_not_lt farther)⟩)

theorem onGrid?_near {c : Nat} (h : i.onGrid? tie k = some c) :
    c = i.count k / i.step k ∨ c = i.count k / i.step k + 1 := by
  obtain ⟨eq, -⟩ | ⟨eq, -⟩ | ⟨eq, -⟩ := i.onGrid?_cases tie k
  · rw [eq] at h
    cases h
  · exact .inl (Option.some.inj (h.symm.trans eq))
  · exact .inr (Option.some.inj (h.symm.trans eq))

theorem onGrid?_reaches {c : Nat} (h : i.onGrid? tie k = some c) : i.Reaches k c := by
  have count := i.count_eq k
  have rest := i.rest_lt k
  have quarter := i.quarter_pos k
  rw [Reaches, Nat.mul_comm]
  obtain ⟨eq, -⟩ | ⟨eq, fits, -⟩ | ⟨eq, fits, -⟩ := i.onGrid?_cases tie k
  · rw [eq] at h
    cases h
  · obtain rfl := Option.some.inj (eq.symm.trans h)
    unfold FitsBelow at fits
    omega
  · obtain rfl := Option.some.inj (eq.symm.trans h)
    unfold FitsAbove at fits
    rw [Nat.mul_add]
    omega

/-- A grid with a point inside the interval has a decimal. -/
theorem onGrid?_of_reaches {c : Nat} (h : i.Reaches k c) : (i.onGrid? tie k).isSome = true := by
  obtain ⟨-, below, above⟩ | ⟨eq, -⟩ | ⟨eq, -⟩ := i.onGrid?_cases tie k
  · have count := i.count_eq k
    have rest := i.rest_lt k
    obtain ⟨lower, upper, ends⟩ := h
    unfold FitsBelow at below
    unfold FitsAbove at above
    -- the points around the number are nearer than any others
    by_cases low : c ≤ i.count k / i.step k
    · have := Nat.mul_le_mul_left (i.step k) low
      rw [Nat.mul_comm _ c] at this
      omega
    · have := Nat.mul_le_mul_left (i.step k) (show i.count k / i.step k + 1 ≤ c by omega)
      rw [Nat.mul_add, Nat.mul_comm _ c] at this
      omega
  · rw [eq]
    rfl
  · rw [eq]
    rfl

/-- A grid whose step is less than three quarters of the gap has a decimal. -/
theorem onGrid?_isSome (h : i.step k < 3 * i.quarter k) : (i.onGrid? tie k).isSome = true := by
  obtain ⟨-, below, above⟩ | ⟨eq, -⟩ | ⟨eq, -⟩ := i.onGrid?_cases tie k
  · have reach := i.quarter_le_reachBelow k
    unfold FitsBelow at below
    unfold FitsAbove at above
    omega
  · rw [eq]
    rfl
  · rw [eq]
    rfl

/-- Unless the grid is coarse the decimal stays clear of the ends of the interval: by a fifth of a
quarter of the gap, if the step is less than 7/5 of the part of the interval on that side. -/
theorem onGrid?_clear {c : Nat} (h : i.onGrid? tie k = some c) :
    (5 * i.count k + i.quarter k ≤ 5 * (c * i.step k) + 5 * i.reachBelow k ∨
        7 * i.reachBelow k ≤ 5 * i.step k) ∧
      (5 * (c * i.step k) + i.quarter k ≤ 5 * i.count k + 10 * i.quarter k ∨
        14 * i.quarter k ≤ 5 * i.step k) := by
  have count := i.count_eq k
  have rest := i.rest_lt k
  have reach := i.quarter_le_reachBelow k
  have reach' := i.reachBelow_le k
  rw [Nat.mul_comm c]
  obtain ⟨eq, -⟩ | ⟨eq, fits, near⟩ | ⟨eq, fits, near⟩ := i.onGrid?_cases tie k
  · rw [eq] at h
    cases h
  · obtain rfl := Option.some.inj (eq.symm.trans h)
    unfold FitsBelow at fits
    unfold FitsAbove at near
    omega
  · obtain rfl := Option.some.inj (eq.symm.trans h)
    unfold FitsAbove at fits
    unfold FitsBelow at near
    rw [Nat.mul_add]
    omega

variable {i k}

theorem reaches_pos (hm : 0 < i.mantissa) {c : Nat} (h : i.Reaches k c) : 0 < c := by
  have quarter := i.quarter_pos k
  have reach := i.reachBelow_le k
  have count : 4 * i.quarter k ≤ i.count k := by
    rw [count, Nat.mul_assoc]
    exact Nat.mul_le_mul_left 4 (Nat.le_mul_of_pos_left _ hm)
  refine Nat.pos_of_ne_zero ?_
  rintro rfl
  have := h.1
  omega

theorem reaches_iff {c : Nat} : i.Reaches k c ↔ i.Contains (c * 10 ^ k) := by
  have unit : (0 : ℚ) < 4 * i.quarter k := by
    exact_mod_cast Nat.mul_pos (by decide) (i.quarter_pos k)
  have place : (c : ℚ) * 10 ^ k / 2 ^ i.exponent = c * i.step k / (4 * i.quarter k) := by
    have step : (i.step k : ℚ) ≠ 0 := by exact_mod_cast (i.step_pos k).ne'
    have quarter : (i.quarter k : ℚ) = 2 ^ i.exponent / 10 ^ k / 4 * i.step k := by
      rw [← quarter_div_step, div_mul_cancel₀ _ step]
    rw [quarter]
    field_simp
  have count : (i.count k : ℚ) = i.mantissa * (4 * i.quarter k) := by
    rw [Interval.count]
    push_cast
    ring
  have reach := i.reachBelow_eq k
  have lower : i.count k ≤ c * i.step k + i.reachBelow k ↔
      i.mantissa - i.below ≤ (c : ℚ) * 10 ^ k / 2 ^ i.exponent := by
    rw [place, le_div_iff₀ unit, ← Nat.cast_le (α := ℚ)]
    push_cast
    constructor <;> intro h <;> linarith
  have upper : c * i.step k ≤ i.count k + 2 * i.quarter k ↔
      (c : ℚ) * 10 ^ k / 2 ^ i.exponent ≤ i.mantissa + 1 / 2 := by
    rw [place, div_le_iff₀ unit, ← Nat.cast_le (α := ℚ)]
    push_cast
    constructor <;> intro h <;> linarith
  have above : i.count k < c * i.step k + i.reachBelow k ↔
      i.mantissa - i.below < (c : ℚ) * 10 ^ k / 2 ^ i.exponent := by
    rw [place, lt_div_iff₀ unit, ← Nat.cast_lt (α := ℚ)]
    push_cast
    constructor <;> intro h <;> linarith
  have under : c * i.step k < i.count k + 2 * i.quarter k ↔
      (c : ℚ) * 10 ^ k / 2 ^ i.exponent < i.mantissa + 1 / 2 := by
    rw [place, div_lt_iff₀ unit, ← Nat.cast_lt (α := ℚ)]
    push_cast
    constructor <;> intro h <;> linarith
  rw [Reaches, lower, upper, above, under]
  exact ⟨fun h => ⟨h.1, h.2.1, h.2.2⟩, fun h => ⟨h.lower, h.upper, h.ends⟩⟩

/-- The step of a grid against the gap above the number. -/
theorem step_lt {i : Interval} (h : (10 : ℚ) ^ k < 3 / 4 * 2 ^ i.exponent) :
    i.step k < 3 * i.quarter k := by
  have step : (0 : ℚ) < i.step k := by exact_mod_cast i.step_pos k
  have ratio : (1 : ℚ) < 3 * (i.quarter k / i.step k) := by
    have power : (0 : ℚ) < 10 ^ k := by positivity
    rw [quarter_div_step, div_div, mul_div_assoc', lt_div_iff₀ (by positivity)]
    linarith
  rw [mul_div_assoc', lt_div_iff₀ step] at ratio
  exact_mod_cast (by linarith : (i.step k : ℚ) < 3 * i.quarter k)

/-- The two decimals that are tested have no more digits than the grid leaves room for. -/
theorem onGrid?_le {c b : Nat} (h : i.onGrid? tie k = some c)
    (below : (i.mantissa : ℚ) * 2 ^ i.exponent < b * 10 ^ k) : c ≤ b := by
  have floor : i.count k / i.step k < b := by
    have step : (0 : ℚ) < i.step k := by exact_mod_cast i.step_pos k
    have place : (i.count k : ℚ) / i.step k = i.mantissa * 2 ^ i.exponent / 10 ^ k := by
      rw [count, Nat.cast_mul, mul_div_assoc, quarter_div_step]
      push_cast
      ring
    rw [← div_lt_iff₀ (by positivity), ← place, div_lt_iff₀ step] at below
    exact (Nat.div_lt_iff_lt_mul (i.step_pos k)).2 (by exact_mod_cast below)
  have := i.onGrid?_near tie k h
  omega

/-- If the grid that is tried after `j` others has a decimal, the search ends on that grid or on
one before it. A one with zeros behind it is returned without them. -/
theorem search_found {length : Int} {fuel count j : Nat} (hj : j < fuel)
    (found : (i.onGrid? tie (length - (count + j : Nat))).isSome = true) :
    ∃ c, ∃ n ≤ count + j, i.onGrid? tie (length - n) = some c ∧
      i.search tie length fuel count = if c = tenPow n then ⟨1, length⟩ else ⟨c, length - n⟩ := by
  induction fuel generalizing count j with
  | zero => exact absurd hj (Nat.not_lt_zero j)
  | succ fuel ih =>
    rw [search]
    split
    · rename_i c h
      exact ⟨c, count, Nat.le_add_right _ _, h, rfl⟩
    · rename_i h
      cases j with
      | zero =>
        rw [Nat.add_zero, h] at found
        cases found
      | succ j =>
        have next : count + (j + 1) = count + 1 + j := by omega
        rw [next] at found ⊢
        exact ih (Nat.lt_of_succ_lt_succ hj) found

end Interval

/-! ## Lengths -/

theorem tenPow_length_le {n : Nat} (h : 0 < n) :
    (10 : ℚ) ^ (((Nat.toDigits 10 n).length : ℤ) - 1) ≤ n := by
  have longer := Nat.length_toDigits_pos (b := 10) (n := n)
  have least : 10 ^ ((Nat.toDigits 10 n).length - 1) ≤ n := by
    by_cases one : (Nat.toDigits 10 n).length = 1
    · rw [one]
      exact h
    · have := (Nat.length_toDigits_le_iff (b := 10) (n := n) (by decide)
        (show 0 < (Nat.toDigits 10 n).length - 1 by omega)).not
      omega
  rw [← Nat.cast_one, ← Nat.cast_sub longer, zpow_natCast]
  exact_mod_cast least

theorem lt_tenPow_length (n : Nat) : (n : ℚ) < 10 ^ ((Nat.toDigits 10 n).length : ℤ) := by
  have := (Nat.length_toDigits_le_iff (b := 10) (n := n) (by decide) Nat.length_toDigits_pos).1
    (Nat.le_refl _)
  exact_mod_cast this

/-- The length of a number is the number of its digits before the point. -/
theorem decimalLength_spec {n d : Nat} (hn : 0 < n) (hd : 0 < d) :
    (10 : ℚ) ^ (decimalLength n d - 1) ≤ n / d ∧ (n : ℚ) / d < 10 ^ decimalLength n d := by
  have hd' : (0 : ℚ) < d := by exact_mod_cast hd
  let ln := (Nat.toDigits 10 n).length
  let ld := (Nat.toDigits 10 d).length
  have ten : (10 : ℚ) ≠ 0 := by norm_num
  have n_le : (10 : ℚ) ^ ((ln : ℤ) - 1) ≤ n := tenPow_length_le hn
  have n_lt : (n : ℚ) < 10 ^ (ln : ℤ) := lt_tenPow_length n
  have d_le : (10 : ℚ) ^ ((ld : ℤ) - 1) ≤ d := tenPow_length_le hd
  have d_lt : (d : ℚ) < 10 ^ (ld : ℤ) := lt_tenPow_length d
  let k : ℤ := ln - ld
  have test : scaleTen n (-k) < scaleTen d k ↔ (n : ℚ) / d < 10 ^ k := by
    have positive : (0 : ℚ) < scaleTen d k := by exact_mod_cast scaleTen_pos hd k
    have power : (0 : ℚ) < 10 ^ k := by positivity
    rw [← div_lt_one power, ← ratio_scaleTen, div_lt_one positive, Nat.cast_lt]
  have low : (10 : ℚ) ^ (k - 1) ≤ n / d := by
    rw [le_div_iff₀ hd']
    calc (10 : ℚ) ^ (k - 1) * d ≤ 10 ^ (k - 1) * 10 ^ (ld : ℤ) := by gcongr
      _ = 10 ^ ((ln : ℤ) - 1) := by rw [← zpow_add₀ ten]; congr 1; omega
      _ ≤ n := n_le
  have high : (n : ℚ) / d < 10 ^ (k + 1) := by
    rw [div_lt_iff₀ hd']
    calc (n : ℚ) < 10 ^ (ln : ℤ) := n_lt
      _ = 10 ^ (k + 1) * 10 ^ ((ld : ℤ) - 1) := by rw [← zpow_add₀ ten]; congr 1; omega
      _ ≤ 10 ^ (k + 1) * d := by gcongr
  unfold decimalLength
  by_cases h : scaleTen n (-k) < scaleTen d k
  · rw [if_pos h]
    exact ⟨low, test.1 h⟩
  · rw [if_neg h, add_sub_cancel_right]
    exact ⟨le_of_not_gt (mt test.2 h), high⟩

/-! ## The shortest decimal -/

section

variable {f : Format} {m : Nat} {e : Int}

/-- The length of a number: that of its digits before the point. -/
def wholeLength (m : Nat) (e : Int) : Int := decimalLength (shiftUp m e) (shiftUp 1 (-e))

theorem wholeLength_spec (hm : 0 < m) :
    (10 : ℚ) ^ (wholeLength m e - 1) ≤ m * 2 ^ e ∧ (m : ℚ) * 2 ^ e < 10 ^ wholeLength m e := by
  rw [← ratio_two]
  exact decimalLength_spec (shiftUp_pos hm e) (shiftUp_pos Nat.one_pos (-e))

/-- The shortest decimal of a positive number comes from a grid, from that of `n` digits at the
latest if there is a decimal on it. -/
theorem shortest_found (tie : Tie) (hm : 0 < m) {n : Nat} (positive : 0 < n)
    (fuel : n ≤ f.fracBits / 3 + 3)
    (found : ((f.interval m e).onGrid? tie (wholeLength m e - n)).isSome = true) :
    ∃ c k, (f.interval m e).onGrid? tie k = some c ∧ wholeLength m e - n ≤ k ∧
      (shortest f tie m e).value = c * 10 ^ k ∧ k ≤ (shortest f tie m e).exponent ∧
      0 < (shortest f tie m e).digits ∧ (shortest f tie m e).digits ≤ c ∧ c ≤ 10 ^ n := by
  have ten : (10 : ℚ) ≠ 0 := by norm_num
  have after : n = 1 + (n - 1) := by omega
  rw [after] at found
  obtain ⟨c, n', few, h, search⟩ := (f.interval m e).search_found tie
    (show n - 1 < f.fracBits / 3 + 3 by omega) found
  have below := (wholeLength_spec (e := e) hm).2
  have grid : (10 : ℚ) ^ wholeLength m e = (10 ^ n' : Nat) * 10 ^ (wholeLength m e - n') := by
    rw [Nat.cast_pow, ← zpow_natCast, Nat.cast_ofNat, ← zpow_add₀ ten, add_sub_cancel]
  rw [grid] at below
  have positive : 0 < c :=
    Interval.reaches_pos (i := f.interval m e) hm ((f.interval m e).onGrid?_reaches tie _ h)
  have fits : c ≤ 10 ^ n := ((f.interval m e).onGrid?_le tie h below).trans
    (Nat.pow_le_pow_right (by decide) (by omega))
  have result : shortest f tie m e = if c = tenPow n' then ⟨1, wholeLength m e⟩
      else ⟨c, wholeLength m e - n'⟩ := search
  refine ⟨c, wholeLength m e - n', h, by omega, ?_⟩
  rw [result]
  split
  · rename_i whole
    refine ⟨?_, by simp, Nat.one_pos, positive, fits⟩
    rw [Decimal.value, Nat.cast_one, one_mul, grid, whole]
    rfl
  · exact ⟨rfl, Int.le_refl _, positive, Nat.le_refl _, fits⟩

theorem eight_pow_le (q : Nat) : 32 * 8 ^ (q + 1) ≤ 3 * 10 ^ (q + 2) := by
  induction q with
  | zero => decide
  | succ q ih =>
    rw [Nat.pow_succ 8, Nat.pow_succ 10]
    omega

/-- As many digits as it takes to tell all the mantissas of a binade apart are enough. -/
theorem onGrid?_length (tie : Tie) (fine : 3 ≤ f.fracBits) (held : f.Holds m e) (hm : 0 < m) :
    ((f.interval m e).onGrid? tie (wholeLength m e - (f.fracBits / 3 + 2 : Nat))).isSome =
      true := by
  obtain ⟨q, hq⟩ : ∃ q, f.fracBits / 3 = q + 1 := ⟨f.fracBits / 3 - 1, by omega⟩
  have unit : (0 : ℚ) < 2 ^ e := by positivity
  have ten : (10 : ℚ) ≠ 0 := by norm_num
  have at_least := (wholeLength_spec (e := e) hm).1
  have digits : 4 * m < 3 * 10 ^ (q + 2) := by
    have bits : twoPow f.fracBits ≤ 2 ^ (3 * (q + 1) + 2) :=
      Nat.pow_le_pow_right (by decide) (by omega)
    have eight : 2 ^ (3 * (q + 1) + 2) = 4 * 8 ^ (q + 1) := by
      rw [Nat.pow_add, Nat.pow_mul, Nat.mul_comm]
    have tens := eight_pow_le q
    have := held.fits
    omega
  have digits : (m : ℚ) < 3 / 4 * 10 ^ (q + 2 : ℤ) := by
    have : (4 * m : ℚ) < 3 * 10 ^ (q + 2 : ℤ) := by exact_mod_cast digits
    linarith
  refine Interval.onGrid?_isSome _ tie _ (Interval.step_lt ?_)
  calc (10 : ℚ) ^ (wholeLength m e - (f.fracBits / 3 + 2 : Nat)) =
        10 ^ (wholeLength m e - 1) / 10 ^ (q + 2 : ℤ) := by
        rw [← zpow_sub₀ ten, hq]
        congr 1
        push_cast
        ring
    _ ≤ m * 2 ^ e / 10 ^ (q + 2 : ℤ) := by gcongr
    _ < 3 / 4 * 2 ^ e := by
        rw [div_lt_iff₀ (by positivity)]
        nlinarith

/-- The shortest decimal of a positive number is rounded to it. It is positive, and has no more
digits than it takes to tell all the mantissas of a binade apart. -/
theorem shortest_inside (fine : 3 ≤ f.fracBits) (tie : Tie) (held : f.Holds m e) (hm : 0 < m) :
    (f.interval m e).Contains (shortest f tie m e).value ∧ 0 < (shortest f tie m e).digits ∧
      (shortest f tie m e).digits ≤ 10 ^ (f.fracBits / 3 + 2) := by
  obtain ⟨c, k, h, -, value, -, positive, few, fits⟩ :=
    shortest_found tie hm (by omega) (by omega) (onGrid?_length tie fine held hm)
  refine ⟨?_, positive, few.trans fits⟩
  rw [value]
  exact Interval.reaches_iff.1 ((f.interval m e).onGrid?_reaches tie k h)

end

end FieldGateway.Floating
