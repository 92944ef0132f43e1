import FieldGateway.Proofs.Floating.Exact

/-
  What is rounded comes to the nearest number. No number of a format lies between a number and its
  neighbours (`Format.Holds.next`, `Format.Holds.previous`), so the number whose interval a rational
  is in is the nearest to it (`Number.Rounded.nearest`). Rounding keeps to the side of every number
  (`Nearest.le`, `Nearest.ge`), leaves the numbers themselves as they are (`Nearest.exact`), and
  makes whole numbers of whole numbers, the same ones up to `2 ^ 53` (`Double.nearest_whole`,
  `Double.nearest_small`).
-/

namespace FieldGateway.Floating

/-! ## Neighbours -/

section Neighbours

variable {f : Format} {m m' : Nat} {e e' : Int}

/-- Counted in the unit of a number that is not finer, a number is whole. -/
theorem exists_count (m : Nat) (h : e ≤ e') : ∃ n : Nat, (m : ℚ) * 2 ^ e' = n * 2 ^ e := by
  obtain ⟨k, rfl⟩ : ∃ k : Nat, e' = e + k := ⟨(e' - e).toNat, by omega⟩
  refine ⟨m * 2 ^ k, ?_⟩
  rw [zpow_add₀ two_ne_zero, zpow_natCast]
  push_cast
  ring

/-- A number with a finer unit is below all numbers of the binade. -/
theorem Format.Holds.le_of_finer (h : f.Holds m' e') (finer : e' < e) :
    (m' : ℚ) * 2 ^ e' ≤ (2 * twoPow f.fracBits - 1) * 2 ^ (e - 1) := by
  have fits : m' + 1 ≤ 2 * twoPow f.fracBits := h.fits
  have fits : (m' : ℚ) + 1 ≤ 2 * twoPow f.fracBits := by exact_mod_cast fits
  have unit : (2 : ℚ) ^ e' ≤ 2 ^ (e - 1) := zpow_le_zpow_right₀ one_le_two (by omega)
  exact mul_le_mul (by linarith) unit (by positivity) (by linarith [Nat.cast_nonneg (α := ℚ) m'])

theorem Format.Holds.normal_of_finer (h : f.Holds m e) (h' : f.Holds m' e') (finer : e' < e) :
    e ≠ f.minExp ∧ twoPow f.fracBits ≤ m := by
  have least := h'.least
  have above : e ≠ f.minExp := by omega
  exact ⟨above, h.normal.resolve_left above⟩

/-- The next number is one unit further. -/
theorem Format.Holds.next (h : f.Holds m e) (h' : f.Holds m' e')
    (more : (m : ℚ) * 2 ^ e < m' * 2 ^ e') : ((m : ℚ) + 1) * 2 ^ e ≤ m' * 2 ^ e' := by
  have unit : (0 : ℚ) < 2 ^ e := by positivity
  by_cases coarse : e ≤ e'
  · obtain ⟨n, count⟩ := exists_count m' coarse
    rw [count] at more ⊢
    have more : m < n := by exact_mod_cast (mul_lt_mul_iff_left₀ unit).1 more
    refine (mul_le_mul_iff_left₀ unit).2 ?_
    exact_mod_cast more
  · -- a finer number is smaller
    exfalso
    obtain ⟨-, normal⟩ := h.normal_of_finer h' (by omega)
    have below := h'.le_of_finer (e := e) (by omega)
    have normal : (twoPow f.fracBits : ℚ) ≤ m := by exact_mod_cast normal
    rw [zpow_sub_one₀ two_ne_zero] at below
    nlinarith

/-- The number before is one unit away, or half a unit where a binade begins. -/
theorem Format.Holds.previous (h : f.Holds m e) (h' : f.Holds m' e')
    (less : (m' : ℚ) * 2 ^ e' < m * 2 ^ e) :
    (m' : ℚ) * 2 ^ e' ≤ (m - 2 * (f.interval m e).below) * 2 ^ e := by
  have unit : (0 : ℚ) < 2 ^ e := by positivity
  have reach := (f.interval m e).below_le
  by_cases coarse : e ≤ e'
  · obtain ⟨n, count⟩ := exists_count m' coarse
    rw [count] at less ⊢
    have less : n + 1 ≤ m := by exact_mod_cast (mul_lt_mul_iff_left₀ unit).1 less
    have less : (n : ℚ) + 1 ≤ m := by exact_mod_cast less
    refine (mul_le_mul_iff_left₀ unit).2 ?_
    linarith
  · obtain ⟨above, normal⟩ := h.normal_of_finer h' (by omega)
    have below := h'.le_of_finer (e := e) (by omega)
    rw [zpow_sub_one₀ two_ne_zero] at below
    by_cases start : m = twoPow f.fracBits
    · have narrow : (f.interval m e).below = 1 / 4 := by
        simp [Interval.below, Format.interval, above, start]
      rw [narrow, start]
      linarith
    · have normal : twoPow f.fracBits + 1 ≤ m := by omega
      have normal : (twoPow f.fracBits : ℚ) + 1 ≤ m := by exact_mod_cast normal
      nlinarith

/-- No number is nearer to a rational than the one whose interval it is in. -/
theorem Interval.Contains.closest {v : ℚ} (inside : (f.interval m e).Contains v)
    (h : f.Holds m e) (h' : f.Holds m' e') : |m * 2 ^ e - v| ≤ |m' * 2 ^ e' - v| := by
  have unit : (0 : ℚ) < 2 ^ e := by positivity
  have lower : (m - (f.interval m e).below) * 2 ^ e ≤ v := (le_div_iff₀ unit).1 inside.lower
  have upper : v ≤ (m + 1 / 2) * 2 ^ e := (div_le_iff₀ unit).1 inside.upper
  rcases lt_trichotomy ((m' : ℚ) * 2 ^ e') (m * 2 ^ e) with less | same | more
  · have previous := h.previous h' less
    refine le_trans (abs_le.2 ⟨?_, ?_⟩) (neg_le_abs _)
    · linarith
    · linarith
  · rw [same]
  · have next := h.next h' more
    refine le_trans (abs_le.2 ⟨?_, ?_⟩) (le_abs_self _)
    · linarith
    · linarith

end Neighbours

/-! ## The nearest number -/

namespace Number

variable {f : Format} {q : ℚ} {x y : Number f}

/-- A finite number that no other one is nearer to the rational than. -/
structure Nearest (q : ℚ) (x : Number f) : Prop where
  finite : x.isFinite = true
  least {y : Number f} : y.isFinite = true → |x.value - q| ≤ |y.value - q|

/-- A number is nearest to itself. -/
theorem nearest_self (finite : x.isFinite = true) : Nearest x.value x := by
  refine ⟨finite, ?_⟩
  intro y _
  rw [sub_self, abs_zero]
  exact abs_nonneg _

theorem finite_zero (wide : 4 ≤ twoPow f.expBits) (s : Bool) :
    (ofMagnitude f s 0).isFinite = true ∧ (ofMagnitude f s 0).value = 0 := by
  have bits := twoPow_pos f.fracBits
  have room : 0 < f.infinityWord := Nat.mul_pos (by omega) bits
  have held : f.Holds 0 f.minExp :=
    ⟨Int.le_refl _, by omega, .inl rfl, by rw [Format.pack_least]; exact room⟩
  have decoded : (ofMagnitude f s 0).decode = .finite s 0 f.minExp := by
    rw [← decode_ofMagnitude s held, Format.pack_least]
  refine ⟨(isFinite_iff _).2 ⟨_, _, _, decoded⟩, ?_⟩
  rw [← abs_eq_zero, abs_value decoded]
  simp

/-- No finite number is beyond the greatest. -/
theorem abs_value_le (wide : 4 ≤ twoPow f.expBits) (finite : x.isFinite = true) :
    |x.value| ≤ f.greatest := by
  obtain ⟨s, m, e, hx⟩ := (isFinite_iff x).1 finite
  obtain ⟨-, held, -⟩ := decode_finite hx
  have last := held.le_last wide
  have fits : m + 1 ≤ 2 * twoPow f.fracBits := held.fits
  have fits : (m : ℚ) + 1 ≤ 2 * twoPow f.fracBits := by exact_mod_cast fits
  rw [abs_value hx]
  exact mul_le_mul (by linarith) (zpow_le_zpow_right₀ one_le_two last) (by positivity)
    (by linarith [Nat.cast_nonneg (α := ℚ) m])

/-- Rounding goes to the nearest number, up to the greatest one. -/
theorem Rounded.nearest (wide : 4 ≤ twoPow f.expBits) (fine : 1 ≤ f.fracBits) (h : Rounded q x)
    (below : |q| ≤ f.greatest) : Nearest q x := by
  obtain ⟨s, n, d, hd, rfl, ratio, sign⟩ := h
  by_cases zero : q = 0
  · have none : n = 0 := by
      rw [zero, abs_zero, div_eq_zero_iff] at ratio
      have : (d : ℚ) ≠ 0 := by exact_mod_cast hd.ne'
      exact_mod_cast ratio.resolve_right this
    obtain ⟨finite, value⟩ := finite_zero wide s
    rw [zero, none, ofRatio, magnitudeOfRatio, if_pos rfl, ← value]
    exact nearest_self finite
  have positive : 0 < |q| := abs_pos.2 zero
  have hn : 0 < n := by
    apply Nat.pos_of_ne_zero
    rintro rfl
    simp [← ratio] at positive
  rw [← ratio] at below
  obtain ⟨m, e, held, inside⟩ := exists_contains wide fine hn hd below
  have decoded : (ofRatio f s n d).decode = .finite s m e := by
    rw [ofRatio, magnitudeOfRatio_eq held hn hd inside, decode_ofMagnitude s held]
  rw [ratio] at inside
  -- the number is on the side of zero that the rational is on
  have distance : |(ofRatio f s n d).value - q| = |(m * 2 ^ e - |q| : ℚ)| := by
    rw [value, decoded, Datum.value, sign zero]
    by_cases negative : q < 0
    · rw [if_pos (decide_eq_true negative), abs_of_neg negative, ← abs_neg]
      congr 1
      ring
    · rw [if_neg (by simpa using negative), abs_of_nonneg (not_lt.1 negative)]
  refine ⟨(isFinite_iff _).2 ⟨_, _, _, decoded⟩, ?_⟩
  intro y finite
  obtain ⟨t, m', e', hy⟩ := (isFinite_iff y).1 finite
  obtain ⟨-, held', -⟩ := decode_finite hy
  calc |(ofRatio f s n d).value - q| = |(m * 2 ^ e - |q| : ℚ)| := distance
    _ ≤ |(m' * 2 ^ e' - |q| : ℚ)| := inside.closest held held'
    _ = |(|y.value| - |q|)| := by rw [abs_value hy]
    _ ≤ |y.value - q| := abs_abs_sub_abs_le _ _

/-- A number is nearest to itself only. -/
theorem Nearest.exact (h : Nearest q x) (finite : y.isFinite = true) (same : y.value = q) :
    x.value = q := by
  have least := h.least finite
  rw [same, sub_self, abs_zero] at least
  exact sub_eq_zero.1 (abs_nonpos_iff.1 least)

/-- A number that is rounded stays as it is. -/
theorem Rounded.exact (wide : 4 ≤ twoPow f.expBits) (fine : 1 ≤ f.fracBits) (h : Rounded q x)
    (finite : y.isFinite = true) (same : y.value = q) : x.isFinite = true ∧ x.value = q := by
  have nearest := h.nearest wide fine (same ▸ abs_value_le wide finite)
  exact ⟨nearest.finite, nearest.exact finite same⟩

/-- What is rounded stays on its side of every number. -/
theorem Nearest.le (h : Nearest q x) (finite : y.isFinite = true) (le : q ≤ y.value) :
    x.value ≤ y.value := by
  have least := h.least finite
  by_contra above
  rw [abs_of_pos (by linarith), abs_of_nonneg (by linarith)] at least
  linarith

theorem Nearest.ge (h : Nearest q x) (finite : y.isFinite = true) (le : y.value ≤ q) :
    y.value ≤ x.value := by
  have least := h.least finite
  by_contra below
  rw [abs_of_neg (by linarith), abs_of_nonpos (by linarith)] at least
  linarith

end Number

/-! ## Whole numbers -/

namespace Double

open Number

variable {q : ℚ} {x : Double} {i : Int}

/-- A whole number that is not beyond all of use is rounded to the nearest double. -/
theorem nearest_of_rounded (h : Rounded (i : ℚ) x) (below : i.natAbs ≤ 2 ^ 100) :
    Nearest (i : ℚ) x := by
  have room : (2 : ℚ) ^ 100 ≤ Format.double.greatest := by
    rw [← zpow_natCast]
    exact Format.le_greatest (zpow_le_zpow_right₀ one_le_two (by decide))
  have size : |(i : ℚ)| ≤ 2 ^ 100 := by
    rw [← Int.cast_abs, ← Nat.cast_natAbs]
    exact_mod_cast below
  exact h.nearest (by decide) (by decide) (size.trans room)

theorem exists_of_fits {v : ℚ} (h : Fits v) (s : Bool) :
    ∃ y : Double, y.isFinite = true ∧ y.value = if s then -v else v := by
  obtain ⟨a, j, positive, fits, low, high, rfl⟩ := h
  obtain ⟨m, e, held, -, same⟩ := exists_exact positive fits low high
  have decoded := decode_ofMagnitude s held
  refine ⟨_, (isFinite_iff _).2 ⟨_, _, _, decoded⟩, ?_⟩
  rw [value, decoded, Datum.value, same]

/-- The whole numbers up to `2 ^ 53` are doubles. -/
theorem exists_whole (small : i.natAbs ≤ 2 ^ 53) :
    ∃ y : Double, y.isFinite = true ∧ y.value = i := by
  by_cases zero : i = 0
  · obtain ⟨finite, value⟩ := finite_zero (f := Format.double) (by decide) false
    exact ⟨_, finite, by rw [value, zero, Int.cast_zero]⟩
  have fits : Fits i.natAbs := by
    by_cases top : i.natAbs = 2 ^ 53
    · exact ⟨1, 53, by decide, by decide, by decide, by decide, by rw [top]; norm_num⟩
    · exact fits_of_lt (by omega) (by omega)
  obtain ⟨y, finite, value⟩ := exists_of_fits fits (i < 0)
  refine ⟨y, finite, ?_⟩
  rw [value, Nat.cast_natAbs, Int.cast_abs]
  by_cases negative : i < 0
  · have below : (i : ℚ) < 0 := by exact_mod_cast negative
    simp [negative, abs_of_neg below]
  · have above : (0 : ℚ) ≤ i := by exact_mod_cast not_lt.1 negative
    simp [negative, abs_of_nonneg above]

/-- Whole numbers up to `2 ^ 53` are rounded to themselves. -/
theorem nearest_small (h : Nearest (i : ℚ) x) (small : i.natAbs ≤ 2 ^ 53) : x.value = i := by
  obtain ⟨y, finite, same⟩ := exists_whole small
  exact h.exact finite same

/-- A number that is no less than another one, which is no greater than `2 ^ 53`, is no less when
it is rounded. -/
theorem nearest_ge {j : Int} (h : Nearest (i : ℚ) x) (small : j.natAbs ≤ 2 ^ 53) (le : j ≤ i) :
    (j : ℚ) ≤ x.value := by
  obtain ⟨y, finite, same⟩ := exists_whole small
  rw [← same]
  exact h.ge finite (by rw [same]; exact_mod_cast le)

theorem nearest_le {j : Int} (h : Nearest (i : ℚ) x) (small : j.natAbs ≤ 2 ^ 53) (le : i ≤ j) :
    x.value ≤ j := by
  obtain ⟨y, finite, same⟩ := exists_whole small
  rw [← same]
  exact h.le finite (by rw [same]; exact_mod_cast le)

/-- A double of `2 ^ 53` or more is whole. -/
theorem whole_of_large (finite : x.isFinite = true) (large : 2 ^ 53 ≤ |x.value|) :
    ∃ k : Int, x.value = k := by
  obtain ⟨s, m, e, hx⟩ := (isFinite_iff x).1 finite
  obtain ⟨-, held, -⟩ := decode_finite hx
  have fits : m < 2 ^ 53 := held.fits
  have fits : (m : ℚ) < 2 ^ 53 := by exact_mod_cast fits
  rw [abs_value hx] at large
  have coarse : 0 ≤ e := by
    by_contra fine
    have unit : (2 : ℚ) ^ e ≤ 1 := zpow_le_one_of_nonpos₀ one_le_two (by omega)
    have := mul_le_of_le_one_right (Nat.cast_nonneg (α := ℚ) m) unit
    linarith
  obtain ⟨n, count⟩ := exists_count m coarse
  rw [zpow_zero, mul_one] at count
  refine ⟨if s then -n else n, ?_⟩
  rw [value, hx, Datum.value, count]
  cases s <;> simp

/-- A whole number is rounded to a whole number. -/
theorem nearest_whole (h : Nearest (i : ℚ) x) : ∃ k : Int, x.value = k := by
  by_cases small : i.natAbs ≤ 2 ^ 53
  · exact ⟨i, nearest_small h small⟩
  · apply whole_of_large h.finite
    by_cases negative : i < 0
    · have := nearest_le h (j := -2 ^ 53) (by decide) (by omega)
      rw [le_abs]
      push_cast at this
      exact .inr (by linarith)
    · have := nearest_ge h (j := 2 ^ 53) (by decide) (by omega)
      rw [le_abs]
      push_cast at this
      exact .inl this

/-- The whole part of a double is a double. -/
theorem trunc_exact (finite : x.isFinite = true) :
    x.trunc.isFinite = true ∧ x.trunc.value = towardZero x.value := by
  obtain ⟨y, whole, same⟩ : ∃ y : Double, y.isFinite = true ∧ y.value = towardZero x.value := by
    by_cases large : 2 ^ 53 ≤ |x.value|
    · obtain ⟨k, value⟩ := whole_of_large finite large
      exact ⟨x, finite, by rw [value, towardZero_intCast]⟩
    · refine exists_whole ?_
      have cut : ((towardZero x.value).natAbs : ℚ) ≤ |x.value| := natAbs_towardZero_le _
      exact_mod_cast cut.trans (not_le.1 large).le
  exact (trunc_rounded finite).exact (by decide) (by decide) whole same

end Double

end FieldGateway.Floating
