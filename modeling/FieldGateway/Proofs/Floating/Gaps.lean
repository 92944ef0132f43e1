import Mathlib.Data.Nat.GCD.Basic
import Mathlib.Tactic.Linarith
import Mathlib.Tactic.Ring

/-
  Small decimals of few digits keep clear of small binary numbers of few bits. A fraction near to
  the quotient of the two units certifies that (`confines`): a decimal that is close to a binary
  number has to be in the proportion of that very fraction, and if the fraction is not close itself
  there is none. The fractions are convergents of the quotient (`findsGap`). Among the units that
  occur there is one binary number that a decimal is close to (`gap`).
-/

namespace FieldGateway.Floating

/-- `c` units of `n` and `m` units of `d` are within 25 parts in `2 ^ 56` of each other. -/
structure Close (n d c m : Nat) : Prop where
  le : 2 ^ 56 * (c * n) ≤ 2 ^ 56 * (m * d) + 25 * (c * n)
  ge : 2 ^ 56 * (m * d) ≤ 2 ^ 56 * (c * n) + 25 * (c * n)

/-- The greatest count of units of `n` that may be close to `2 ^ 25` units of `d`. -/
def greatestCount (n d : Nat) : Nat := 2 ^ 81 * d / ((2 ^ 56 - 25) * n)

/-- How far the fraction `p / q` is from `n / d`. -/
def deviation (n d p q : Nat) : Nat := (p * d - q * n) + (q * n - p * d)

/-- The fraction is so near to `n / d` that whatever is close is in its proportion. -/
def confines (n d p q : Nat) : Bool :=
  greatestCount n d * (2 ^ 56 * deviation n d p q + 25 * (q * n)) < 2 ^ 56 * d

/-- The fraction itself is not close. -/
def departs (n d p q : Nat) : Bool := 25 * (q * n) < 2 ^ 56 * deviation n d p q

section

variable {n d p q c m : Nat}

theorem Close.le_greatestCount (close : Close n d c m) (hn : 0 < n) (hm : m ≤ 2 ^ 25) :
    c ≤ greatestCount n d := by
  refine (Nat.le_div_iff_mul_le (Nat.mul_pos (by decide) hn)).2 ?_
  have units := Nat.mul_le_mul_right d hm
  have below := close.le
  calc c * ((2 ^ 56 - 25) * n) = (2 ^ 56 - 25) * (c * n) := by ring
    _ ≤ 2 ^ 56 * (m * d) := by omega
    _ ≤ 2 ^ 81 * d := by omega

/-- What is close is in the proportion of a fraction that is near enough. -/
theorem Close.proportion (close : Close n d c m) (hn : 0 < n) (hm : m ≤ 2 ^ 25)
    (certified : confines n d p q = true) : c * p = m * q := by
  have few := close.le_greatestCount hn hm
  obtain ⟨le, ge⟩ := close
  have limit : c * (2 ^ 56 * deviation n d p q + 25 * (q * n)) < 2 ^ 56 * d :=
    Nat.lt_of_le_of_lt (Nat.mul_le_mul_right _ few) (of_decide_eq_true certified)
  have near : p * d ≤ q * n + deviation n d p q ∧ q * n ≤ p * d + deviation n d p q := by
    unfold deviation
    omega
  -- one unit of the numerator would take them further apart than they are
  obtain less | same | more := Nat.lt_trichotomy (c * p) (m * q)
  · have apart := Nat.mul_le_mul_right d (show c * p + 1 ≤ m * q from less)
    have := Nat.mul_le_mul_left c near.2
    have := Nat.mul_le_mul_left q ge
    nlinarith
  · exact same
  · have apart := Nat.mul_le_mul_right d (show m * q + 1 ≤ c * p from more)
    have := Nat.mul_le_mul_left c near.1
    have := Nat.mul_le_mul_left q le
    nlinarith

/-- Nothing is close if the fraction is not close itself. -/
theorem Close.not_departs (close : Close n d c m) (hn : 0 < n) (hm : m ≤ 2 ^ 25) (hc : 0 < c)
    (certified : confines n d p q = true) : ¬ departs n d p q = true := by
  intro far
  have same := close.proportion hn hm certified
  have far : 25 * (q * n) < 2 ^ 56 * deviation n d p q := of_decide_eq_true far
  obtain ⟨le, ge⟩ := close
  have le := Nat.mul_le_mul_left q le
  have ge := Nat.mul_le_mul_left q ge
  have proportion : c * (p * d) = q * (m * d) := by rw [← Nat.mul_assoc, same]; ring
  have := Nat.mul_lt_mul_of_pos_left far hc
  obtain h | h := Nat.le_total (p * d) (q * n)
  · have parts : deviation n d p q + p * d = q * n := by
      unfold deviation
      omega
    have scaled : c * (deviation n d p q + p * d) = c * (q * n) := by rw [parts]
    nlinarith
  · have parts : deviation n d p q + q * n = p * d := by
      unfold deviation
      omega
    have scaled : c * (deviation n d p q + q * n) = c * (p * d) := by rw [parts]
    nlinarith

/-- A fraction in lowest terms that is near enough, and too large to be taken twice, is the only
one that may be close. -/
theorem Close.eq_of_coprime (close : Close n d c m) (hn : 0 < n) (hm : m ≤ 2 ^ 25) (pos : 0 < m)
    (certified : confines n d p q = true) (lowest : Nat.Coprime p q) (large : 2 ^ 25 < 2 * p) :
    m = p := by
  have same := close.proportion hn hm certified
  obtain ⟨j, rfl⟩ : p ∣ m := lowest.dvd_of_dvd_mul_right (same ▸ Nat.dvd_mul_left p c)
  have : j < 2 := by
    by_contra more
    have := Nat.mul_le_mul_left p (show 2 ≤ j by omega)
    omega
  have : j ≠ 0 := by
    rintro rfl
    exact absurd pos (Nat.lt_irrefl 0)
  rw [show j = 1 by omega, Nat.mul_one]

end

/-- Looks for a fraction that shows a gap, among the convergents of `n / d`: the quotient is taken
apart by division, and `p / q` and `p' / q'` are the last convergents. -/
def findsGap (n d : Nat) : (fuel a b p q p' q' : Nat) → Bool
  | 0, _, _, _, _, _, _ => false
  | fuel + 1, a, b, p, q, p', q' =>
    let r := a / b * p' + p
    let s := a / b * q' + q
    confines n d r s && departs n d r s || findsGap n d fuel b (a % b) p' q' r s

theorem exists_of_findsGap {n d fuel a b p q p' q' : Nat}
    (h : findsGap n d fuel a b p q p' q' = true) :
    ∃ r s, confines n d r s = true ∧ departs n d r s = true := by
  induction fuel generalizing a b p q p' q' with
  | zero => cases h
  | succ fuel ih =>
    rw [findsGap, Bool.or_eq_true, Bool.and_eq_true] at h
    obtain here | later := h
    · exact ⟨_, _, here⟩
    · exact ih later

/-- The decimal unit is `10 ^ -(k + 23)`, the binary one `2 ^ -h`. -/
def gapBetween (k h : Nat) : Bool :=
  let n := 2 ^ h
  let d := 10 ^ (k + 23)
  5 * n < 7 * d || greatestCount n d == 0 || findsGap n d 40 n d 0 1 1 0

theorem gaps : ∀ k < 23, ∀ h < 151, gapBetween k h = true ∨ (k = 9 ∧ (h = 107 ∨ h = 108)) := by
  decide +kernel

/-- The one small binary number that a decimal of few digits is close to is `22841339 · 2 ^ -108`,
and its double. -/
theorem gap {k h c m : Nat} (hk : k < 23) (hh : h < 151) (coarse : 7 * 10 ^ (k + 23) ≤ 5 * 2 ^ h)
    (hc : 0 < c) (hm : m ≤ 2 ^ 25) (close : Close (2 ^ h) (10 ^ (k + 23)) c m) :
    m = 22841339 ∧ (h = 107 ∨ h = 108) := by
  have hn : 0 < 2 ^ h := Nat.two_pow_pos h
  obtain found | ⟨rfl, exponent⟩ := gaps k hk h hh
  · refine absurd found ?_
    rw [gapBetween, Bool.or_eq_true, Bool.or_eq_true, decide_eq_true_eq, beq_iff_eq, not_or, not_or]
    refine ⟨⟨by omega, fun none => ?_⟩, fun finds => ?_⟩
    · have := close.le_greatestCount hn hm
      omega
    · obtain ⟨p, q, near, far⟩ := exists_of_findsGap finds
      exact close.not_departs hn hm hc near far
  · have pos : 0 < m := by
      refine Nat.pos_of_ne_zero fun zero => ?_
      have le := close.le
      have units := Nat.mul_pos hc hn
      rw [zero] at le
      omega
    refine ⟨?_, exponent⟩
    obtain rfl | rfl := exponent
    · exact close.eq_of_coprime hn hm pos (q := 14077062) (by decide +kernel) (by decide +kernel)
        (by decide)
    · exact close.eq_of_coprime hn hm pos (q := 7038531) (by decide +kernel) (by decide +kernel)
        (by decide)

end FieldGateway.Floating
