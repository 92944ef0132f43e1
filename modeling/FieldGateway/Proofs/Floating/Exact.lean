import FieldGateway.Proofs.Floating.Rounded
import Mathlib.Data.Rat.Floor

/-
  Finite numbers as the rationals they stand for (`Number.value`). The order on words is the order
  of these (`le_iff`, `lt_iff`), a sign is their sign (`value_neg`), the whole part is theirs
  (`truncate_eq`), and a sum is the rounded sum of them (`add_rounded`).
-/

namespace FieldGateway.Floating

theorem shiftUp_eq {e : Int} (n : Nat) (h : 0 ≤ e) : (shiftUp n e : ℚ) = n * 2 ^ e := by
  obtain ⟨k, rfl⟩ := Int.eq_ofNat_of_zero_le h
  simp [shiftUp, twoPow]

/-- A rational cut off toward zero. -/
def towardZero (q : ℚ) : Int := if q < 0 then ⌈q⌉ else ⌊q⌋

@[simp] theorem towardZero_intCast (i : Int) : towardZero i = i := by
  simp [towardZero]

theorem towardZero_of_nonneg {q : ℚ} (h : 0 ≤ q) : towardZero q = ⌊q⌋ := if_neg (not_lt.2 h)

theorem towardZero_neg {q : ℚ} (h : 0 ≤ q) : towardZero (-q) = -⌊q⌋ := by
  rw [towardZero, Int.ceil_neg, Int.floor_neg]
  split
  · rfl
  · obtain rfl : q = 0 := by linarith
    simp

theorem natAbs_towardZero_le (q : ℚ) : ((towardZero q).natAbs : ℚ) ≤ |q| := by
  rcases le_total 0 q with h | h
  · rw [towardZero_of_nonneg h, abs_of_nonneg h, Nat.cast_natAbs,
      abs_of_nonneg (Int.floor_nonneg.2 h)]
    exact Int.floor_le q
  · have opposite := neg_nonneg.2 h
    rw [← neg_neg q, towardZero_neg opposite, Int.natAbs_neg, abs_neg, abs_of_nonneg opposite,
      Nat.cast_natAbs, abs_of_nonneg (Int.floor_nonneg.2 opposite)]
    exact Int.floor_le (-q)

namespace Datum

/-- The rational that a finite datum stands for. What is not finite counts as nothing. -/
def value : Datum → ℚ
  | .finite s m e => if s then -(m * 2 ^ e) else m * 2 ^ e
  | _ => 0

/-- A datum counted in a unit is its value in that unit. -/
theorem signed_eq (s : Bool) (m : Nat) {e u : Int} (h : u ≤ e) :
    (signed s m e u : ℚ) = (finite s m e).value / 2 ^ u := by
  have count : (shiftUp m (e - u) : ℚ) = m * 2 ^ e / 2 ^ u := by
    rw [shiftUp_eq m (by omega), zpow_sub₀ two_ne_zero, mul_div_assoc]
  cases s with
  | false => simpa [signed, value] using count
  | true => simpa [signed, value, neg_div] using count

end Datum

namespace Number

variable {f : Format} {x y : Number f}

def value (x : Number f) : ℚ := x.decode.value

theorem isFinite_iff (x : Number f) : x.isFinite = true ↔ ∃ s m e, x.decode = .finite s m e := by
  unfold isFinite
  cases x.decode <;> simp

theorem abs_value {s : Bool} {m : Nat} {e : Int} (h : x.decode = .finite s m e) :
    |x.value| = m * 2 ^ e := by
  have positive : (0 : ℚ) ≤ m * 2 ^ e := by positivity
  cases s <;> simp [value, Datum.value, h, abs_of_nonneg positive]

/-- Finite numbers are in the order of their values. -/
theorem compare?_eq (hx : x.isFinite = true) (hy : y.isFinite = true) :
    x.decode.compare? y.decode = some (compare x.value y.value) := by
  obtain ⟨s, m, e, hx⟩ := (isFinite_iff x).1 hx
  obtain ⟨t, n, d, hy⟩ := (isFinite_iff y).1 hy
  have unit : (0 : ℚ) < 2 ^ min e d := by positivity
  have left : x.value = Datum.signed s m e (min e d) * 2 ^ min e d := by
    rw [Datum.signed_eq s m (min_le_left e d), div_mul_cancel₀ _ unit.ne', value, hx]
  have right : y.value = Datum.signed t n d (min e d) * 2 ^ min e d := by
    rw [Datum.signed_eq t n (min_le_right e d), div_mul_cancel₀ _ unit.ne', value, hy]
  rw [hx, hy, left, right]
  refine congrArg some ?_
  rcases lt_trichotomy (Datum.signed s m e (min e d)) (Datum.signed t n d (min e d)) with h | h | h
  · rw [compare_lt_iff_lt.2 h, eq_comm, compare_lt_iff_lt, mul_lt_mul_iff_left₀ unit]
    exact_mod_cast h
  · rw [h, compare_eq_iff_eq.2 rfl, compare_eq_iff_eq.2 rfl]
  · rw [compare_gt_iff_gt.2 h, eq_comm, compare_gt_iff_gt, mul_lt_mul_iff_left₀ unit]
    exact_mod_cast h

theorem le_iff (hx : x.isFinite = true) (hy : y.isFinite = true) :
    x.le y = true ↔ x.value ≤ y.value := by
  rw [le, compare?_eq hx hy, ← compare_le_iff_le]
  cases compare x.value y.value <;> simp

theorem lt_iff (hx : x.isFinite = true) (hy : y.isFinite = true) :
    x.lt y = true ↔ x.value < y.value := by
  rw [lt, compare?_eq hx hy, ← compare_lt_iff_lt]
  simp

theorem isFinite_neg (hx : x.isFinite = true) : x.neg.isFinite = true := by
  obtain ⟨s, m, e, hx⟩ := (isFinite_iff x).1 hx
  exact (isFinite_iff _).2 ⟨_, _, _, decode_neg hx⟩

theorem value_neg (hx : x.isFinite = true) : x.neg.value = -x.value := by
  obtain ⟨s, m, e, hx⟩ := (isFinite_iff x).1 hx
  rw [value, value, decode_neg hx, hx]
  cases s <;> simp [Datum.value]

theorem isFinite_abs (hx : x.isFinite = true) : x.abs.isFinite = true := by
  obtain ⟨s, m, e, hx⟩ := (isFinite_iff x).1 hx
  exact (isFinite_iff _).2 ⟨_, _, _, decode_abs hx⟩

theorem value_abs (hx : x.isFinite = true) : x.abs.value = |x.value| := by
  obtain ⟨s, m, e, hx⟩ := (isFinite_iff x).1 hx
  rw [abs_value hx, value, decode_abs hx]
  rfl

/-! ## Whole parts -/

/-- The whole part of a finite number, as its sign and its size. -/
theorem towardZero_value {s : Bool} {m : Nat} {e : Int} (h : x.decode = .finite s m e) :
    towardZero x.value =
      if s then -((shiftUp m e / shiftUp 1 (-e) : Nat) : Int)
      else (shiftUp m e / shiftUp 1 (-e) : Nat) := by
  have size : ⌊(m : ℚ) * 2 ^ e⌋ = (shiftUp m e / shiftUp 1 (-e) : Nat) := by
    rw [← ratio_two]
    exact Rat.floor_intCast_div_natCast (shiftUp m e) _
  have positive : (0 : ℚ) ≤ m * 2 ^ e := by positivity
  rw [value, h, Datum.value, ← size]
  cases s with
  | false => exact towardZero_of_nonneg positive
  | true => exact towardZero_neg positive

theorem truncate_eq (hx : x.isFinite = true) : x.truncate = some (towardZero x.value) := by
  obtain ⟨s, m, e, hx⟩ := (isFinite_iff x).1 hx
  rw [truncate, hx, towardZero_value hx]
  rfl

/-- The whole part of a whole number is the number. -/
theorem truncate_of_whole (hx : x.isFinite = true) {i : Int} (whole : x.value = i) :
    x.truncate = some i := by
  rw [truncate_eq hx, whole, towardZero_intCast]

theorem isFinite_of_truncate {i : Int} (h : x.truncate = some i) : x.isFinite = true := by
  unfold truncate at h
  split at h
  · rename_i decoded
    exact (isFinite_iff x).2 ⟨_, _, _, decoded⟩
  · cases h

/-! ## What is rounded -/

/-- The rational is rounded to the number, as a sign and a ratio. -/
def Rounded (q : ℚ) (x : Number f) : Prop :=
  ∃ s n d, 0 < d ∧ x = ofRatio f s n d ∧ (n : ℚ) / d = |q| ∧ (q ≠ 0 → s = decide (q < 0))

theorem ofInt_rounded (f : Format) (i : Int) : Rounded i (ofInt f i) := by
  refine ⟨_, i.natAbs, 1, Nat.one_pos, rfl, ?_, ?_⟩
  · rw [Nat.cast_one, div_one, Nat.cast_natAbs, Int.cast_abs]
  · intro _
    simp

theorem trunc_rounded (hx : x.isFinite = true) : Rounded (towardZero x.value : Int) x.trunc := by
  obtain ⟨s, m, e, hx⟩ := (isFinite_iff x).1 hx
  refine ⟨s, _, 1, Nat.one_pos, by rw [trunc, hx], ?_, ?_⟩
  all_goals
    rw [towardZero_value hx]
    generalize shiftUp m e / shiftUp 1 (-e) = n
  · cases s <;> simp
  · intro other
    cases s with
    | false => simp
    | true => simpa [Nat.pos_iff_ne_zero] using other

/-- A change of the format is one rounding. -/
theorem convert_rounded (g : Format) (hx : x.isFinite = true) : Rounded x.value (convert g x) := by
  obtain ⟨s, m, e, hx⟩ := (isFinite_iff x).1 hx
  refine ⟨s, _, _, shiftUp_pos Nat.one_pos (-e), by rw [convert, hx]; rfl, ?_, ?_⟩
  · rw [ratio_two, abs_value hx]
  · intro other
    rw [value, hx, Datum.value] at other ⊢
    have positive : (0 : ℚ) ≤ m * 2 ^ e := by positivity
    cases s with
    | false => simpa using positive
    | true =>
      have : (m : ℚ) * 2 ^ e ≠ 0 := by simpa using other
      simpa using positive.lt_of_ne this.symm

/-- A sum is the exact sum, rounded once. -/
theorem add_rounded (hx : x.isFinite = true) (hy : y.isFinite = true) :
    Rounded (x.value + y.value) (x.add y) := by
  obtain ⟨s, m, e, hx⟩ := (isFinite_iff x).1 hx
  obtain ⟨t, n, d, hy⟩ := (isFinite_iff y).1 hy
  let u := min e d
  let sum := Datum.signed s m e u + Datum.signed t n d u
  have unit : (0 : ℚ) < 2 ^ u := by positivity
  have exact : x.value + y.value = sum * 2 ^ u := by
    rw [value, value, hx, hy, Int.cast_add, Datum.signed_eq s m (min_le_left e d),
      Datum.signed_eq t n (min_le_right e d), ← add_div, div_mul_cancel₀ _ unit.ne']
  have added : x.add y = if sum = 0 then ofScaled f (s && t && m == 0 && n == 0) 0 u
      else ofScaled f (sum < 0) sum.natAbs u := by
    rw [add, hx, hy]
  by_cases zero : sum = 0
  · rw [if_pos zero] at added
    refine ⟨_, _, _, shiftUp_pos Nat.one_pos (-u), added, ?_, ?_⟩
    · rw [ratio_two, exact, zero]
      simp
    · rw [exact, zero]
      simp
  · rw [if_neg zero] at added
    refine ⟨_, _, _, shiftUp_pos Nat.one_pos (-u), added, ?_, ?_⟩
    · rw [ratio_two, exact, abs_mul, abs_of_pos unit, Nat.cast_natAbs, Int.cast_abs]
    · intro _
      rw [exact, decide_eq_decide, mul_neg_iff]
      simp [unit, unit.le]

theorem sub_rounded (hx : x.isFinite = true) (hy : y.isFinite = true) :
    Rounded (x.value - y.value) (x.sub y) := by
  have sum := add_rounded hx (isFinite_neg hy)
  rw [value_neg hy, ← sub_eq_add_neg] at sum
  exact sum

end Number

end FieldGateway.Floating
