import FieldGateway.Value.Basic
import FieldGateway.Floating.Arithmetic

/-
  Sameness of values, the equality by which a sampler finds out whether something changed. What is
  the same as a value is the same as all that this is the same as (`same_congr`, and
  `sameValues_congr` for whole answers). A value with a NaN in it is the same as nothing,
  itself included (`same_of_hasNaN`).
-/

namespace FieldGateway

/-! ## Floating-point numbers -/

namespace Floating

namespace Datum

variable {s t u : Bool} {m n k : Nat} {e d c b : Int}

/-- Counting in a smaller unit scales the count. -/
theorem signed_scale {a : Int} (hb : b ≤ a) (ha : a ≤ e) :
    signed s m e b = signed s m e a * twoPow (a - b).toNat := by
  have exponent : (e - b).toNat = (e - a).toNat + (a - b).toNat := by omega
  have power : shiftUp m (e - b) = shiftUp m (e - a) * twoPow (a - b).toNat := by
    show m * 2 ^ (e - b).toNat = m * 2 ^ (e - a).toNat * 2 ^ (a - b).toNat
    rw [exponent, Nat.pow_add, Nat.mul_assoc]
  rw [signed, signed, power, Int.natCast_mul]
  cases s with
  | true => exact (Int.neg_mul _ _).symm
  | false => rfl

/-- Finite data are compared in any unit in which both can be counted. -/
theorem compare?_finite (he : b ≤ e) (hd : b ≤ d) :
    compare? (.finite s m e) (.finite t n d) = some .eq ↔ signed s m e b = signed t n d b := by
  have le : b ≤ min e d := Int.le_min.2 ⟨he, hd⟩
  have scale : (twoPow (min e d - b).toNat : Int) ≠ 0 :=
    Int.natCast_ne_zero.2 (Nat.ne_of_gt (Nat.two_pow_pos _))
  rw [compare?, signed_scale le (Int.min_le_left e d), signed_scale le (Int.min_le_right e d),
    Int.mul_eq_mul_right_iff scale, Option.some_inj, Std.compare_eq_iff_eq]

theorem compare?_congr {x y : Datum} (h : compare? x y = some .eq) (z : Datum) :
    compare? x z = some .eq ↔ compare? y z = some .eq := by
  cases x with
  | finite s m e =>
    cases y with
    | finite t n d =>
      cases z with
      | finite u k c =>
        -- all three are counted in one unit
        let b := min (min e d) c
        have he : b ≤ e := by omega
        have hd : b ≤ d := by omega
        have hc : b ≤ c := by omega
        rw [compare?_finite he hd] at h
        rw [compare?_finite he hc, compare?_finite hd hc, h]
      | _ => simp [compare?]
    | infinite t => cases t <;> cases h
    | nan => cases h
  | infinite s =>
    cases y with
    | infinite t =>
      cases s <;> cases t <;> first | rfl | cases h
    | finite => cases s <;> cases h
    | nan => cases h
  | nan => cases h

end Datum

namespace Number

variable {f : Format}

theorem same_iff (x y : Number f) :
    x.same y = true ↔ Datum.compare? x.decode y.decode = some .eq := by
  rw [same, beq_iff_eq]

theorem same_congr {x y : Number f} (h : x.same y = true) (z : Number f) :
    x.same z = y.same z := by
  rw [same_iff] at h
  rw [Bool.eq_iff_iff, same_iff, same_iff, Datum.compare?_congr h]

/-- Nothing is the same as a NaN. -/
theorem same_of_isNaN (x : Number f) {y : Number f} (h : y.isNaN = true) : x.same y = false := by
  rw [isNaN, beq_iff_eq] at h
  rw [same, h]
  cases x.decode <;> rfl

end Number

end Floating

/-! ## JSON -/

namespace Json

theorem Number.same_congr {x y : Number} (h : x.same y = true) (z : Number) :
    x.same z = y.same z := by
  cases x with
  | whole i =>
    cases y with
    | whole j => rw [eq_of_beq (show (i == j) = true from h)]
    | real y => cases h
  | real x =>
    cases y with
    | whole j => cases h
    | real y =>
      cases z with
      | whole i => rfl
      | real z => exact Floating.Number.same_congr h z

mutual

theorem same_congr : ∀ (x : Json) {y : Json}, x.same y = true → ∀ z, x.same z = y.same z
  | .null, y, h, z => by
    cases y with
    | null => rfl
    | _ => cases h
  | .bool a, y, h, z => by
    cases y with
    | bool b =>
      rw [same, beq_iff_eq] at h
      rw [h]
    | _ => cases h
  | .num m, y, h, z => by
    cases y with
    | num n =>
      rw [same] at h
      cases z with
      | num k => rw [same, same, Number.same_congr h]
      | _ => rfl
    | _ => cases h
  | .str s, y, h, z => by
    cases y with
    | str t =>
      rw [same, beq_iff_eq] at h
      rw [h]
    | _ => cases h
  | .arr xs, y, h, z => by
    cases y with
    | arr ys =>
      rw [same] at h
      cases z with
      | arr zs => rw [same, same, sameItems_congr xs h]
      | _ => rfl
    | _ => cases h
  | .obj ms, y, h, z => by
    cases y with
    | obj ns =>
      rw [same] at h
      cases z with
      | obj ks => rw [same, same, sameMembers_congr ms h]
      | _ => rfl
    | _ => cases h

theorem sameItems_congr : ∀ (xs : List Json) {ys : List Json}, sameItems xs ys = true →
    ∀ zs, sameItems xs zs = sameItems ys zs
  | [], ys, h, zs => by
    cases ys with
    | nil => rfl
    | cons y ys => cases h
  | x :: xs, ys, h, zs => by
    cases ys with
    | nil => cases h
    | cons y ys =>
      rw [sameItems, Bool.and_eq_true] at h
      cases zs with
      | nil => rfl
      | cons z zs => rw [sameItems, sameItems, same_congr x h.1, sameItems_congr xs h.2]

theorem sameMembers_congr : ∀ (ms : List (String × Json)) {ns : List (String × Json)},
    sameMembers ms ns = true → ∀ ks, sameMembers ms ks = sameMembers ns ks
  | [], ns, h, ks => by
    cases ns with
    | nil => rfl
    | cons n ns => cases h
  | (k, x) :: ms, ns, h, ks => by
    cases ns with
    | nil => cases h
    | cons n ns =>
      obtain ⟨l, y⟩ := n
      rw [sameMembers, Bool.and_eq_true, Bool.and_eq_true, beq_iff_eq] at h
      cases ks with
      | nil => rfl
      | cons m ks =>
        obtain ⟨o, z⟩ := m
        rw [sameMembers, sameMembers, same_congr x h.1.2, sameMembers_congr ms h.2, h.1.1]

end

end Json

/-! ## Values -/

namespace Value

theorem sameScalar_congr {t : ScalarType} {x y : t.Carrier} (h : sameScalar t x y = true)
    (z : t.Carrier) : sameScalar t x z = sameScalar t y z := by
  cases t with
  | float32 => exact Floating.Number.same_congr h z
  | float64 => exact Floating.Number.same_congr h z
  | _ =>
    rw [sameScalar, beq_iff_eq] at h
    rw [h]

theorem sameScalars_congr {t : ScalarType} {xs ys : List t.Carrier}
    (h : sameScalars t xs ys = true) (zs : List t.Carrier) :
    sameScalars t xs zs = sameScalars t ys zs := by
  induction xs generalizing ys zs with
  | nil =>
    cases ys with
    | nil => rfl
    | cons y ys => cases h
  | cons x xs ih =>
    cases ys with
    | nil => cases h
    | cons y ys =>
      rw [sameScalars, Bool.and_eq_true] at h
      cases zs with
      | nil => rfl
      | cons z zs => rw [sameScalars, sameScalars, sameScalar_congr h.1, ih h.2]

theorem same_scalar (t : ScalarType) (x y : t.Carrier) :
    (scalar t x).same (scalar t y) = sameScalar t x y :=
  dif_pos rfl

theorem same_array (t : ScalarType) (xs ys : List t.Carrier) :
    (array t xs).same (array t ys) = sameScalars t xs ys :=
  dif_pos rfl

theorem same_scalar_of_ne {t u : ScalarType} (h : u ≠ t) (x : t.Carrier) (y : u.Carrier) :
    (scalar t x).same (scalar u y) = false :=
  dif_neg h

theorem same_array_of_ne {t u : ScalarType} (h : u ≠ t) (xs : List t.Carrier)
    (ys : List u.Carrier) : (array t xs).same (array u ys) = false :=
  dif_neg h

theorem same_congr {v w : Value} (h : v.same w = true) (z : Value) : v.same z = w.same z := by
  cases v with
  | scalar t x =>
    cases w with
    | scalar u y =>
      by_cases hu : u = t
      · subst hu
        rw [same_scalar] at h
        cases z with
        | scalar o z =>
          by_cases ho : o = u
          · subst ho
            rw [same_scalar, same_scalar, sameScalar_congr h]
          · rw [same_scalar_of_ne ho, same_scalar_of_ne ho]
        | _ => rfl
      · rw [same_scalar_of_ne hu] at h
        cases h
    | _ => cases h
  | binary x =>
    cases w with
    | binary y => rw [eq_of_beq (show (x == y) = true from h)]
    | _ => cases h
  | object x =>
    cases w with
    | object y =>
      cases z with
      | object z => exact Json.sameMembers_congr x h z
      | _ => rfl
    | _ => cases h
  | array t xs =>
    cases w with
    | array u ys =>
      by_cases hu : u = t
      · subst hu
        rw [same_array] at h
        cases z with
        | array o zs =>
          by_cases ho : o = u
          · subst ho
            rw [same_array, same_array, sameScalars_congr h]
          · rw [same_array_of_ne ho, same_array_of_ne ho]
        | _ => rfl
      · rw [same_array_of_ne hu] at h
        cases h
    | _ => cases h

end Value

/-! ## NaNs -/

def ScalarType.isNaN : (t : ScalarType) → t.Carrier → Bool
  | .float32, x => x.isNaN
  | .float64, x => x.isNaN
  | _, _ => false

namespace Value

/-- A NaN, or an array with one in it. -/
def hasNaN : Value → Bool
  | scalar t x => t.isNaN x
  | array t xs => xs.any t.isNaN
  | _ => false

theorem sameScalar_of_isNaN {t : ScalarType} (x : t.Carrier) {y : t.Carrier}
    (h : t.isNaN y = true) : sameScalar t x y = false := by
  cases t with
  | float32 => exact Floating.Number.same_of_isNaN x h
  | float64 => exact Floating.Number.same_of_isNaN x h
  | _ => cases h

theorem sameScalars_of_isNaN {t : ScalarType} (xs : List t.Carrier) {ys : List t.Carrier}
    (h : ys.any t.isNaN = true) : sameScalars t xs ys = false := by
  induction xs generalizing ys with
  | nil =>
    cases ys with
    | nil => cases h
    | cons y ys => rfl
  | cons x xs ih =>
    cases ys with
    | nil => cases h
    | cons y ys =>
      rw [List.any_cons, Bool.or_eq_true] at h
      rw [sameScalars, Bool.and_eq_false_iff]
      exact h.imp (sameScalar_of_isNaN x) ih

/-- Nothing is the same as a value with a NaN in it. -/
theorem same_of_hasNaN (v : Value) {w : Value} (h : w.hasNaN = true) : v.same w = false := by
  cases w with
  | scalar u y =>
    cases v with
    | scalar t x =>
      by_cases hu : u = t
      · subst hu
        rw [same_scalar]
        exact sameScalar_of_isNaN x h
      · exact same_scalar_of_ne hu x y
    | _ => rfl
  | array u ys =>
    cases v with
    | array t xs =>
      by_cases hu : u = t
      · subst hu
        rw [same_array]
        exact sameScalars_of_isNaN xs h
      · exact same_array_of_ne hu xs ys
    | _ => rfl
  | binary y => cases h
  | object y => cases h

end Value

/-! ## Results -/

theorem sameValues_of_hasNaN (xs : List Result) {ys : List Result}
    (h : ys.any (·.value.hasNaN) = true) : sameValues xs ys = false := by
  induction xs generalizing ys with
  | nil =>
    cases ys with
    | nil => cases h
    | cons y ys => rfl
  | cons x xs ih =>
    cases ys with
    | nil => cases h
    | cons y ys =>
      rw [List.any_cons, Bool.or_eq_true] at h
      rw [sameValues, Bool.and_eq_false_iff]
      exact h.imp (Value.same_of_hasNaN x.value) ih

theorem sameValues_congr {xs ys : List Result} (h : sameValues xs ys = true)
    (zs : List Result) : sameValues xs zs = sameValues ys zs := by
  induction xs generalizing ys zs with
  | nil =>
    cases ys with
    | nil => rfl
    | cons y ys => cases h
  | cons x xs ih =>
    cases ys with
    | nil => cases h
    | cons y ys =>
      rw [sameValues, Bool.and_eq_true] at h
      cases zs with
      | nil => rfl
      | cons z zs => rw [sameValues, sameValues, Value.same_congr h.1, ih h.2]

end FieldGateway
