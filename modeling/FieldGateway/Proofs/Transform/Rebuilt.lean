import FieldGateway.Proofs.Floating.Closest
import FieldGateway.Proofs.Value.RoundTrip
import FieldGateway.Transform

/-
  A double put in a type. The limits of a type of whole numbers are compared as doubles, and both
  of them are doubles if the upper one is taken one further (`lowest_value`, `beyond_value`), so
  what passes is what fits, and no word wraps around (`ofDouble_exact`). A single is at most the
  greatest one, and then rounding does not make it infinite.
-/

namespace FieldGateway

open FieldGateway.Floating

namespace IntType

variable {t : IntType} {i : Int}

/-- The word of a number stands for the number. -/
theorem toInt_of_ofInt? {x : BitVec t.width} (h : t.ofInt? i = some x) : t.toInt x = i := by
  unfold ofInt? at h
  split at h
  · rename_i range
    cases h
    unfold least greatest at range
    unfold toInt
    cases hs : t.signed with
    | false =>
      simp only [hs, Bool.false_eq_true, if_false] at range ⊢
      have below : i < (2 ^ t.width : Nat) := by
        have positive : 0 < 2 ^ t.width := Nat.two_pow_pos _
        have := range.2
        change i ≤ ((2 ^ t.width - 1 : Nat) : Int) at this
        omega
      rw [BitVec.toNat_ofInt, Int.emod_eq_of_lt range.1 below]
      omega
    | true =>
      simp only [hs, if_true] at range ⊢
      have power : ((twoPow (t.width - 1) : Nat) : Int) = 2 ^ (t.width - 1) := Int.natCast_pow 2 _
      rw [Word.leastSigned, Word.greatestSigned, power] at range
      have positive : 0 < t.width := by cases t <;> decide
      exact BitVec.toInt_ofInt_eq_self positive range.1 (by omega)
  · cases h

theorem ofInt?_eq_none_iff : t.ofInt? i = none ↔ i < t.least ∨ t.greatest < i := by
  unfold ofInt?
  split
  · simp only [reduceCtorEq, false_iff]
    omega
  · simp only [true_iff]
    omega

end IntType

namespace Transform

open Number

variable {t : IntType} {v : Double}

/-! ## Whole numbers -/

/-- The least word is a power of two or zero, so it is a double. -/
theorem lowest_value (t : IntType) :
    (lowest t).isFinite = true ∧ (lowest t).value = t.least := by
  cases t <;> decide +kernel

/-- Of 64 bits the greatest word is rounded up, and then one more is rounded off. -/
theorem beyond_value (t : IntType) :
    (beyond t).isFinite = true ∧ (beyond t).value = (t.greatest + 1 : Int) := by
  cases t <;> decide +kernel

/-- Among the words of a type the nearest one is the number itself. -/
theorem clamp_eq {i : Int} (finite : v.isFinite = true) (whole : v.value = i) (least : t.least ≤ i)
    (greatest : i ≤ t.greatest) : clamp t v = BitVec.ofInt t.width i := by
  obtain ⟨s, m, e, decoded⟩ := (isFinite_iff v).1 finite
  rw [clamp, decoded, truncate_of_whole finite whole]
  dsimp only [Option.getD_some]
  rw [min_eq_right greatest, max_eq_right least]

/-- The whole part of a double is put in the type, or refused if it does not fit. -/
theorem ofDouble_int (t : IntType) (finite : v.isFinite = true) :
    ofDouble (.scalar (.int t)) v =
      match t.ofInt? (towardZero v.value) with
      | some x => .ok (Value.int t x)
      | none => .error (.overflow v (.scalar (.int t))) := by
  obtain ⟨exact, whole⟩ := Double.trunc_exact finite
  obtain ⟨lowestFinite, lowestValue⟩ := lowest_value t
  obtain ⟨beyondFinite, beyondValue⟩ := beyond_value t
  have under : v.trunc.lt (lowest t) = true ↔ towardZero v.value < t.least := by
    rw [lt_iff exact lowestFinite, whole, lowestValue, Int.cast_lt]
  have above : (beyond t).le v.trunc = true ↔ t.greatest + 1 ≤ towardZero v.value := by
    rw [le_iff beyondFinite exact, whole, beyondValue, Int.cast_le]
  unfold ofDouble IntType.ofInt?
  simp only [if_pos finite, Bool.or_eq_true, under, above]
  by_cases fits : t.least ≤ towardZero v.value ∧ towardZero v.value ≤ t.greatest
  · rw [if_pos fits, if_neg (by omega), clamp_eq exact whole fits.1 fits.2]
  · rw [if_neg fits, if_pos (by omega)]

/-! ## Singles -/

theorem greatestSingle_value :
    greatestSingle.isFinite = true ∧ greatestSingle.value = (2 ^ 24 - 1) * 2 ^ 104 := by
  decide +kernel

theorem greatest_single : Format.single.greatest = (2 ^ 24 - 1) * 2 ^ 104 := by
  decide +kernel

theorem ofDouble_single (finite : v.isFinite = true) :
    ofDouble (.scalar .float32) v =
      if |v.value| ≤ (2 ^ 24 - 1) * 2 ^ 104 then
        .ok (.scalar .float32 (Number.convert Format.single v))
      else .error (.overflow v (.scalar .float32)) := by
  obtain ⟨limitFinite, limit⟩ := greatestSingle_value
  have above : greatestSingle.lt v.abs = true ↔ (2 ^ 24 - 1) * 2 ^ 104 < |v.value| := by
    rw [lt_iff limitFinite (isFinite_abs finite), limit, value_abs finite]
  unfold ofDouble
  simp only [if_pos finite, above]
  by_cases fits : |v.value| ≤ (2 ^ 24 - 1) * 2 ^ 104
  · rw [if_pos fits, if_neg (not_lt.2 fits)]
  · rw [if_neg fits, if_pos (not_le.1 fits)]

/-! ## What passes -/

/-- A double that fits a type becomes the right value of it, and any other is refused. -/
structure Puts (type : ValueType) (v : Double) (fits : Prop) (right : Value → Prop) : Prop where
  kept : fits → ∃ w, ofDouble type v = .ok w ∧ right w
  refused : ¬ fits → ofDouble type v = .error (.overflow v type)

theorem ofDouble_of_not_finite (type : ValueType) (h : ¬ v.isFinite = true) :
    ofDouble type v = .error (.overflow v type) := if_neg h

/-- What becomes of a double in a type of whole numbers and as a single. It fits a type of whole
numbers if it is finite and the number it stands for, cut off toward zero, is within the limits of
the type, both included; it becomes the word of that number. It fits a single if it is finite and no
greater in size than the greatest single; it becomes the nearest single, which is finite. Whatever
does not fit is refused. -/
theorem ofDouble_exact (v : Double) :
    (∀ t : IntType, Puts (.scalar (.int t)) v
      (v.isFinite = true ∧ t.least ≤ towardZero v.value ∧ towardZero v.value ≤ t.greatest)
      fun w => ∃ x, w = Value.int t x ∧ t.toInt x = towardZero v.value) ∧
    Puts (.scalar .float32) v (v.isFinite = true ∧ |v.value| ≤ (2 ^ 24 - 1) * 2 ^ 104)
      fun w => ∃ x : Single, w = .scalar .float32 x ∧ Nearest v.value x := by
  by_cases finite : v.isFinite = true
  · constructor
    · intro t
      have result := ofDouble_int t finite
      cases word : t.ofInt? (towardZero v.value) with
      | none =>
        rw [word] at result
        rw [IntType.ofInt?_eq_none_iff] at word
        exact ⟨fun fits => absurd fits.2 (by omega), fun _ => result⟩
      | some x =>
        rw [word] at result
        have fits : t.least ≤ towardZero v.value ∧ towardZero v.value ≤ t.greatest := by
          have := mt IntType.ofInt?_eq_none_iff.2 (by rw [word]; exact Option.some_ne_none x)
          omega
        exact ⟨fun _ => ⟨_, result, x, rfl, IntType.toInt_of_ofInt? word⟩,
          fun other => absurd ⟨finite, fits⟩ other⟩
    · have result := ofDouble_single finite
      constructor
      · rintro ⟨-, fits⟩
        rw [if_pos fits] at result
        rw [← greatest_single] at fits
        have nearest := (convert_rounded Format.single finite).nearest (by decide) (by decide) fits
        exact ⟨_, result, _, rfl, nearest⟩
      · intro other
        rw [result, if_neg fun fits => other ⟨finite, fits⟩]
  · have refused := fun type => ofDouble_of_not_finite type finite
    exact ⟨fun t => ⟨fun fits => absurd fits.1 finite, fun _ => refused _⟩,
      fun fits => absurd fits.1 finite, fun _ => refused _⟩

end Transform

end FieldGateway
