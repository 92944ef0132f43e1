import FieldGateway.Proofs.Transform.Rebuilt

/-
  Whole numbers and the numeric steps of a resource. A whole number is counted as the nearest
  double, which is the number itself up to `2 ^ 53`. So a limit that it keeps is kept, and one that
  it passes is passed unless rounding takes it back to the limit (`inRange_eq_false_iff`); and an
  offset by a whole number comes to a whole number, but beyond `2 ^ 53` it need not be the sum
  (`offset_shifts`).
-/

namespace FieldGateway

open FieldGateway.Floating

namespace IntType

/-- No word is beyond `2 ^ 64`, and the words of 32 bits are not even near `2 ^ 53`. -/
theorem limits (t : IntType) : -2 ^ 63 ≤ t.least ∧ t.greatest < 2 ^ 64 ∧
    (t.width ≤ 32 → -2 ^ 32 ≤ t.least ∧ t.greatest < 2 ^ 32) := by
  cases t <;> decide

end IntType

namespace Transform

open Number

variable {t : IntType}

/-- A whole number as a double. -/
def asDouble (i : Int) : Double := Number.ofInt Format.double i

theorem nearest_asDouble {i : Int} (h : i.natAbs ≤ 2 ^ 100) : Nearest (i : ℚ) (asDouble i) :=
  Double.nearest_of_rounded (ofInt_rounded _ i) h

theorem nearest_word (t : IntType) (x : BitVec t.width) :
    Nearest (t.toInt x : ℚ) (asDouble (t.toInt x)) := by
  have bounds := t.toInt_bounds x
  have limits := t.limits
  exact nearest_asDouble (by omega)

/-! ## Limits -/

section

variable {i : Int} {x limit : Double} (h : Nearest (i : ℚ) x) (finite : limit.isFinite = true)
include h finite

/-- A number below a limit is seen to be if rounding leaves it there. -/
theorem below_limit_iff : limit.le x = false ↔ i < limit.value ∧ x.value ≠ limit.value := by
  rw [← Bool.not_eq_true, le_iff finite h.finite, not_le]
  constructor
  · intro below
    refine ⟨?_, below.ne⟩
    by_contra kept
    exact absurd (h.ge finite (not_lt.1 kept)) (not_le.2 below)
  · rintro ⟨below, other⟩
    exact lt_of_le_of_ne (h.le finite below.le) other

theorem above_limit_iff : x.le limit = false ↔ limit.value < i ∧ x.value ≠ limit.value := by
  rw [← Bool.not_eq_true, le_iff h.finite finite, not_le]
  constructor
  · intro above
    refine ⟨?_, above.ne'⟩
    by_contra kept
    exact absurd (h.le finite (not_lt.1 kept)) (not_le.2 above)
  · rintro ⟨above, other⟩
    exact lt_of_le_of_ne (h.ge finite above.le) other.symm

end

/-- A whole number beyond a limit. -/
def Outside (p : Properties) (i : Int) : Prop :=
  (∃ limit ∈ p.minimum, (i : ℚ) < limit.value) ∨ ∃ limit ∈ p.maximum, limit.value < i

/-- A whole number beyond a limit that is not rounded to it. -/
def SeenOutside (p : Properties) (i : Int) : Prop :=
  (∃ limit ∈ p.minimum, (i : ℚ) < limit.value ∧ (asDouble i).value ≠ limit.value) ∨
    ∃ limit ∈ p.maximum, limit.value < i ∧ (asDouble i).value ≠ limit.value

theorem SeenOutside.outside {p : Properties} {i : Int} (h : SeenOutside p i) : Outside p i := by
  rcases h with ⟨limit, hp, below, -⟩ | ⟨limit, hp, above, -⟩
  · exact .inl ⟨limit, hp, below⟩
  · exact .inr ⟨limit, hp, above⟩

/-- Numbers up to `2 ^ 53` are not rounded. -/
theorem seenOutside_iff {p : Properties} {i : Int} (small : i.natAbs ≤ 2 ^ 53) :
    SeenOutside p i ↔ Outside p i := by
  have same : (asDouble i).value = i :=
    Double.nearest_small (nearest_asDouble (by omega)) small
  refine ⟨SeenOutside.outside, ?_⟩
  unfold SeenOutside
  rw [same]
  rintro (⟨limit, hp, below⟩ | ⟨limit, hp, above⟩)
  · exact .inl ⟨limit, hp, below, below.ne⟩
  · exact .inr ⟨limit, hp, above, above.ne'⟩

/-- Which words are out of range. -/
theorem inRange_eq_false_iff {p : Properties} (x : BitVec t.width)
    (finite : ∀ limit, limit ∈ p.minimum ∨ limit ∈ p.maximum → limit.isFinite = true) :
    inRange p (Value.int t x) = false ↔ SeenOutside p (t.toInt x) := by
  have counted : (Value.int t x).toDouble? = some (asDouble (t.toInt x)) := rfl
  have nearest := nearest_word t x
  rw [inRange, counted]
  dsimp only
  rw [Bool.and_eq_false_iff]
  apply or_congr
  · cases hp : p.minimum with
    | none => simp
    | some limit => simpa using below_limit_iff nearest (finite limit (.inl hp))
  · cases hp : p.maximum with
    | none => simp
    | some limit => simpa using above_limit_iff nearest (finite limit (.inr hp))

/-! ## Offsets -/

/-- The result is the whole number, or a refusal if the type has no word for it. -/
def Yields (t : IntType) (i : Int) (result : Except TransformError Value) : Prop :=
  match t.ofInt? i with
  | some x => result = .ok (Value.int t x)
  | none => ∃ v, result = .error (.overflow v (.scalar (.int t)))

/-- A result is of one number only, but for those that are refused. -/
theorem Yields.iff {i j : Int} {result : Except TransformError Value} (h : Yields t i result) :
    Yields t j result ↔ i = j ∨ t.ofInt? i = none ∧ t.ofInt? j = none := by
  unfold Yields at h ⊢
  cases hi : t.ofInt? i with
  | none =>
    rw [hi] at h
    obtain ⟨v, rfl⟩ := h
    cases hj : t.ofInt? j with
    | none => simp
    | some y =>
      have other : i ≠ j := by
        rintro rfl
        simp [hi] at hj
      simp [other]
  | some x =>
    rw [hi] at h
    subst h
    cases hj : t.ofInt? j with
    | none =>
      have other : i ≠ j := by
        rintro rfl
        simp [hi] at hj
      simp [other]
    | some y =>
      simp only [Except.ok.injEq, Value.int, Value.scalar.injEq, true_and, heq_eq_eq, reduceCtorEq,
        false_and, or_false]
      rw [← IntType.toInt_of_ofInt? hi, ← IntType.toInt_of_ofInt? hj]
      constructor
      · rintro rfl
        rfl
      · intro same
        have := IntType.ofInt?_toInt t x
        rw [same, IntType.ofInt?_toInt] at this
        exact (Option.some.inj this).symm

/-- What is put in a type is the whole part of a double. -/
theorem yields_ofDouble {v : Double} {i : Int} (whole : v.truncate = some i) :
    Yields t i (ofDouble (.scalar (.int t)) v) := by
  have finite := isFinite_of_truncate whole
  rw [truncate_eq finite] at whole
  have result := ofDouble_int t finite
  rw [Option.some.inj whole] at result
  unfold Yields
  cases word : t.ofInt? i with
  | none =>
    rw [word] at result
    exact ⟨v, result⟩
  | some x =>
    rw [word] at result
    exact result

/-- A word to which `k` is added by way of doubles: the word and then the sum are rounded, which
comes to `m`. -/
structure Shifts (t : IntType) (x : BitVec t.width) (k m : Int)
    (result : Except TransformError Value) : Prop where
  /-- The result is that of `m`. -/
  yields : Yields t m result
  /-- Both times it is rounded to the nearest double. -/
  rounds : ∃ v w : Double, Nearest (t.toInt x : ℚ) v ∧ Nearest (v.value + k) w ∧ w.value = m
  /-- Numbers up to `2 ^ 53` stay as they are. -/
  small : (t.toInt x).natAbs ≤ 2 ^ 53 → (t.toInt x + k).natAbs ≤ 2 ^ 53 → m = t.toInt x + k
  /-- In a type of 32 bits or less the sum is put in the type, or refused. -/
  narrow : t.width ≤ 32 → Yields t (t.toInt x + k) result
  /-- If nothing is added, the words that are doubles stay as they are, and no others. -/
  zero : k = 0 → (result = .ok (Value.int t x) ↔
    ∃ v : Double, v.isFinite = true ∧ v.value = t.toInt x)

/-- The double that a word is counted as is a whole number, not beyond `2 ^ 65`. -/
theorem exists_asDouble (t : IntType) (x : BitVec t.width) :
    ∃ a : Int, (asDouble (t.toInt x)).value = a ∧ a.natAbs ≤ 2 ^ 65 := by
  have nearest := nearest_word t x
  obtain ⟨a, whole⟩ := Double.nearest_whole nearest
  refine ⟨a, whole, ?_⟩
  -- zero is no nearer to the word
  obtain ⟨zero, finite, nothing⟩ := Double.exists_whole (i := 0) (by decide)
  have least := nearest.least finite
  rw [whole, nothing, Int.cast_zero, zero_sub, abs_neg] at least
  have least : |a - t.toInt x| ≤ |t.toInt x| := by exact_mod_cast least
  rw [Int.abs_eq_natAbs, Int.abs_eq_natAbs] at least
  have bounds := t.toInt_bounds x
  have limits := t.limits
  omega

theorem shifts_of_rounded {x : BitVec t.width} {k : Int} {w : Double} (hk : k.natAbs ≤ 2 ^ 53)
    (rounded : Rounded ((asDouble (t.toInt x)).value + k) w) :
    ∃ m, Shifts t x k m (ofDouble (.scalar (.int t)) w) := by
  have counted := nearest_word t x
  obtain ⟨a, whole, size⟩ := exists_asDouble t x
  rw [whole] at rounded
  rw [← Int.cast_add] at rounded
  have sum : Nearest ((a + k : Int) : ℚ) w := Double.nearest_of_rounded rounded (by omega)
  obtain ⟨m, comes⟩ := Double.nearest_whole sum
  have yields := yields_ofDouble (t := t) (truncate_of_whole sum.finite comes)
  have bounds := t.toInt_bounds x
  have limits := t.limits
  -- up to `2 ^ 53` nothing is rounded
  have same : (t.toInt x).natAbs ≤ 2 ^ 53 → a = t.toInt x := by
    intro small
    rw [Double.nearest_small counted small] at whole
    exact_mod_cast whole.symm
  have small : (t.toInt x).natAbs ≤ 2 ^ 53 → (t.toInt x + k).natAbs ≤ 2 ^ 53 →
      m = t.toInt x + k := by
    intro word total
    rw [same word] at sum
    rw [Double.nearest_small sum total] at comes
    exact_mod_cast comes.symm
  refine ⟨m, yields, ?_, small, ?_, ?_⟩
  · exact ⟨_, w, counted, by rw [whole]; exact_mod_cast sum, comes⟩
  · intro width
    have word : (t.toInt x).natAbs ≤ 2 ^ 53 := by omega
    by_cases total : (t.toInt x + k).natAbs ≤ 2 ^ 53
    · rw [← small word total]
      exact yields
    · -- the sum is far beyond the type, and so is what it is rounded to
      rw [yields.iff, IntType.ofInt?_eq_none_iff, IntType.ofInt?_eq_none_iff]
      rw [same word] at sum
      right
      by_cases negative : t.toInt x + k < 0
      · have far := Double.nearest_le sum (j := -2 ^ 53) (by decide) (by omega)
        rw [comes] at far
        have far : m ≤ -2 ^ 53 := by exact_mod_cast far
        omega
      · have far := Double.nearest_ge sum (j := 2 ^ 53) (by decide) (by omega)
        rw [comes] at far
        have far : 2 ^ 53 ≤ m := by exact_mod_cast far
        omega
  · rintro rfl
    have kept : m = a := by
      rw [add_zero, ← whole] at sum
      have := sum.exact counted.finite rfl
      rw [comes, whole] at this
      exact_mod_cast this
    have word := IntType.ofInt?_toInt t x
    have result : Yields t (t.toInt x) (ofDouble (.scalar (.int t)) w) ↔
        ofDouble (.scalar (.int t)) w = .ok (Value.int t x) := by
      unfold Yields
      rw [word]
    rw [← result, yields.iff, word, kept]
    simp only [reduceCtorEq, and_false, or_false]
    constructor
    · rintro rfl
      exact ⟨_, counted.finite, whole⟩
    · rintro ⟨v, finite, value⟩
      have := counted.exact finite value
      rw [whole] at this
      exact_mod_cast this

/-- What an offset by a whole number makes of a word, of a reading and of a value to be written.
The word is counted as the nearest double, and the sum is rounded to the nearest double again; what
that comes to is put in the type of the word, or refused if it does not fit. Up to `2 ^ 53` this is
the sum, and in a type of 32 bits or less it is the sum or a refusal whatever the offset. Beyond,
a word may come out as another one: an offset of zero keeps the words that are doubles only. -/
theorem offset_shifts {p : Properties} {offset : Double} {k : Int} (t : IntType)
    (x : BitVec t.width) (scale : p.scale = none) (base : p.base = none)
    (hp : p.offset = some offset) (finite : offset.isFinite = true) (value : offset.value = k)
    (small : k.natAbs ≤ 2 ^ 53) :
    (∃ m, Shifts t x k m (standard.outgoing p (Value.int t x))) ∧
      ∃ m, Shifts t x (-k) m (standard.incoming p (Value.int t x)) := by
  have numeric : isNumeric p = true := by simp [isNumeric, hp]
  have counted := (nearest_word t x).finite
  constructor
  · have step : standard.outgoing p (Value.int t x) =
        ofDouble (.scalar (.int t)) ((asDouble (t.toInt x)).add offset) := by
      show (if isNumeric p then _ else _) = _
      rw [if_pos numeric]
      simp [presentedNumber, Value.int, Value.type, asDouble, scale, base, hp]
    rw [step]
    apply shifts_of_rounded small
    rw [← value]
    exact add_rounded counted finite
  · have step : standard.incoming p (Value.int t x) =
        ofDouble (.scalar (.int t)) ((asDouble (t.toInt x)).sub offset) := by
      show (if isNumeric p then _ else _) = _
      rw [if_pos numeric]
      simp [rawNumber, Value.int, Value.type, asDouble, scale, base, hp]
    rw [step]
    apply shifts_of_rounded (by omega)
    have rounded := sub_rounded counted finite
    rw [value, sub_eq_add_neg] at rounded
    exact_mod_cast rounded

/-- The least word of 64 bits, and an offset of one. One more is read as the word itself; one less,
for which there is no word, is written as the word itself. -/
theorem offset_lost_at_least :
    let x : BitVec IntType.int64.width := BitVec.intMin 64
    let p : Properties := { type := .scalar (.int .int64), offset := some (asDouble 1) }
    Shifts .int64 x 1 (-2 ^ 63) (standard.outgoing p (Value.int .int64 x)) ∧
      ¬ Yields .int64 (-2 ^ 63 + 1) (standard.outgoing p (Value.int .int64 x)) ∧
      Shifts .int64 x (-1) (-2 ^ 63) (standard.incoming p (Value.int .int64 x)) ∧
      ¬ Yields .int64 (-2 ^ 63 - 1) (standard.incoming p (Value.int .int64 x)) := by
  intro x p
  have word : IntType.int64.toInt x = -2 ^ 63 := by decide
  have one : Nearest ((1 : Int) : ℚ) (asDouble 1) := nearest_asDouble (by decide)
  obtain ⟨⟨m, read⟩, m', written⟩ := offset_shifts .int64 x (p := p) (k := 1) rfl rfl rfl one.finite
    (Double.nearest_small one (by decide)) (by decide)
  have rounded : ((asDouble (IntType.int64.toInt x)).add (asDouble 1)).truncate = some (-2 ^ 63) ∧
      ((asDouble (IntType.int64.toInt x)).sub (asDouble 1)).truncate = some (-2 ^ 63) := by
    decide +kernel
  have reads : Yields .int64 (-2 ^ 63) (standard.outgoing p (Value.int .int64 x)) :=
    yields_ofDouble rounded.1
  have writes : Yields .int64 (-2 ^ 63) (standard.incoming p (Value.int .int64 x)) :=
    yields_ofDouble rounded.2
  have fits : IntType.int64.ofInt? (-2 ^ 63) ≠ none := by decide
  obtain rfl : m = -2 ^ 63 := (read.yields.iff.1 reads).resolve_right fun none => fits none.2
  obtain rfl : m' = -2 ^ 63 := (written.yields.iff.1 writes).resolve_right fun none => fits none.2
  refine ⟨read, ?_, written, ?_⟩
  · rw [reads.iff]
    decide
  · rw [writes.iff]
    decide

end Transform

end FieldGateway
