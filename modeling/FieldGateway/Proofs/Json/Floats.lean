import FieldGateway.Proofs.Floating.Margin
import FieldGateway.Proofs.Json.Decimals
import FieldGateway.Proofs.Json.Scaling

/-
  Numbers of the single format through JSON. Their shortest decimals have nine digits at most, so
  the reader converts the digits without an error but for the power of ten. Where that is a double
  too, the double that JSON writes has the same shortest decimal; otherwise it is near enough to
  be read as the same number, with two exceptions (`Number.single_comes_back`). A double whose
  digits and power of ten are doubles is the one that JSON writes (`Number.double_comes_back`).
-/

namespace FieldGateway

open FieldGateway.Floating FieldGateway.Text

namespace Json

/-! ## Digits that are taken up -/

theorem wholeDigits_append {ds : List Char} {v : Nat}
    (h : Nat.ofDigitChars 10 ds v ≤ Word.greatest 64) (rest : List Char) :
    wholeDigits v (ds ++ rest) = wholeDigits (Nat.ofDigitChars 10 ds v) rest := by
  induction ds generalizing v with
  | nil => rfl
  | cons d ds ih =>
    rw [ofDigitChars_cons] at h ⊢
    rw [List.cons_append, wholeDigits, if_pos (Nat.le_trans (le_ofDigitChars ds _) h), ih h]

/-- Zeros are taken up while the number fits. -/
theorem wholeDigits_zeros {v : Nat} (h : v ≤ Word.greatest 64) (k : Nat) :
    ∃ i j, i + j = k ∧ wholeDigits v (List.replicate k '0') = ⟨v * 10 ^ i, j⟩ ∧
      v * 10 ^ i ≤ Word.greatest 64 ∧ (0 < j → Word.greatest 64 < v * 10 ^ i * 10) := by
  induction k generalizing v with
  | zero =>
    exact ⟨0, 0, rfl, by simp [wholeDigits], by simpa using h, fun h => absurd h (Nat.lt_irrefl 0)⟩
  | succ k ih =>
    have digit : v * 10 + ('0'.toNat - 48) = v * 10 := rfl
    rw [List.replicate_succ, wholeDigits, digit]
    by_cases more : v * 10 ≤ Word.greatest 64
    · obtain ⟨i, j, sum, digits, fits, last⟩ := ih more
      have next : v * 10 * 10 ^ i = v * 10 ^ (i + 1) := by ring
      rw [if_pos more]
      rw [next] at digits fits last
      exact ⟨i + 1, j, by omega, digits, fits, last⟩
    · rw [if_neg more]
      refine ⟨0, k + 1, Nat.zero_add _, ?_, by simpa using h, fun _ => by simpa using more⟩
      rw [List.length_replicate, Nat.pow_zero, Nat.mul_one]

/-- A literal without a point stays whole, or is the double of its significand. -/
theorem literal_cases (negative : Bool) (digits : List Char) :
    (∃ i, literal negative digits none none = some (.whole i)) ∨
      literal negative digits none none = (wholeDigits 0 digits).real negative := by
  rw [literal]
  split
  · exact .inr rfl
  cases negative with
  | false => exact .inl ⟨_, rfl⟩
  | true =>
    rw [if_pos rfl]
    split
    · exact .inr rfl
    · exact .inl ⟨_, rfl⟩

/-- The digits and the power of ten that the reader makes of a decimal: its own, or with some of
the zeros among the digits, as many as fit. -/
inductive Significand.Of (d : Decimal) : Significand → Prop where
  | behind (h : d.exponent < 0) : Of d ⟨d.digits, d.exponent⟩
  | before {i j : Nat} (h : d.exponent = (i + j : Nat))
      (fits : d.digits * 10 ^ i ≤ Word.greatest 64)
      (last : 0 < j → Word.greatest 64 < d.digits * 10 ^ i * 10) : Of d ⟨d.digits * 10 ^ i, j⟩

end Json

namespace Floating

theorem Decimal.literal_cases {d : Decimal} (positive : 0 < d.digits)
    (fits : d.digits ≤ Word.greatest 64) (negative : Bool) :
    (∃ i, d.literal negative = some (.whole i)) ∨
      ∃ s, d.literal negative = Json.Significand.real s negative ∧ Json.Significand.Of d s := by
  rw [Decimal.literal]
  split
  · exact .inr ⟨_, rfl, .behind ‹_›⟩
  · rename_i whole
    refine (Json.literal_cases negative _).imp_right fun real => ⟨_, real, ?_⟩
    have value : Nat.ofDigitChars 10 (natChars d.digits) 0 = d.digits :=
      Nat.ofDigitChars_ten_toDigits
    obtain ⟨i, j, sum, digits, fits', last⟩ := Json.wholeDigits_zeros fits d.exponent.toNat
    rw [natChars_mul positive, Json.wholeDigits_append (by rwa [value]), value, digits]
    exact .before (by omega) fits' last

end Floating

namespace Json

open FieldGateway.Floating.Double

namespace Significand

variable {d : Decimal} {s : Significand}

theorem Of.written_eq (h : Of d s) : s.written = d.value := by
  cases h with
  | behind => rfl
  | before exponent =>
    rw [written, Decimal.value, exponent]
    push_cast
    rw [mul_assoc, ← zpow_natCast, ← zpow_add₀ (by norm_num)]

theorem Of.value_pos (h : Of d s) (positive : 0 < d.digits) : 0 < s.value := by
  cases h with
  | behind => exact positive
  | before => exact Nat.mul_pos positive (Nat.pow_pos (by decide))

theorem Of.value_lt (h : Of d s) (fits : d.digits ≤ Word.greatest 64) : s.value < 2 ^ 64 := by
  cases h with
  | behind => exact Nat.lt_succ_of_le fits
  | before _ fits' => exact Nat.lt_succ_of_le fits'

/-- Nine digits, but for the greatest of them, make a double with all the zeros that fit. -/
theorem Of.fits (h : Of d s) (positive : 0 < d.digits) (few : d.digits < 9 * 10 ^ 8) :
    Fits s.value := by
  cases h with
  | behind => exact fits_of_lt positive (few.trans (by decide))
  | @before i j exponent fits last =>
    have zeros : i < 20 := by
      by_contra many
      have := Nat.mul_le_mul positive
        (Nat.pow_le_pow_right (n := 10) (by decide) (Nat.le_of_not_lt many))
      exact absurd (this.trans fits) (by decide)
    have parts : d.digits * 10 ^ i = d.digits * 5 ^ i * 2 ^ i := by
      rw [mul_assoc, ← Nat.mul_pow]
    refine ⟨d.digits * 5 ^ i, i, Nat.mul_pos positive (Nat.pow_pos (by decide)), ?_, by omega,
      by omega, ?_⟩
    · by_cases many : 11 ≤ i
      · have := Nat.mul_le_mul_left (d.digits * 5 ^ i)
          (Nat.pow_le_pow_right (n := 2) (by decide) many)
        have := fits.trans_lt (show Word.greatest 64 < 2 ^ 64 by decide)
        omega
      · have := Nat.mul_le_mul (Nat.le_of_lt_succ few)
          (Nat.pow_le_pow_right (n := 5) (by decide) (show i ≤ 10 by omega))
        exact this.trans_lt (by decide)
    · rw [zpow_natCast]
      exact_mod_cast parts

/-- A power of ten behind the point is that of the decimal. -/
theorem Of.eq_of_neg (h : Of d s) (behind : s.exponent < 0) : s = ⟨d.digits, d.exponent⟩ := by
  cases h with
  | behind => rfl
  | before => exact absurd behind (not_lt_of_ge (Int.natCast_nonneg _))

/-- Few zeros are left over of a number below `2 ^ 129`. -/
theorem Of.exponent_le (h : Of d s) (below : d.value < 2 ^ (129 : ℤ)) : s.exponent ≤ 22 := by
  rw [← h.written_eq, written] at below
  by_contra large
  have long : 2 ^ 64 ≤ s.value * 10 := by
    cases h with
    | behind h => exact absurd h (by dsimp only at large; omega)
    | before _ _ last => exact last (by dsimp only at large; omega)
  have long : (2 ^ 64 : ℚ) ≤ s.value * 10 := by exact_mod_cast long
  have power : (10 : ℚ) ^ (23 : ℤ) ≤ 10 ^ s.exponent :=
    zpow_le_zpow_right₀ (by norm_num) (by omega)
  have beyond : (2 ^ 64 / 10 : ℚ) * 10 ^ (23 : ℤ) ≤ s.value * 10 ^ s.exponent :=
    mul_le_mul (by linarith) power (by positivity) (by positivity)
  have top : (2 : ℚ) ^ (129 : ℤ) < 2 ^ 64 / 10 * 10 ^ (23 : ℤ) := by norm_num
  exact lt_irrefl _ (below.trans (top.trans_le beyond))

/-- The double of a significand in range, under its sign. -/
theorem real_is (positive : 0 < s.value) (word : s.value < 2 ^ 64) (low : -60 ≤ s.exponent)
    (high : s.exponent ≤ 22) (fits : s.exponent < 0 → Fits s.value) (negative : Bool) :
    ∃ y m e, s.real negative = some (.real y) ∧ Is y negative m e ∧
      |s.written - m * 2 ^ e| ≤ 33 / 16 * s.written / 2 ^ 53 ∧
      (Fits s.value → -22 ≤ s.exponent → (Format.double.interval m e).Contains s.written) := by
  obtain ⟨y, m, e, scale, is, near, inside⟩ := s.scaled positive word low high fits
  rw [real, scale]
  cases negative with
  | false => exact ⟨y, m, e, rfl, is, near, inside⟩
  | true =>
    have opposite : Is y.neg true m e := ⟨Floating.Number.decode_neg is.decode, is.held, is.full⟩
    exact ⟨y.neg, m, e, rfl, opposite, near, inside⟩

end Significand

end Json

namespace Floating.Number

/-- A number of the single format, but for those on either side of one decimal, is whole for JSON
or a double whose text in JSON is read as the number. -/
theorem single_comes_back {x : Single} {s : Bool} {m : Nat} {e : Int}
    (h : x.decode = .finite s m e) (hm : m ≠ 0) (clear : ¬ Doubtful m e) :
    (∃ i, x.literal? = some (some (.whole i))) ∨
      ∃ y, x.literal? = some (some (.real y)) ∧
        readNumber Format.single (Json.realChars y) = some x := by
  obtain ⟨-, held, -⟩ := decode_finite h
  have literal : x.literal? = some ((shortest Format.single .up m e).literal s) := by
    rw [literal?, h]
    exact congrArg some (if_neg hm)
  obtain ⟨c, k, grid, places, value, exponent, positive, digits, nine⟩ :=
    single_found held (Nat.pos_of_ne_zero hm) .up
  have inside := Interval.reaches_iff.1 (Interval.onGrid?_reaches _ .up k grid)
  generalize shortest Format.single .up m e = d at literal value exponent positive digits
  have few : d.digits < 2 ^ 53 := (digits.trans nine).trans_lt (by decide)
  rw [literal]
  obtain ⟨i, whole⟩ | ⟨σ, real, of⟩ :=
    Decimal.literal_cases positive (few.le.trans (by decide)) s
  · exact .inl ⟨i, congrArg some whole⟩
  refine .inr ?_
  have written : σ.written = c * 10 ^ k := of.written_eq.trans value
  have low : -60 ≤ σ.exponent := by
    cases of with
    | behind => exact le_trans (by omega) exponent
    | before => exact le_trans (by decide) (Int.natCast_nonneg _)
  have high : σ.exponent ≤ 22 := by
    refine of.exponent_le (value ▸ (inside.value_lt held).trans_le ?_)
    have top := held.exponent_lt
    change e + 1 < -149 + 256 at top
    exact zpow_le_zpow_right₀ one_le_two (show (23 : Int) + 1 + e ≤ 129 by omega)
  obtain ⟨y, m', e', scaled, is, near, next⟩ := Json.Significand.real_is (of.value_pos positive)
    (of.value_lt (few.le.trans (by decide))) low high
    (fun behind => by rw [of.eq_of_neg behind]; exact Double.fits_of_lt positive few) s
  rw [written] at near next
  have near := near_shortest is.held is.full .even near
  have same : (Format.single.interval m e).Contains (shortest Format.double .even m' e').value := by
    by_cases many : 9 * 10 ^ 8 ≤ d.digits
    · exact single_contains_of_many held grid (many.trans digits) near
    have fits := of.fits positive (Nat.lt_of_not_le many)
    by_cases tens : -22 ≤ σ.exponent
    · -- the double is the one next to the decimal, so it has the same shortest decimal
      have decimal : (c : ℚ) * 10 ^ k = (d.digits : ℚ) * 10 ^ d.exponent := value.symm
      have next := next fits tens
      rw [decimal] at next
      rw [shortest_of_short is.full .even (digits.trans (nine.trans (by decide))) next, ← decimal]
      exact inside
    · have behind := congrArg Json.Significand.exponent (of.eq_of_neg (by omega))
      dsimp only at behind
      exact single_contains held (Nat.pos_of_ne_zero hm) grid places (by omega) clear near
  obtain ⟨t, text, spells⟩ := spells_realChars is.decode
  rw [if_neg is.pos.ne'] at spells
  refine ⟨y, congrArg some (real.trans scaled), ?_⟩
  rw [text, ← eq_of_decode h]
  exact readNumber_spells inReach_single held s spells (by rwa [Format.Rounds, if_neg hm])

/-- Two numbers with one ratio in their intervals are the same. -/
theorem eq_of_contains {f : Format} {s : Bool} {m m' : Nat} {e e' : Int} {v : ℚ} {n d : Nat}
    (ratio : (n : ℚ) / d = v) (hn : 0 < n) (hd : 0 < d) (held : f.Holds m e) (held' : f.Holds m' e')
    (inside : (f.interval m e).Contains v) (inside' : (f.interval m' e').Contains v) :
    ofMagnitude f s (f.pack m e) = ofMagnitude f s (f.pack m' e') := by
  subst ratio
  rw [← magnitudeOfRatio_eq held hn hd inside, magnitudeOfRatio_eq held' hn hd inside']

/-- A double whose shortest decimal has digits and a power of ten that are doubles is that double
for JSON, or a whole number. -/
theorem double_comes_back {x : Double} {s : Bool} {m : Nat} {e : Int}
    (h : x.decode = .finite s m e) (hm : m ≠ 0)
    (digits : (shortest Format.double .up m e).digits < 2 ^ 53)
    (places : -22 ≤ (shortest Format.double .up m e).exponent)
    (word : 0 ≤ (shortest Format.double .up m e).exponent →
      (shortest Format.double .up m e).digits *
        10 ^ (shortest Format.double .up m e).exponent.toNat ≤ 2 ^ 63) :
    ∃ n, x.literal? = some (some n) ∧ (n = .real x ∨ ∃ i, n = .whole i) := by
  obtain ⟨-, held, -⟩ := decode_finite h
  have literal : x.literal? = some ((shortest Format.double .up m e).literal s) := by
    rw [literal?, h]
    exact congrArg some (if_neg hm)
  obtain ⟨inside, positive, -⟩ :=
    shortest_inside (by decide) .up held (Nat.pos_of_ne_zero hm)
  generalize shortest Format.double .up m e = d at literal digits places word inside positive
  rw [literal, Decimal.literal]
  split
  · rename_i behind
    obtain ⟨y, m', e', real, is, -, inside'⟩ := Json.Significand.real_is
      (s := ⟨d.digits, d.exponent⟩) positive (digits.trans (by decide))
      (le_trans (by decide) places) (by dsimp only; omega)
      (fun _ => Double.fits_of_lt positive digits) s
    have inside' := inside' (Double.fits_of_lt positive digits) places
    refine ⟨_, congrArg some real, .inl ?_⟩
    rw [← eq_of_decode h, ← eq_of_decode is.decode]
    rw [eq_of_contains (ratio_ten _ _) (scaleTen_pos positive _) (scaleTen_pos Nat.one_pos _)
      is.held held inside' inside]
  · rename_i whole
    have word := word (Int.not_lt.1 whole)
    have some' : 0 < d.digits * 10 ^ d.exponent.toNat :=
      Nat.mul_pos positive (Nat.pow_pos (by decide))
    generalize d.digits * 10 ^ d.exponent.toNat = n at word some' ⊢
    cases s with
    | false =>
      exact ⟨_, congrArg some (Json.literal_natChars (word.trans (by decide))), .inr ⟨_, rfl⟩⟩
    | true =>
      have least : Json.leastWhole ≤ -(n : Int) := by
        rw [show Json.leastWhole = -(2 ^ 63 : Nat) by decide]
        omega
      exact ⟨_, congrArg some (Json.literal_negative some' least), .inr ⟨_, rfl⟩⟩

end Floating.Number

end FieldGateway
