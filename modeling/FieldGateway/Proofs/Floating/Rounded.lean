import FieldGateway.Floating.Arithmetic
import FieldGateway.Proofs.Floating.Nearest

/-
  Arithmetic on doubles. Every ratio in range is rounded to a number whose interval it lies in
  (`Number.exists_contains`), and a number with the bits of a double is that double
  (`Double.exists_exact`), so a product or a quotient is off by no more than one part in `2 ^ 53` of it
  (`Interval.Contains.near`).
-/

namespace FieldGateway.Floating

/-- The nearest whole number is at most a half away, and even where there are two. -/
theorem nearest_spec {n d : Nat} (hd : 0 < d) :
    (nearest n d : ℚ) - 1 / 2 ≤ n / d ∧ (n : ℚ) / d ≤ nearest n d + 1 / 2 ∧
      (nearest n d % 2 = 0 ∨
        ((nearest n d : ℚ) - 1 / 2 < n / d ∧ (n : ℚ) / d < nearest n d + 1 / 2)) := by
  have hd' : (0 : ℚ) < d := by exact_mod_cast hd
  have parts := Nat.div_add_mod n d
  have rest := Nat.mod_lt n hd
  have whole : 2 * (nearest n d * d) ≤ 2 * n + d ∧ 2 * n ≤ 2 * (nearest n d * d) + d ∧
      (nearest n d % 2 = 0 ∨
        2 * (nearest n d * d) < 2 * n + d ∧ 2 * n < 2 * (nearest n d * d) + d) := by
    unfold nearest
    dsimp only
    split
    · rw [Nat.add_mul, Nat.mul_comm (n / d)]
      omega
    · rw [Nat.mul_comm (n / d)]
      omega
  obtain ⟨lower, upper, ends⟩ := whole
  have lower : (2 : ℚ) * (nearest n d * d) ≤ 2 * n + d := by exact_mod_cast lower
  have upper : (2 : ℚ) * n ≤ 2 * (nearest n d * d) + d := by exact_mod_cast upper
  refine ⟨?_, ?_, ends.imp_right fun h => ⟨?_, ?_⟩⟩
  · rw [le_div_iff₀ hd']
    linarith
  · rw [div_le_iff₀ hd']
    linarith
  · have : (2 : ℚ) * (nearest n d * d) < 2 * n + d := by exact_mod_cast h.1
    rw [lt_div_iff₀ hd']
    linarith
  · have : (2 : ℚ) * n < 2 * (nearest n d * d) + d := by exact_mod_cast h.2
    rw [div_lt_iff₀ hd']
    linarith

namespace Number

variable {f : Format} {n d : Nat}

/-- Counted in its unit a ratio has no more bits than a mantissa, and no less unless the unit is the
least. -/
theorem unitExp_spec (f : Format) (hn : 0 < n) (hd : 0 < d) :
    (n : ℚ) / d / 2 ^ unitExp f n d < 2 * twoPow f.fracBits ∧
      (unitExp f n d = f.minExp ∨ (twoPow f.fracBits : ℚ) ≤ n / d / 2 ^ unitExp f n d) := by
  have two : (2 : ℚ) ≠ 0 := two_ne_zero
  have unit : (0 : ℚ) < 2 ^ unitExp f n d := by positivity
  have bits : ((twoPow f.fracBits : Nat) : ℚ) = 2 ^ (f.fracBits : ℤ) := by simp [twoPow]
  have exponent : unitExp f n d = max (floorLog n d - f.fracBits) f.minExp := rfl
  obtain ⟨log_le, log_lt⟩ := floorLog_spec hn hd
  rw [div_lt_iff₀ unit, le_div_iff₀ unit, bits, mul_comm 2, ← zpow_add_one₀ two, ← zpow_add₀ two,
    ← zpow_add₀ two]
  refine ⟨log_lt.trans_le (zpow_le_zpow_right₀ one_le_two (by omega)), ?_⟩
  by_cases least : unitExp f n d = f.minExp
  · exact .inl least
  · rw [show f.fracBits + unitExp f n d = floorLog n d by omega]
    exact .inr log_le

end Number

/-- The greatest number of a format: all the bits of the mantissa, and the last exponent but one. -/
def Format.greatest (f : Format) : ℚ :=
  (2 * twoPow f.fracBits - 1) * 2 ^ (f.minExp + (twoPow f.expBits : Nat) - 3)

theorem Format.greatest_lt (f : Format) :
    f.greatest < 2 ^ (f.fracBits + f.minExp + (twoPow f.expBits : Nat) - 2) := by
  have unit : (0 : ℚ) < 2 ^ (f.minExp + (twoPow f.expBits : Nat) - 3) := by positivity
  have bits : ((twoPow f.fracBits : Nat) : ℚ) = 2 ^ (f.fracBits : ℤ) := by simp [twoPow]
  have parts : f.fracBits + f.minExp + (twoPow f.expBits : Nat) - 2 =
      1 + f.fracBits + (f.minExp + (twoPow f.expBits : Nat) - 3) := by omega
  rw [greatest, parts, zpow_add₀ two_ne_zero, zpow_add₀ two_ne_zero, zpow_one, bits]
  exact mul_lt_mul_of_pos_right (by linarith) unit

/-- What is below the last binade is below the greatest number. -/
theorem Format.le_greatest {f : Format} {q : ℚ}
    (below : q ≤ 2 ^ (f.fracBits + f.minExp + (twoPow f.expBits : Nat) - 3)) :
    q ≤ f.greatest := by
  have bits : ((twoPow f.fracBits : Nat) : ℚ) = 2 ^ (f.fracBits : ℤ) := by simp [twoPow]
  have one : (1 : ℚ) ≤ 2 ^ (f.fracBits : ℤ) := one_le_zpow₀ one_le_two (by omega)
  have parts : f.fracBits + f.minExp + (twoPow f.expBits : Nat) - 3 =
      f.fracBits + (f.minExp + (twoPow f.expBits : Nat) - 3) := by omega
  rw [parts, zpow_add₀ two_ne_zero] at below
  refine below.trans (mul_le_mul_of_nonneg_right ?_ (by positivity))
  rw [bits]
  linarith

namespace Number

variable {f : Format} {n d : Nat}

/-- Every positive ratio up to the greatest number is in the interval of a number. -/
theorem exists_contains (wide : 4 ≤ twoPow f.expBits) (fine : 1 ≤ f.fracBits) (hn : 0 < n)
    (hd : 0 < d) (below : (n : ℚ) / d ≤ f.greatest) :
    ∃ m e, f.Holds m e ∧ (f.interval m e).Contains (n / d) := by
  have log_below := (zpow_lt_zpow_iff_right₀ (one_lt_two (α := ℚ))).1
    ((floorLog_spec hn hd).1.trans_lt (below.trans_lt f.greatest_lt))
  let e := unitExp f n d
  let q := nearest (shiftUp n (-e)) (shiftUp d e)
  have exponent : e = max (floorLog n d - f.fracBits) f.minExp := rfl
  have even : twoPow f.fracBits % 2 = 0 := by
    obtain ⟨k, hk⟩ : ∃ k, f.fracBits = k + 1 := ⟨f.fracBits - 1, by omega⟩
    rw [hk, twoPow_add]
    exact Nat.mul_mod_left _ _
  have scaled : ((shiftUp n (-e) : Nat) : ℚ) / (shiftUp d e : Nat) = n / d / 2 ^ e :=
    ratio_shiftUp n d e
  obtain ⟨lower, upper, ends⟩ := nearest_spec (n := shiftUp n (-e)) (shiftUp_pos hd e)
  rw [scaled] at lower upper ends
  obtain ⟨count_lt, normal⟩ := unitExp_spec f hn hd
  have positive := twoPow_pos f.fracBits
  have q_le : q ≤ 2 * twoPow f.fracBits := by
    have : (q : ℚ) < 2 * twoPow f.fracBits + 1 := by linarith
    have : q < 2 * twoPow f.fracBits + 1 := by exact_mod_cast this
    omega
  have q_ge : e = f.minExp ∨ twoPow f.fracBits ≤ q := by
    refine normal.imp_right fun h => ?_
    have : (twoPow f.fracBits : ℚ) < q + 1 := by linarith
    have : twoPow f.fracBits < q + 1 := by exact_mod_cast this
    omega
  by_cases carry : q = 2 * twoPow f.fracBits
  · -- the next binade begins here; there is one, or the greatest number were nearer
    have room : e ≠ f.minExp + (twoPow f.expBits : Nat) - 3 := by
      intro last
      rw [Format.greatest, ← last, ← div_le_iff₀ (by positivity)] at below
      have carry : ((q : Nat) : ℚ) = 2 * twoPow f.fracBits := by exact_mod_cast carry
      have lower : (q : ℚ) - 1 / 2 ≤ n / d / 2 ^ e := lower
      linarith
    refine ⟨twoPow f.fracBits, e + 1, ⟨by omega, by omega, .inr (Nat.le_refl _),
      Format.pack_lt (by omega) (by omega) (by omega)⟩, ?_, ?_, .inl even⟩
    all_goals
      rw [Format.interval_mantissa, Format.interval_exponent, zpow_add_one₀ two_ne_zero, ← div_div]
    · have narrow : (f.interval (twoPow f.fracBits) (e + 1)).below = 1 / 4 := by
        have : e + 1 ≠ f.minExp := by omega
        simp [Interval.below, Format.interval, this]
      have carry : ((q : Nat) : ℚ) = 2 * twoPow f.fracBits := by exact_mod_cast carry
      have lower : (q : ℚ) - 1 / 2 ≤ n / d / 2 ^ e := lower
      rw [narrow]
      linarith
    · linarith
  · refine ⟨q, e, ⟨by omega, by omega, q_ge,
      Format.pack_lt (by omega) (by omega) (by omega)⟩, ?_⟩
    by_cases narrow : (f.interval q e).narrowBelow = true
    · -- the ratio is not below the least mantissa
      have least : q = twoPow f.fracBits ∧ e ≠ f.minExp := by
        simpa [Format.interval] using narrow
      have at_least : (q : ℚ) ≤ n / d / 2 ^ e := least.1 ▸ normal.resolve_left least.2
      have reach := (f.interval q e).le_below
      refine ⟨?_, upper, .inl (least.1 ▸ even)⟩
      rw [Format.interval_mantissa, Format.interval_exponent]
      linarith
    · have below : (f.interval q e).below = 1 / 2 := by rw [Interval.below, if_neg narrow]
      refine ⟨?_, upper, ?_⟩
      all_goals rw [below]
      · exact lower
      · exact ends

/-! ## Signs -/

theorem magnitude_neg (x : Number f) : x.neg.magnitude = x.magnitude := by
  have width : f.width - 1 = f.expBits + f.fracBits := by
    show 1 + f.expBits + f.fracBits - 1 = _
    omega
  have sign : (BitVec.twoPow f.width (f.width - 1)).toNat % 2 ^ (f.expBits + f.fracBits) = 0 := by
    rw [BitVec.toNat_twoPow, width, Nat.mod_mod_of_dvd _ (Nat.pow_dvd_pow 2 (by
      show _ ≤ 1 + f.expBits + f.fracBits
      omega)), Nat.mod_self]
  show (x.word ^^^ BitVec.twoPow f.width (f.width - 1)).toNat % 2 ^ (f.expBits + f.fracBits) =
    x.word.toNat % 2 ^ (f.expBits + f.fracBits)
  rw [BitVec.toNat_xor, Nat.xor_mod_two_pow, sign, Nat.xor_zero]

theorem negative_neg (x : Number f) : x.neg.negative = !x.negative := by
  show (x.word ^^^ BitVec.twoPow f.width (f.width - 1)).msb = !x.word.msb
  rw [BitVec.msb_xor, BitVec.msb_twoPow]
  have : f.width - 1 < f.width := by
    show 1 + f.expBits + f.fracBits - 1 < 1 + f.expBits + f.fracBits
    omega
  simp [this]

/-- The opposite number differs in its sign only. -/
theorem decode_neg {x : Number f} {s : Bool} {m : Nat} {e : Int} (h : x.decode = .finite s m e) :
    x.neg.decode = .finite (!s) m e := by
  rw [decode] at h ⊢
  rw [magnitude_neg, negative_neg]
  split at h
  · split at h <;> cases h
  rename_i finite
  rw [if_neg finite]
  split at h
  · rename_i zero
    cases h
    rw [if_pos zero]
  · rename_i zero
    cases h
    rw [if_neg zero]

theorem decode_abs {x : Number f} {s : Bool} {m : Nat} {e : Int} (h : x.decode = .finite s m e) :
    x.abs.decode = .finite false m e := by
  obtain ⟨-, held, packed⟩ := decode_finite h
  rw [abs, packed, decode_ofMagnitude false held]

end Number

/-! ## Doubles -/

/-- The number is the double `± m · 2 ^ e`, and uses all the bits of the mantissa. -/
structure Double.Is (x : Double) (s : Bool) (m : Nat) (e : Int) : Prop where
  decode : x.decode = .finite s m e
  held : Format.double.Holds m e
  full : 2 ^ 52 ≤ m

/-- A number with all the bits of its mantissa is near what is rounded to it. -/
theorem Interval.Contains.near {m : Nat} {e : Int} {v : ℚ}
    (inside : (Format.double.interval m e).Contains v) (full : 2 ^ 52 ≤ m) :
    |v - m * 2 ^ e| ≤ m * 2 ^ e / 2 ^ 53 := by
  have unit : (0 : ℚ) < 2 ^ e := by positivity
  have lower : m - (Format.double.interval m e).below ≤ v / 2 ^ e := inside.lower
  have upper : v / 2 ^ e ≤ m + 1 / 2 := inside.upper
  have reach := (Format.double.interval m e).below_le
  have full : (2 : ℚ) ^ 52 ≤ m := by exact_mod_cast full
  have parts : v - m * 2 ^ e = (v / 2 ^ e - m) * 2 ^ e := by
    rw [sub_mul, div_mul_cancel₀ _ unit.ne']
  rw [parts, abs_mul, abs_of_pos unit, mul_div_right_comm]
  refine mul_le_mul_of_nonneg_right (abs_le.2 ⟨?_, ?_⟩) unit.le
  · linarith
  · linarith

namespace Double

variable {n d : Nat}

theorem is_of_contains (hn : 0 < n) (hd : 0 < d) {m : Nat} {e : Int}
    (held : Format.double.Holds m e) (full : 2 ^ 52 ≤ m) (s : Bool)
    (inside : (Format.double.interval m e).Contains (n / d)) :
    Is (Number.ofRatio Format.double s n d) s m e := by
  refine ⟨?_, held, full⟩
  rw [Number.ofRatio, Number.magnitudeOfRatio_eq held hn hd inside,
    Number.decode_ofMagnitude s held]

/-- Numbers with no more bits than a mantissa has are doubles. -/
theorem exists_exact {a : Nat} (ha : 0 < a) (fits : a < 2 ^ 53) {j : Int} (low : -1000 ≤ j)
    (high : j ≤ 900) :
    ∃ m e, Format.double.Holds m e ∧ 2 ^ 52 ≤ m ∧ (m : ℚ) * 2 ^ e = a * 2 ^ j := by
  have log : a.log2 < 53 := (Nat.log2_lt ha.ne').2 fits
  have least := Nat.log2_self_le ha.ne'
  have greatest := Nat.lt_log2_self (n := a)
  have full : 2 ^ 52 ≤ a * 2 ^ (52 - a.log2) := by
    calc 2 ^ 52 = 2 ^ a.log2 * 2 ^ (52 - a.log2) := by rw [← Nat.pow_add]; congr 1; omega
      _ ≤ a * 2 ^ (52 - a.log2) := Nat.mul_le_mul_right _ least
  have below : a * 2 ^ (52 - a.log2) < 2 * twoPow 52 := by
    calc a * 2 ^ (52 - a.log2) < 2 ^ (a.log2 + 1) * 2 ^ (52 - a.log2) :=
          Nat.mul_lt_mul_of_pos_right greatest (Nat.two_pow_pos _)
      _ = 2 * twoPow 52 := by
          rw [← Nat.pow_add, show a.log2 + 1 + (52 - a.log2) = 53 by omega]
          rfl
  have least' : Format.double.minExp ≤ j - (52 - a.log2 : Nat) := by
    show (-1074 : Int) ≤ _
    omega
  have top : j - (52 - a.log2 : Nat) + 3 ≤
      Format.double.minExp + (twoPow Format.double.expBits : Nat) := by
    show _ ≤ (-1074 : Int) + 2048
    omega
  refine ⟨a * 2 ^ (52 - a.log2), j - (52 - a.log2 : Nat),
    ⟨least', below, .inr full, Format.pack_lt below least' top⟩, full, ?_⟩
  push_cast
  rw [zpow_sub₀ two_ne_zero, zpow_natCast]
  field_simp

/-- No more bits than a mantissa has, and an exponent that is not among the extreme ones. -/
def Fits (v : ℚ) : Prop :=
  ∃ (a : Nat) (j : Int), 0 < a ∧ a < 2 ^ 53 ∧ -1000 ≤ j ∧ j ≤ 900 ∧ v = a * 2 ^ j

theorem fits_of_lt {n : Nat} (positive : 0 < n) (h : n < 2 ^ 53) : Fits n :=
  ⟨n, 0, positive, h, by decide, by decide, by rw [zpow_zero, mul_one]⟩

/-- A ratio in range is rounded to a double whose interval it is in, and to itself if it is a
double. -/
theorem ofRatio_is (hn : 0 < n) (hd : 0 < d) (s : Bool) (low : (2 : ℚ) ^ (-250 : ℤ) ≤ n / d)
    (high : (n : ℚ) / d < 2 ^ (250 : ℤ)) :
    ∃ m e, Is (Number.ofRatio Format.double s n d) s m e ∧
      (Format.double.interval m e).Contains (n / d) ∧ (Fits (n / d) → (m : ℚ) * 2 ^ e = n / d) := by
  obtain ⟨m, e, held, inside⟩ := Number.exists_contains (f := Format.double) (by decide) (by decide)
    hn hd (Format.le_greatest (high.le.trans (zpow_le_zpow_right₀ one_le_two (by decide))))
  have full : 2 ^ 52 ≤ m := by
    refine held.normal.resolve_left fun least => ?_
    -- with the least exponent the number would be far below
    have := calc (2 : ℚ) ^ (-250 : ℤ) ≤ n / d := low
      _ < 2 ^ (Format.double.fracBits + 1 + e) := inside.value_lt held
      _ ≤ 2 ^ (-250 : ℤ) := zpow_le_zpow_right₀ one_le_two (by rw [least]; decide)
    exact lt_irrefl _ this
  have is := is_of_contains hn hd held full s inside
  refine ⟨m, e, is, inside, ?_⟩
  rintro ⟨a, j, positive, fits, least, greatest, ratio⟩
  obtain ⟨m', e', held', full', value⟩ := exists_exact positive fits least greatest
  have exact' := is_of_contains hn hd held' full' s
    (by rw [ratio, ← value]; exact (Format.double.interval m' e').contains_self)
  cases is.decode.symm.trans exact'.decode
  exact value.trans ratio.symm

/-! ## Products and quotients -/

variable {x y : Double} {s t : Bool} {m m' : Nat} {e e' : Int}

theorem Is.pos (h : Is x s m e) : 0 < m := Nat.lt_of_lt_of_le (by decide) h.full

theorem mul_eq (hx : Is x s m e) (hy : Is y t m' e') :
    ∃ n d, 0 < n ∧ 0 < d ∧ x.mul y = Number.ofRatio Format.double (s != t) n d ∧
      (n : ℚ) / d = m * 2 ^ e * (m' * 2 ^ e') := by
  refine ⟨_, _, shiftUp_pos (Nat.mul_pos hx.pos hy.pos) (e + e'),
    shiftUp_pos Nat.one_pos (-(e + e')), ?_, ?_⟩
  · rw [Number.mul, hx.decode, hy.decode]
    rfl
  · rw [ratio_two, zpow_add₀ two_ne_zero]
    push_cast
    ring

theorem div_eq (hx : Is x s m e) (hy : Is y t m' e') :
    ∃ n d, 0 < n ∧ 0 < d ∧ x.div y = Number.ofRatio Format.double (s != t) n d ∧
      (n : ℚ) / d = m * 2 ^ e / (m' * 2 ^ e') := by
  have divisor : (m' : ℚ) ≠ 0 := by exact_mod_cast hy.pos.ne'
  refine ⟨_, _, shiftUp_pos hx.pos (e - e'), shiftUp_pos hy.pos (e' - e), ?_, ?_⟩
  · rw [Number.div, hx.decode, hy.decode]
    exact if_neg hy.pos.ne'
  · have := ratio_shiftUp m m' (e' - e)
    rw [neg_sub] at this
    rw [this, zpow_sub₀ two_ne_zero]
    field_simp

end Double

end FieldGateway.Floating
