import FieldGateway.Floating.Format

/-
  Words as numbers. A finite word is a sign and a magnitude, and the magnitude counts the numbers
  of the format from zero up, so it follows from the mantissa and the exponent (`Format.pack`).
  Which pairs of them occur is said by `Format.Holds`; decoding and packing are inverse to each
  other on these (`decode_finite`, `decode_ofMagnitude`).
-/

namespace FieldGateway.Floating

theorem twoPow_add (a b : Nat) : twoPow (a + b) = twoPow a * twoPow b := Nat.pow_add 2 a b

theorem twoPow_pos (n : Nat) : 0 < twoPow n := Nat.two_pow_pos n

namespace Format

variable (f : Format)

/-- The word of the sign alone; what is below it is a magnitude. -/
def signWord : Nat := twoPow (f.expBits + f.fracBits)

/-- The magnitude of `m · 2 ^ e`: each step of the exponent passes one binade. -/
def pack (m : Nat) (e : Int) : Nat := (e - f.minExp).toNat * twoPow f.fracBits + m

/-- A finite number of the format is `m · 2 ^ e`: the mantissa has one bit more than the fraction,
and has it set unless the exponent is the least. -/
structure Holds (m : Nat) (e : Int) : Prop where
  least : f.minExp ≤ e
  fits : m < 2 * twoPow f.fracBits
  normal : e = f.minExp ∨ twoPow f.fracBits ≤ m
  finite : f.pack m e < f.infinityWord

theorem pack_least (m : Nat) : f.pack m f.minExp = m := by
  rw [pack, Int.sub_self, Int.toNat_zero, Nat.zero_mul, Nat.zero_add]

/-- The end of a binade is the start of the next. -/
theorem pack_double {e : Int} (h : f.minExp < e) :
    f.pack (2 * twoPow f.fracBits) (e - 1) = f.pack (twoPow f.fracBits) e := by
  obtain ⟨k, rfl⟩ : ∃ k : Nat, e = f.minExp + k + 1 := ⟨(e - f.minExp - 1).toNat, by omega⟩
  rw [pack, pack, show (f.minExp + k + 1 - 1 - f.minExp).toNat = k by omega,
    show (f.minExp + k + 1 - f.minExp).toNat = k + 1 by omega, Nat.add_mul]
  omega

/-- What is below the last binades is finite. -/
theorem pack_lt {f : Format} {m : Nat} {e : Int} (fits : m < 2 * twoPow f.fracBits)
    (least : f.minExp ≤ e) (top : e + 3 ≤ f.minExp + (twoPow f.expBits : Nat)) :
    f.pack m e < f.infinityWord := by
  have binades : (e - f.minExp).toNat + 2 ≤ twoPow f.expBits - 1 := by omega
  calc f.pack m e < (e - f.minExp).toNat * twoPow f.fracBits + 2 * twoPow f.fracBits :=
        Nat.add_lt_add_left fits _
    _ = ((e - f.minExp).toNat + 2) * twoPow f.fracBits := (Nat.add_mul _ _ _).symm
    _ ≤ f.infinityWord := Nat.mul_le_mul_right _ binades

/-- The greatest exponents are for what is not finite. -/
theorem Holds.exponent_lt {f : Format} {m : Nat} {e : Int} (h : f.Holds m e) :
    e + 1 < f.minExp + twoPow f.expBits := by
  have least := h.least
  have binades : (e - f.minExp).toNat < twoPow f.expBits - 1 :=
    Nat.lt_of_mul_lt_mul_right (Nat.lt_of_le_of_lt (Nat.le_add_right _ m) h.finite)
  omega

theorem Holds.le_last {f : Format} {m : Nat} {e : Int} (h : f.Holds m e)
    (wide : 4 ≤ twoPow f.expBits) : e ≤ f.minExp + (twoPow f.expBits : Nat) - 3 := by
  rcases h.normal with rfl | normal
  · omega
  · have least := h.least
    have finite : (e - f.minExp).toNat * twoPow f.fracBits + m <
        (twoPow f.expBits - 1) * twoPow f.fracBits := h.finite
    have binades : (e - f.minExp).toNat + 1 < twoPow f.expBits - 1 := by
      refine Nat.lt_of_mul_lt_mul_right (Nat.lt_of_le_of_lt ?_ finite)
      rw [Nat.add_mul, Nat.one_mul]
      exact Nat.add_le_add_left normal _
    omega

/-- A zero has the least exponent. -/
theorem Holds.pack_zero {f : Format} {e : Int} (h : f.Holds 0 e) : f.pack 0 e = 0 := by
  have bits := twoPow_pos f.fracBits
  obtain rfl : e = f.minExp := h.normal.resolve_right (by omega)
  exact f.pack_least 0

theorem twoPow_width : twoPow f.width = 2 * f.signWord := by
  rw [signWord, show f.width = 1 + (f.expBits + f.fracBits) from Nat.add_assoc _ _ _, twoPow_add]

theorem signWord_eq : f.signWord = twoPow f.expBits * twoPow f.fracBits := twoPow_add _ _

theorem infinityWord_lt : f.infinityWord < f.signWord := by
  have exponents := twoPow_pos f.expBits
  rw [signWord_eq, infinityWord]
  exact Nat.mul_lt_mul_of_pos_right (by omega) (twoPow_pos _)

end Format

namespace Number

variable {f : Format}

theorem negative_eq (x : Number f) : x.negative = decide (f.signWord ≤ x.word.toNat) := by
  have width : f.width - 1 = f.expBits + f.fracBits := by
    show 1 + f.expBits + f.fracBits - 1 = _
    omega
  rw [negative, BitVec.msb_eq_decide, width]
  rfl

theorem magnitude_lt (x : Number f) : x.magnitude < f.signWord := Nat.mod_lt _ (twoPow_pos _)

/-- A word is its sign and its magnitude. -/
theorem toNat_word (x : Number f) :
    x.word.toNat = (if x.negative then f.signWord else 0) + x.magnitude := by
  have below : x.word.toNat < 2 * f.signWord := f.twoPow_width ▸ x.word.isLt
  have parts : x.magnitude = x.word.toNat % f.signWord := rfl
  rw [negative_eq, parts]
  by_cases h : f.signWord ≤ x.word.toNat
  · rw [if_pos (decide_eq_true h), Nat.mod_eq_sub_mod h, Nat.mod_eq_of_lt (by omega)]
    omega
  · rw [if_neg (by simpa using h), Nat.mod_eq_of_lt (by omega), Nat.zero_add]

theorem toNat_ofMagnitude (s : Bool) {w : Nat} (h : w < f.signWord) :
    (ofMagnitude f s w).word.toNat = (if s then f.signWord else 0) + w := by
  have width := f.twoPow_width
  rw [ofMagnitude, BitVec.toNat_ofNat]
  cases s with
  | false => exact (Nat.mod_eq_of_lt (show w < twoPow f.width by omega)).trans (Nat.zero_add w).symm
  | true => exact Nat.mod_eq_of_lt (show f.signWord + w < twoPow f.width by omega)

theorem ofMagnitude_magnitude (x : Number f) : ofMagnitude f x.negative x.magnitude = x := by
  have words : (ofMagnitude f x.negative x.magnitude).word = x.word :=
    BitVec.eq_of_toNat_eq (by rw [toNat_ofMagnitude _ x.magnitude_lt, ← toNat_word])
  exact congrArg mk words

theorem negative_ofMagnitude (s : Bool) {w : Nat} (h : w < f.signWord) :
    (ofMagnitude f s w).negative = s := by
  rw [negative_eq, toNat_ofMagnitude s h]
  cases s <;> simp [h]

theorem magnitude_ofMagnitude (s : Bool) {w : Nat} (h : w < f.signWord) :
    (ofMagnitude f s w).magnitude = w := by
  show (ofMagnitude f s w).word.toNat % f.signWord = w
  rw [toNat_ofMagnitude s h]
  cases s with
  | false => rw [if_neg Bool.false_ne_true, Nat.zero_add, Nat.mod_eq_of_lt h]
  | true => rw [if_pos rfl, Nat.add_mod_left, Nat.mod_eq_of_lt h]

/-! ## Finite numbers -/

/-- What the magnitude of a finite number counts. -/
theorem decode_finite {x : Number f} {s : Bool} {m : Nat} {e : Int}
    (h : x.decode = .finite s m e) :
    s = x.negative ∧ f.Holds m e ∧ x.magnitude = f.pack m e := by
  have parts := Nat.div_add_mod x.magnitude (twoPow f.fracBits)
  have fraction := Nat.mod_lt x.magnitude (twoPow_pos f.fracBits)
  have exponent : x.magnitude / twoPow f.fracBits < twoPow f.expBits :=
    Nat.div_lt_of_lt_mul (by rw [Nat.mul_comm, ← f.signWord_eq]; exact x.magnitude_lt)
  rw [decode] at h
  split at h
  · split at h <;> cases h
  rename_i finite
  have below : x.magnitude < f.infinityWord :=
    (Nat.div_lt_iff_lt_mul (twoPow_pos _)).1 (by omega)
  split at h
  · rename_i zero
    cases h
    rw [zero, Nat.mul_zero, Nat.zero_add] at parts
    have packed : x.magnitude = f.pack (x.magnitude % twoPow f.fracBits) f.minExp := by
      rw [Format.pack_least, parts]
    exact ⟨rfl, ⟨Int.le_refl _, by omega, .inl rfl, packed ▸ below⟩, packed⟩
  · rename_i zero
    cases h
    have packed : x.magnitude = f.pack (twoPow f.fracBits + x.magnitude % twoPow f.fracBits)
        (f.minExp + (x.magnitude / twoPow f.fracBits - 1 : Nat)) := by
      have binades : (f.minExp + (x.magnitude / twoPow f.fracBits - 1 : Nat) - f.minExp).toNat =
          x.magnitude / twoPow f.fracBits - 1 := by omega
      rw [Format.pack, binades, Nat.sub_mul, Nat.one_mul, Nat.mul_comm]
      have := Nat.le_mul_of_pos_right (twoPow f.fracBits) (Nat.pos_of_ne_zero zero)
      omega
    exact ⟨rfl, ⟨by omega, by omega, .inr (Nat.le_add_right _ _), packed ▸ below⟩, packed⟩

theorem eq_of_decode {x : Number f} {s : Bool} {m : Nat} {e : Int}
    (h : x.decode = .finite s m e) : ofMagnitude f s (f.pack m e) = x := by
  obtain ⟨rfl, -, packed⟩ := decode_finite h
  rw [← packed, ofMagnitude_magnitude]

theorem decode_infinite {x : Number f} {s : Bool} (h : x.decode = .infinite s) :
    infinity f s = x := by
  have parts := Nat.div_add_mod x.magnitude (twoPow f.fracBits)
  rw [decode] at h
  split at h
  · rename_i exponent
    split at h
    · rename_i fraction
      cases h
      rw [exponent, fraction, Nat.add_zero, Nat.mul_comm] at parts
      rw [infinity, Format.infinityWord, parts, ofMagnitude_magnitude]
    · cases h
  · split at h <;> cases h

theorem decode_ofMagnitude (s : Bool) {m : Nat} {e : Int} (h : f.Holds m e) :
    (ofMagnitude f s (f.pack m e)).decode = .finite s m e := by
  have below : f.pack m e < f.signWord := Nat.lt_trans h.finite f.infinityWord_lt
  have least := h.least
  have fits := h.fits
  have finite : f.pack m e / twoPow f.fracBits < twoPow f.expBits - 1 :=
    (Nat.div_lt_iff_lt_mul (twoPow_pos _)).2 h.finite
  rw [decode, magnitude_ofMagnitude s below, negative_ofMagnitude s below]
  rw [if_neg (Nat.ne_of_lt finite)]
  by_cases low : m < twoPow f.fracBits
  · obtain rfl : e = f.minExp := h.normal.resolve_right (Nat.not_le_of_lt low)
    rw [Format.pack_least, Nat.div_eq_of_lt low, Nat.mod_eq_of_lt low, if_pos rfl]
  · obtain ⟨r, rfl⟩ := Nat.exists_eq_add_of_le (Nat.le_of_not_lt low)
    have packed : f.pack (twoPow f.fracBits + r) e =
        r + twoPow f.fracBits * ((e - f.minExp).toNat + 1) := by
      rw [Format.pack, Nat.mul_add, Nat.mul_comm]
      omega
    have small : r < twoPow f.fracBits := by omega
    rw [packed, Nat.add_mul_div_left _ _ (twoPow_pos _), Nat.add_mul_mod_self_left,
      Nat.div_eq_of_lt small, Nat.mod_eq_of_lt small, if_neg (by omega)]
    congr 1
    omega

end Number

end FieldGateway.Floating
