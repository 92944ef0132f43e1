import FieldGateway.Floating.Text
import FieldGateway.Json.Writer
import FieldGateway.Proofs.Floating.Shortest
import FieldGateway.Proofs.Text.Base64
import FieldGateway.Proofs.Text.Digits

/-
  Numbers through text. A text spells a rational if the reader makes of it digits with that value
  (`Spells`), whichever way the digits are laid out: with a point among them, with zeros around
  them, with a power of ten. It is read as the number whose interval the rational lies in
  (`readNumber_spells`), and so the shortest decimal of a number is read as the number
  (`Number.readNumber_chars`, `readNumber_realChars`).
-/

namespace FieldGateway.Floating

open FieldGateway.Text

/-! ## Decimals -/

namespace Written

/-- The number a written decimal stands for. -/
def value (w : Written) : ℚ := w.digits * 10 ^ w.exponent

end Written

section Reading

variable {whole fraction rest : List Char}

theorem readDecimal_point (hw : ∀ c ∈ whole, c.isDigit = true)
    (hf : ∀ c ∈ fraction, c.isDigit = true) (some : whole ++ fraction ≠ [])
    (h : EndsDigits rest) :
    readDecimal (whole ++ '.' :: (fraction ++ rest)) = (readExponent rest).map fun e =>
      ⟨Nat.ofDigitChars 10 (whole ++ fraction) 0, e - fraction.length⟩ := by
  have point : EndsDigits ('.' :: (fraction ++ rest)) := endsDigits_cons (by decide) _
  rw [readDecimal, takeWhile_digits hw point, dropWhile_digits hw point]
  simp only [takeWhile_digits hf h, dropWhile_digits hf h]
  rw [if_neg some]

theorem readDecimal_whole (hw : ∀ c ∈ whole, c.isDigit = true) (some : whole ≠ [])
    (h : EndsDigits rest) (point : rest.head? ≠ '.') :
    readDecimal (whole ++ rest) = (readExponent rest).map fun e =>
      ⟨Nat.ofDigitChars 10 whole 0, e⟩ := by
  rw [readDecimal, takeWhile_digits hw h, dropWhile_digits hw h]
  cases rest with
  | nil => simp [some]
  | cons c r =>
    have other : c ≠ '.' := fun hc => point (congrArg Option.some hc)
    simp [some, other]

/-- The power of ten of the scientific form. -/
theorem readExponent_power (e : Int) :
    readExponent ('e' :: (if e < 0 then '-' else '+') :: natChars e.natAbs) = Option.some e := by
  rw [readExponent, if_pos (.inl rfl)]
  split
  · rw [readSigned, readNat_natChars]
    exact congrArg Option.some (show -(e.natAbs : Int) = e by omega)
  · rw [readSigned, readNat_natChars]
    exact congrArg Option.some (show (e.natAbs : Int) = e by omega)

end Reading

/-- An unsigned text in digits that is read as the decimal number `v`. -/
structure Spells (s : List Char) (v : ℚ) : Prop where
  digit : ∃ c r, s = c :: r ∧ c.isDigit = true
  reads : ∃ w, readDecimal s = some w ∧ w.value = v

section Spelling

variable {ds whole fraction : List Char} {v : ℚ}

theorem spells_point (hw : ∀ c ∈ whole, c.isDigit = true) (hf : ∀ c ∈ fraction, c.isDigit = true)
    (some : whole ≠ [])
    (value : (Nat.ofDigitChars 10 (whole ++ fraction) 0 : ℚ) * 10 ^ (-(fraction.length : ℤ)) = v) :
    Spells (whole ++ '.' :: fraction) v := by
  obtain ⟨c, r, rfl⟩ := List.exists_cons_of_ne_nil some
  have read := readDecimal_point hw hf (List.append_ne_nil_of_left_ne_nil some _) endsDigits_nil
  rw [List.append_nil] at read
  refine ⟨⟨c, _, rfl, hw c List.mem_cons_self⟩, ⟨_, read, ?_⟩⟩
  rw [← value, ← zero_sub (fraction.length : ℤ)]
  rfl

theorem spells_whole (hw : ∀ c ∈ whole, c.isDigit = true) (some : whole ≠ [])
    (value : (Nat.ofDigitChars 10 whole 0 : ℚ) = v) : Spells whole v := by
  obtain ⟨c, r, rfl⟩ := List.exists_cons_of_ne_nil some
  have read := readDecimal_whole hw some endsDigits_nil nofun
  rw [List.append_nil] at read
  refine ⟨⟨c, r, rfl, hw c List.mem_cons_self⟩, ⟨_, read, ?_⟩⟩
  rw [← value]
  exact mul_one _

variable {point : Int}

/-- The number of zeros that are written behind the digits. -/
theorem value_behind (long : ds.length ≤ point) :
    (Nat.ofDigitChars 10 (ds ++ List.replicate (point.toNat - ds.length) '0') 0 : ℚ) =
      Nat.ofDigitChars 10 ds 0 * 10 ^ (point - ds.length) := by
  rw [ofDigitChars_zeros]
  push_cast
  rw [← zpow_natCast]
  congr 2
  omega

variable (hd : ∀ c ∈ ds, c.isDigit = true)

include hd

/-- The point stands before the digits. -/
theorem spells_before (h : point ≤ 0) :
    Spells ('0' :: '.' :: (List.replicate (-point).toNat '0' ++ ds))
      (Nat.ofDigitChars 10 ds 0 * 10 ^ (point - ds.length)) := by
  refine spells_point isDigit_zero (digits_append isDigit_zeros hd) nofun ?_
  rw [ofDigitChars_before, List.length_append, List.length_replicate]
  congr 2
  push_cast
  omega

/-- The point stands among the digits. -/
theorem spells_among (h : 0 < point) (short : point < ds.length) :
    Spells (ds.take point.toNat ++ '.' :: ds.drop point.toNat)
      (Nat.ofDigitChars 10 ds 0 * 10 ^ (point - ds.length)) := by
  refine spells_point (fun c hc => hd c (List.mem_of_mem_take hc))
    (fun c hc => hd c (List.mem_of_mem_drop hc)) ?_ ?_
  · rw [Ne, List.take_eq_nil_iff]
    rintro (h | rfl)
    · omega
    · exact absurd short (by simp; omega)
  · rw [List.take_append_drop, List.length_drop]
    congr 2
    omega

variable (some : ds ≠ [])

include some

/-- Digits around a point are read as they are meant. -/
theorem spells_positional (point : Int) :
    Spells (positional ds point) (Nat.ofDigitChars 10 ds 0 * 10 ^ (point - ds.length)) := by
  unfold positional
  split
  · exact spells_before hd ‹_›
  simp only
  split
  · exact spells_whole (digits_append hd isDigit_zeros) (List.append_ne_nil_of_left_ne_nil some _)
      (value_behind (by omega))
  · exact spells_among hd (by omega) (by omega)

theorem spells_plainReal (point : Int) :
    Spells (Json.plainReal ds point) (Nat.ofDigitChars 10 ds 0 * 10 ^ (point - ds.length)) := by
  unfold Json.plainReal
  split
  · exact spells_before hd ‹_›
  simp only
  split
  · refine spells_point (digits_append hd isDigit_zeros) isDigit_zero
      (List.append_ne_nil_of_left_ne_nil some _) ?_
    have tenfold :
        Nat.ofDigitChars 10 (ds ++ List.replicate (point.toNat - ds.length) '0' ++ ['0']) 0 =
          Nat.ofDigitChars 10 (ds ++ List.replicate (point.toNat - ds.length) '0') 0 * 10 := by
      rw [Nat.ofDigitChars_append, Nat.ofDigitChars_cons, Nat.mul_comm]
      rfl
    rw [tenfold, Nat.cast_mul, value_behind (by omega)]
    simp
  · exact spells_among hd (by omega) (by omega)

theorem spells_scientificReal (point : Int) :
    Spells (Json.scientificReal ds point)
      (Nat.ofDigitChars 10 ds 0 * 10 ^ (point - ds.length)) := by
  have power (s : List Char) : EndsDigits ('e' :: s) := endsDigits_cons (by decide) s
  let sign (e : Int) := (if e < 0 then '-' else '+') :: natChars e.natAbs
  unfold Json.scientificReal
  match ds, hd with
  | [], _ => exact absurd rfl some
  | [d], hd =>
    have read := readDecimal_whole hd (List.cons_ne_nil d []) (power (sign (point - 1))) (by simp)
    rw [readExponent_power] at read
    exact ⟨⟨d, _, rfl, hd d List.mem_cons_self⟩, ⟨_, read, by simp [Written.value]⟩⟩
  | d :: c :: ds, hd =>
    obtain ⟨first, others⟩ := List.forall_mem_cons.1 hd
    have read := readDecimal_point (show ∀ c ∈ [d], c.isDigit = true by simpa using first) others
      (List.cons_ne_nil d _) (power (sign (point - 1)))
    rw [readExponent_power] at read
    refine ⟨⟨d, _, rfl, first⟩, ⟨_, read, ?_⟩⟩
    simp only [Written.value, List.singleton_append, List.length_cons]
    congr 2
    push_cast
    omega

end Spelling

namespace Decimal

variable (d : Decimal)

theorem isDigit_chars : ∀ c ∈ d.chars, c.isDigit = true := fun _ hc => isDigit_natChars hc

theorem chars_ne_nil : d.chars ≠ [] := natChars_ne_nil d.digits

theorem value_chars :
    (Nat.ofDigitChars 10 d.chars 0 : ℚ) * 10 ^ (d.point - d.chars.length) = d.value := by
  have digits : Nat.ofDigitChars 10 d.chars 0 = d.digits := Nat.ofDigitChars_ten_toDigits
  rw [digits, value, point, add_sub_cancel_left]

theorem spells_positional : Spells (positional d.chars d.point) d.value :=
  d.value_chars ▸ Floating.spells_positional d.isDigit_chars d.chars_ne_nil d.point

theorem spells_plainReal : Spells (Json.plainReal d.chars d.point) d.value :=
  d.value_chars ▸ Floating.spells_plainReal d.isDigit_chars d.chars_ne_nil d.point

theorem spells_scientificReal : Spells (Json.scientificReal d.chars d.point) d.value :=
  d.value_chars ▸ Floating.spells_scientificReal d.isDigit_chars d.chars_ne_nil d.point

end Decimal

/-! ## Rounding what was read -/

/-- The numbers that are rounded to `± m · 2 ^ e`: only zero itself to zero. -/
def Format.Rounds (f : Format) (m : Nat) (e : Int) (v : ℚ) : Prop :=
  if m = 0 then v = 0 else (f.interval m e).Contains v

/-- The format has a few bits but no more than 19 digits take, and no positive number of it is so
large or so small that the reader does not look. -/
structure Format.InReach (f : Format) : Prop where
  fine : 3 ≤ f.fracBits
  coarse : f.fracBits / 3 + 2 ≤ 19
  least : -1100 ≤ f.minExp
  greatest : f.minExp + (twoPow f.expBits + f.fracBits : Nat) ≤ 1100

theorem inReach_single : Format.single.InReach := ⟨by decide, by decide, by decide, by decide⟩

theorem inReach_double : Format.double.InReach := ⟨by decide, by decide, by decide, by decide⟩

variable {f : Format} {m : Nat} {e : Int} {v : ℚ}

namespace Written

variable (w : Written)

theorem value_lt : w.value < 10 ^ ((Nat.toDigits 10 w.digits).length + w.exponent) := by
  rw [value, zpow_add₀ (by norm_num)]
  have := lt_tenPow_length w.digits
  gcongr

theorem le_value (h : 0 < w.digits) :
    10 ^ ((Nat.toDigits 10 w.digits).length + w.exponent - 1) ≤ w.value := by
  have := tenPow_length_le h
  rw [value, add_sub_right_comm, zpow_add₀ (by norm_num)]
  gcongr

/-- The guards of the reader are beyond every format. -/
theorem two_pow_lt_ten_pow : (2 : ℚ) ^ (1101 : ℤ) < 10 ^ (400 : ℤ) :=
  calc (2 : ℚ) ^ (1101 : ℤ) = (2 ^ (3 : ℤ)) ^ (367 : ℤ) := by rw [← zpow_mul]; rfl
    _ ≤ 10 ^ (367 : ℤ) := zpow_le_zpow_left₀ (by decide) (by norm_num) (by norm_num)
    _ < 10 ^ (400 : ℤ) := zpow_lt_zpow_right₀ (by norm_num) (by decide)

/-- A decimal is read as the number whose interval it lies in. -/
theorem toNumber_eq (reach : f.InReach) (held : f.Holds m e) (hm : 0 < m) (s : Bool)
    (inside : (f.interval m e).Contains w.value) :
    w.toNumber f s = .ofMagnitude f s (f.pack m e) := by
  have one : (1 : ℚ) < 10 := by norm_num
  have low := inside.le_value hm
  have high := inside.value_lt held
  have positive : 0 < w.digits := by
    refine Nat.pos_of_ne_zero fun zero => ?_
    rw [value, zero, Nat.cast_zero, zero_mul] at low
    exact absurd low (not_le_of_gt (by positivity))
  obtain ⟨-, -, least, greatest⟩ := reach
  have e_ge := held.least
  have e_le := held.exponent_lt
  -- the guards are for numbers no format has
  have notSmall : ¬ (Nat.toDigits 10 w.digits).length + w.exponent < -400 := fun small => by
    have := calc (2 : ℚ) ^ (-1101 : ℤ) ≤ 2 ^ (e - 1) := zpow_le_zpow_right₀ one_le_two (by omega)
      _ ≤ w.value := low
      _ < 10 ^ ((Nat.toDigits 10 w.digits).length + w.exponent) := w.value_lt
      _ ≤ 10 ^ (-400 : ℤ) := zpow_le_zpow_right₀ one.le (by omega)
    rw [zpow_neg, zpow_neg, inv_lt_inv₀ (by positivity) (by positivity)] at this
    exact lt_asymm this two_pow_lt_ten_pow
  have notLarge : ¬ 400 < (Nat.toDigits 10 w.digits).length + w.exponent := fun large => by
    have := calc (10 : ℚ) ^ (400 : ℤ) ≤ 10 ^ ((Nat.toDigits 10 w.digits).length + w.exponent - 1) :=
          zpow_le_zpow_right₀ one.le (by omega)
      _ ≤ w.value := w.le_value positive
      _ < 2 ^ (f.fracBits + 1 + e) := high
      _ ≤ 2 ^ (1101 : ℤ) := zpow_le_zpow_right₀ one_le_two (by omega)
    exact lt_asymm this two_pow_lt_ten_pow
  have ratio : ((scaleTen w.digits w.exponent : Nat) : ℚ) / (scaleTen 1 (-w.exponent) : Nat) =
      w.value := ratio_ten _ _
  rw [toNumber, if_neg (not_or.2 ⟨positive.ne', notSmall⟩), if_neg notLarge, Number.ofRatio,
    Number.magnitudeOfRatio_eq held (scaleTen_pos positive _) (scaleTen_pos Nat.one_pos _)
      (by rwa [ratio])]

/-- A zero is written with the least exponent. -/
theorem toNumber_zero (held : f.Holds 0 e) (s : Bool) (h : w.value = 0) :
    w.toNumber f s = .ofMagnitude f s (f.pack 0 e) := by
  have zero : w.digits = 0 := by
    have ten : (10 : ℚ) ^ w.exponent ≠ 0 := by positivity
    exact_mod_cast (mul_eq_zero.1 h).resolve_right ten
  rw [toNumber, if_pos (.inl zero), held.pack_zero]

end Written

/-! ## Names and signs -/

theorem readMagnitude_digit (f : Format) (s : Bool) {c : Char} (h : c.isDigit = true)
    (r : List Char) :
    readMagnitude f s (c :: r) = (readDecimal (c :: r)).map (Written.toNumber f s) := by
  have name {d : Char} (letter : d.isDigit = false) (t : List Char) :
      (c :: r).map lowerChar ≠ d :: t := by
    rw [List.map_cons, lowerChar_of_isDigit h]
    intro same
    rw [(List.cons.inj same).1, letter] at h
    cases h
  have i : 'i'.isDigit = false := by decide
  have n : 'n'.isDigit = false := by decide
  rw [readMagnitude]
  exact (if_neg (not_or.2 ⟨name i _, name i _⟩)).trans (if_neg (name n _))

/-- The text of a number is read as the number, whatever the sign. -/
theorem readNumber_spells (reach : f.InReach) (held : f.Holds m e) (s : Bool) {t : List Char}
    (spells : Spells t v) (rounds : f.Rounds m e v) :
    readNumber f (if s then '-' :: t else t) = some (.ofMagnitude f s (f.pack m e)) := by
  obtain ⟨⟨c, r, rfl, digit⟩, w, read, rfl⟩ := spells
  have unsigned : readNumber f (if s then '-' :: c :: r else c :: r) =
      readMagnitude f s (c :: r) := by
    cases s with
    | true => rfl
    | false =>
      rw [if_neg Bool.false_ne_true, readNumber]
      · rintro _ ⟨⟩
        exact absurd digit (by decide)
      · rintro _ ⟨⟩
        exact absurd digit (by decide)
  rw [unsigned, readMagnitude_digit f s digit, read, Option.map_some]
  congr 1
  by_cases hm : m = 0
  · subst hm
    exact w.toNumber_zero held s rounds
  · rw [Format.Rounds, if_neg hm] at rounds
    exact w.toNumber_eq reach held (Nat.pos_of_ne_zero hm) s rounds

/-! ## Blanks -/

theorem not_blank_positional {ds : List Char} (hd : ∀ c ∈ ds, c.isDigit = true) (point : Int) :
    ∀ c ∈ positional ds point, isBlank c = false := by
  have digits {s : List Char} (hs : ∀ c ∈ s, c.isDigit = true) : ∀ c ∈ s, isBlank c = false :=
    fun c hc => not_blank_of_isDigit (hs c hc)
  have zeros {n : Nat} : ∀ c ∈ List.replicate n '0' ++ ds, c.isDigit = true :=
    digits_append isDigit_zeros hd
  have dot : isBlank '.' = false := by decide
  unfold positional
  split
  · exact List.forall_mem_cons.2 ⟨by decide, List.forall_mem_cons.2 ⟨dot, digits zeros⟩⟩
  simp only
  split
  · exact digits (digits_append hd isDigit_zeros)
  · rw [List.forall_mem_append]
    exact ⟨digits fun c hc => hd c (List.mem_of_mem_take hc),
      List.forall_mem_cons.2 ⟨dot, digits fun c hc => hd c (List.mem_of_mem_drop hc)⟩⟩

theorem not_blank_plainReal {ds : List Char} (hd : ∀ c ∈ ds, c.isDigit = true) (point : Int) :
    ∀ c ∈ Json.plainReal ds point, isBlank c = false := by
  have positional := not_blank_positional hd point
  unfold Json.plainReal
  unfold Floating.positional at positional
  split
  · rwa [if_pos ‹_›] at positional
  rw [if_neg ‹_›] at positional
  simp only at positional ⊢
  split
  · rw [if_pos ‹_›] at positional
    exact List.forall_mem_append.2 ⟨positional, not_blank_of_any rfl⟩
  · rwa [if_neg ‹_›] at positional

theorem not_blank_scientificReal {ds : List Char} (hd : ∀ c ∈ ds, c.isDigit = true) (point : Int) :
    ∀ c ∈ Json.scientificReal ds point, isBlank c = false := by
  have digits : ∀ c ∈ ds, isBlank c = false := fun c hc => not_blank_of_isDigit (hd c hc)
  have sign : isBlank (if point - 1 < 0 then '-' else '+') = false := by split <;> decide
  have power : ∀ c ∈ 'e' :: (if point - 1 < 0 then '-' else '+') :: natChars (point - 1).natAbs,
      isBlank c = false :=
    List.forall_mem_cons.2 ⟨by decide, List.forall_mem_cons.2
      ⟨sign, fun c hc => not_blank_of_isDigit (isDigit_natChars hc)⟩⟩
  unfold Json.scientificReal
  match ds, digits with
  | [], _ => exact power
  | [d], digits => exact List.forall_mem_cons.2 ⟨digits d List.mem_cons_self, power⟩
  | d :: c :: ds, digits =>
    obtain ⟨first, others⟩ := List.forall_mem_cons.1 digits
    exact List.forall_mem_cons.2 ⟨first, List.forall_mem_cons.2
      ⟨by decide, List.forall_mem_append.2 ⟨others, power⟩⟩⟩

/-! ## Numbers -/

theorem spells_zero : Spells ['0'] 0 :=
  spells_whole isDigit_zero (List.cons_ne_nil _ _) Nat.cast_zero

theorem spells_zeroReal : Spells ['0', '.', '0'] 0 :=
  spells_point isDigit_zero isDigit_zero (List.cons_ne_nil _ _)
    (by rw [show Nat.ofDigitChars 10 (['0'] ++ ['0']) 0 = 0 from rfl, Nat.cast_zero, zero_mul])

theorem shortest_rounds (reach : f.InReach) (held : f.Holds m e) (tie : Tie) (hm : m ≠ 0) :
    f.Rounds m e (shortest f tie m e).value := by
  rw [Format.Rounds, if_neg hm]
  exact (shortest_inside reach.fine tie held (Nat.pos_of_ne_zero hm)).1

namespace Number

/-- A number is read back from its text, unless it is a NaN. -/
theorem readNumber_chars (reach : f.InReach) {x : Number f} (number : x.isNaN = false) :
    readNumber f x.chars = some x := by
  rw [chars]
  cases h : x.decode with
  | nan => simp [isNaN, h] at number
  | infinite s =>
    rw [← decode_infinite h]
    cases s <;> rfl
  | finite s m e =>
    obtain ⟨-, held, -⟩ := decode_finite h
    rw [← eq_of_decode h]
    dsimp only
    by_cases hm : m = 0
    · subst hm
      exact readNumber_spells reach held s spells_zero rfl
    · rw [if_neg hm]
      exact readNumber_spells reach held s (Decimal.spells_positional _)
        (shortest_rounds reach held .up hm)

theorem trimChars_chars (x : Number f) : trimChars x.chars = x.chars := by
  refine trimChars_of_not_blank ?_
  rw [chars]
  cases x.decode with
  | nan =>
    exact not_blank_of_any rfl
  | infinite s =>
    cases s with
    | false => exact not_blank_of_any rfl
    | true => exact not_blank_of_any rfl
  | finite s m e =>
    have body : ∀ c ∈ if m = 0 then ['0'] else
        positional (shortest f .up m e).chars (shortest f .up m e).point, isBlank c = false := by
      split
      · exact not_blank_of_any rfl
      · exact not_blank_positional (Decimal.isDigit_chars _) _
    cases s with
    | false => exact body
    | true => exact List.forall_mem_cons.2 ⟨by decide, body⟩

end Number

/-- The text of a double in JSON spells its shortest decimal. -/
theorem spells_realChars {x : Double} {s : Bool} {m : Nat} {e : Int}
    (h : x.decode = .finite s m e) :
    ∃ t, Json.realChars x = (if s then '-' :: t else t) ∧
      Spells t (if m = 0 then 0 else (shortest Format.double .even m e).value) := by
  rw [Json.realChars, h]
  refine ⟨_, rfl, ?_⟩
  by_cases hm : m = 0
  · rw [if_pos hm, if_pos hm]
    exact spells_zeroReal
  · rw [if_neg hm, if_neg hm]
    dsimp only
    split
    · exact Decimal.spells_plainReal _
    · exact Decimal.spells_scientificReal _

/-- A double is read back from its text in JSON, if it is finite. -/
theorem readNumber_realChars {x : Double} (finite : x.isFinite = true) :
    readNumber Format.double (Json.realChars x) = some x := by
  cases h : x.decode with
  | nan => simp [Number.isFinite, h] at finite
  | infinite s => simp [Number.isFinite, h] at finite
  | finite s m e =>
    obtain ⟨-, held, -⟩ := Number.decode_finite h
    obtain ⟨t, text, spells⟩ := spells_realChars h
    rw [← Number.eq_of_decode h] at text ⊢
    rw [text]
    refine readNumber_spells inReach_double held s spells ?_
    by_cases hm : m = 0
    · rw [Format.Rounds, if_pos hm, if_pos hm]
    · rw [if_neg hm]
      exact shortest_rounds inReach_double held .even hm

theorem trimChars_realChars (x : Double) : trimChars (Json.realChars x) = Json.realChars x := by
  refine trimChars_of_not_blank ?_
  rw [Json.realChars]
  cases x.decode with
  | nan =>
    exact not_blank_of_any rfl
  | infinite s =>
    exact not_blank_of_any rfl
  | finite s m e =>
    let d := shortest Format.double .even m e
    have body : ∀ c ∈ if m = 0 then ['0', '.', '0'] else if -5 < d.point ∧ d.point ≤ 16 then
        Json.plainReal d.chars d.point else Json.scientificReal d.chars d.point,
        isBlank c = false := by
      split
      · exact not_blank_of_any rfl
      split
      · exact not_blank_plainReal d.isDigit_chars _
      · exact not_blank_scientificReal d.isDigit_chars _
    cases s with
    | false => exact body
    | true => exact List.forall_mem_cons.2 ⟨by decide, body⟩

end FieldGateway.Floating
