import FieldGateway.Proofs.Floating.Text
import FieldGateway.Proofs.Json.RoundTrip

/-
  Floating-point numbers as JSON. The text of a finite number is that of a JSON number, and what
  the reader makes of it is said by the shortest decimal (`Decimal.literal`): a whole number if
  the text has no point and the number fits 64 bits, and otherwise a double that is computed from
  the digits and the power of ten. The names of the infinities and of a NaN are no JSON
  (`readNode_chars`).
-/

namespace FieldGateway

open FieldGateway.Floating FieldGateway.Text

namespace Json

/-! ## Digits behind a point -/

section

variable {whole fraction rest : List Char} (hw : ∀ c ∈ whole, c.isDigit = true)
  (hf : ∀ c ∈ fraction, c.isDigit = true)

include hw hf

theorem readUnsignedNumber_point (negative : Bool) (some : whole ≠ [])
    (lead : ∀ r, whole = '0' :: r → r = []) (someBehind : fraction ≠ []) (h : EndsNumber rest) :
    readUnsignedNumber negative (whole ++ '.' :: (fraction ++ rest)) =
      Option.some (.num (literal negative whole (Option.some fraction) none), rest) := by
  have point : EndsDigits ('.' :: (fraction ++ rest)) := endsDigits_cons (by decide) _
  have behind : readFraction ('.' :: (fraction ++ rest)) =
      Option.some (Option.some fraction, rest) := by
    rw [readFraction, readDigits, takeWhile_digits hf h.digits, dropWhile_digits hf h.digits,
      if_neg someBehind, Option.map_some]
  rw [readUnsignedNumber, readWhole_digits hw some lead point]
  simp only [Option.bind_eq_bind, Option.bind_some, behind, readPower_end h]

end

/-- Digits behind a point that fit are all taken up. -/
theorem fractionDigits_eq {ds : List Char} {s : Significand}
    (h : Nat.ofDigitChars 10 ds s.value ≤ Word.greatest 64) :
    fractionDigits s ds = ⟨Nat.ofDigitChars 10 ds s.value, s.exponent - ds.length⟩ := by
  induction ds generalizing s with
  | nil => simp [fractionDigits]
  | cons d ds ih =>
    rw [ofDigitChars_cons] at h ⊢
    rw [fractionDigits, if_pos (Nat.le_trans (le_ofDigitChars ds _) h), ih h]
    congr 1
    push_cast [List.length_cons]
    omega

theorem literal_point (negative : Bool) {whole fraction : List Char} {n : Nat}
    (number : Nat.ofDigitChars 10 (whole ++ fraction) 0 = n) (fits : n ≤ Word.greatest 64) :
    literal negative whole (some fraction) none =
      Significand.real ⟨n, -fraction.length⟩ negative := by
  subst number
  rw [Nat.ofDigitChars_append] at fits ⊢
  have first := wholeDigits_eq (Nat.le_trans (le_ofDigitChars fraction _) fits)
  have read := fractionDigits_eq (s := ⟨Nat.ofDigitChars 10 whole 0, 0⟩) fits
  rw [literal, first]
  · simp only [Option.getD_some, read, zero_sub]
  · intro absent
    cases absent

/-! ## Whole numbers -/

/-- If no digit was dropped the number is the one that is written. -/
theorem value_wholeDigits {ds : List Char} {v : Nat} (h : (wholeDigits v ds).exponent = 0) :
    (wholeDigits v ds).value = Nat.ofDigitChars 10 ds v := by
  induction ds generalizing v with
  | nil => rfl
  | cons d ds ih =>
    rw [wholeDigits] at h ⊢
    split at h
    · rw [if_pos ‹_›, ofDigitChars_cons]
      exact ih h
    · exact absurd (Int.ofNat.inj h) (Nat.succ_ne_zero _)

theorem real_ne_whole {s : Significand} {negative : Bool} {i : Int} :
    s.real negative ≠ some (.whole i) := by
  rw [Significand.real]
  cases scaleReal (Floating.Number.ofInt Format.double s.value) s.exponent <;> nofun

/-- A literal that stays whole is written as the whole number is. -/
theorem intChars_of_literal {negative : Bool} {n : Nat} {i : Int}
    (h : literal negative (natChars n) none none = some (.whole i)) :
    intChars i = if negative then '-' :: natChars n else natChars n := by
  rw [literal] at h
  split at h
  · exact absurd h real_ne_whole
  rename_i all
  rw [value_wholeDigits (not_not.1 all),
    show Nat.ofDigitChars 10 (natChars n) 0 = n from Nat.ofDigitChars_ten_toDigits] at h
  cases negative with
  | false =>
    cases h
    rfl
  | true =>
    rw [if_pos rfl] at h
    split at h
    · exact absurd h real_ne_whole
    · rename_i positive
      cases h
      obtain ⟨k, rfl⟩ : ∃ k, n = k + 1 := ⟨n - 1, by omega⟩
      rfl

/-! ## Signs -/

/-- A sign in front if there is one. -/
theorem readNode_sign (negative : Bool) {c : Char} (h : c.isDigit = true) (fuel : Nat)
    (r : List Char) :
    readNode (fuel + 1) (if negative then '-' :: c :: r else c :: r) =
      readUnsignedNumber negative (c :: r) := by
  cases negative with
  | true => exact readNode_number (.inr rfl) fuel (c :: r)
  | false =>
    rw [if_neg Bool.false_ne_true, readNode_number (.inl h), readNumber]
    rintro _ ⟨⟩
    exact absurd h (by decide)

end Json

namespace Floating

/-! ## Decimals -/

namespace Decimal

/-- The JSON number of a decimal in positional form. -/
def literal (d : Decimal) (negative : Bool) : Option Json.Number :=
  if d.exponent < 0 then Json.Significand.real ⟨d.digits, d.exponent⟩ negative
  else Json.literal negative (natChars (d.digits * 10 ^ d.exponent.toNat)) none none

theorem exponent_eq (d : Decimal) : d.exponent = d.point - d.chars.length := by
  rw [point, add_sub_cancel_left]

theorem ofDigitChars_chars (d : Decimal) : Nat.ofDigitChars 10 d.chars 0 = d.digits :=
  Nat.ofDigitChars_ten_toDigits

/-- Digits around a point that are those of a decimal. -/
theorem readUnsignedNumber_parts {d : Decimal} (fits : d.digits ≤ Word.greatest 64)
    (negative : Bool) {whole fraction rest : List Char} (hw : ∀ c ∈ whole, c.isDigit = true)
    (hf : ∀ c ∈ fraction, c.isDigit = true) (some : whole ≠ [])
    (lead : ∀ r, whole = '0' :: r → r = []) (someBehind : fraction ≠ [])
    (number : Nat.ofDigitChars 10 (whole ++ fraction) 0 = d.digits)
    (exponent : d.exponent = -fraction.length) (h : Json.EndsNumber rest) :
    Json.readUnsignedNumber negative (whole ++ '.' :: fraction ++ rest) =
      Option.some (.num (d.literal negative), rest) := by
  have length := List.length_pos_of_ne_nil someBehind
  rw [List.append_assoc, List.cons_append,
    Json.readUnsignedNumber_point hw hf negative some lead someBehind h,
    Json.literal_point negative number fits, literal, if_pos (by omega), exponent]

/-- Without a point the positional form is that of a whole number. -/
theorem positional_whole {d : Decimal} (positive : 0 < d.digits) (h : 0 ≤ d.exponent) :
    positional d.chars d.point = natChars (d.digits * 10 ^ d.exponent.toNat) := by
  have exponent := d.exponent_eq
  have length := List.length_pos_of_ne_nil d.chars_ne_nil
  unfold positional
  rw [if_neg (by omega)]
  simp only
  rw [if_pos (by omega), natChars_mul positive,
    show d.exponent.toNat = d.point.toNat - d.chars.length by omega]
  rfl

theorem readUnsignedNumber_positional {d : Decimal} (positive : 0 < d.digits)
    (fits : d.digits ≤ Word.greatest 64) (negative : Bool) {rest : List Char}
    (h : Json.EndsNumber rest) :
    Json.readUnsignedNumber negative (positional d.chars d.point ++ rest) =
      some (.num (d.literal negative), rest) := by
  by_cases whole : 0 ≤ d.exponent
  · rw [positional_whole positive whole, Json.readUnsignedNumber_natChars negative _ h, literal,
      if_neg (by omega)]
  have digits := d.isDigit_chars
  have exponent := d.exponent_eq
  unfold positional
  split
  · refine readUnsignedNumber_parts fits negative isDigit_zero
      (digits_append isDigit_zeros digits) (List.cons_ne_nil _ _)
      (fun _ h => (List.cons.inj h).2.symm) (List.append_ne_nil_of_right_ne_nil _ d.chars_ne_nil)
      ((ofDigitChars_before _ _).trans d.ofDigitChars_chars) ?_ h
    rw [List.length_append, List.length_replicate]
    omega
  · simp only
    rw [if_neg (by omega)]
    have kept := List.take_append_drop d.point.toNat d.chars
    refine readUnsignedNumber_parts fits negative (fun c hc => digits c (List.mem_of_mem_take hc))
      (fun c hc => digits c (List.mem_of_mem_drop hc)) ?_ (fun r lead => ?_) ?_
      (kept.symm ▸ d.ofDigitChars_chars) ?_ h
    · rw [Ne, List.take_eq_nil_iff]
      exact not_or.2 ⟨by omega, d.chars_ne_nil⟩
    · rw [lead, List.cons_append] at kept
      exact absurd kept.symm (natChars_ne_zero_cons positive _)
    · rw [Ne, List.drop_eq_nil_iff]
      omega
    · rw [List.length_drop]
      omega

end Decimal

namespace Number

variable {f : Format}

/-- What the JSON reader makes of the text of a number: a number or one beyond the doubles, and
nothing if the text is a name. -/
def literal? (x : Number f) : Option (Option Json.Number) :=
  match x.decode with
  | .finite s m e =>
    some (if m = 0 then Json.literal s ['0'] none none else (shortest f .up m e).literal s)
  | _ => none

/-- What an unsigned finite number begins with. -/
theorem body_cons (f : Format) (m : Nat) (e : Int) : ∃ c r, (if m = 0 then ['0'] else
    positional (shortest f .up m e).chars (shortest f .up m e).point) = c :: r ∧
      c.isDigit = true := by
  split
  · exact spells_zero.digit
  · exact (Decimal.spells_positional _).digit

/-- A number begins with no blank, nor closes an array. -/
theorem chars_cons (x : Number f) :
    ∃ c r, x.chars = c :: r ∧ Json.isSpace c = false ∧ c ≠ ']' := by
  rw [chars]
  cases x.decode with
  | nan => exact ⟨_, _, rfl, rfl, by decide⟩
  | infinite s => cases s <;> exact ⟨_, _, rfl, rfl, by decide⟩
  | finite s m e =>
    cases s with
    | true => exact ⟨_, _, rfl, rfl, by decide⟩
    | false =>
      obtain ⟨c, r, h, digit⟩ := body_cons f m e
      have none : ∀ d ∈ [' ', '\t', '\n', '\r', ']'], d.isDigit = false := by simp [Char.isDigit]
      have other : ∀ d ∈ [' ', '\t', '\n', '\r', ']'], c ≠ d := fun d hd hc => by
        rw [hc, none d hd] at digit
        cases digit
      exact ⟨c, r, h, by simp [Json.isSpace, other], other _ (by decide)⟩

theorem readNode_chars (reach : f.InReach) (x : Number f) (fuel : Nat) {rest : List Char}
    (h : Json.EndsNumber rest) :
    Json.readNode (fuel + 1) (x.chars ++ rest) = x.literal?.map fun n => (.num n, rest) := by
  rw [chars, literal?]
  cases hx : x.decode with
  | nan => rfl
  | infinite s =>
    cases s with
    | true => exact Json.readNode_number (.inr rfl) fuel _
    | false => rfl
  | finite s m e =>
    obtain ⟨-, held, -⟩ := decode_finite hx
    let body := if m = 0 then ['0'] else
      positional (shortest f .up m e).chars (shortest f .up m e).point
    have signed : (if s then '-' :: body else body) ++ rest =
        if s then '-' :: (body ++ rest) else body ++ rest := by
      cases s <;> rfl
    have read : Json.readUnsignedNumber s (body ++ rest) = some (.num (if m = 0 then
        Json.literal s ['0'] none none else (shortest f .up m e).literal s), rest) := by
      by_cases hm : m = 0
      · simp only [body, if_pos hm]
        exact Json.readUnsignedNumber_natChars s 0 h
      · obtain ⟨-, positive, digits⟩ := shortest_inside reach.fine .up held (Nat.pos_of_ne_zero hm)
        have fits : 10 ^ (f.fracBits / 3 + 2) ≤ Word.greatest 64 :=
          (Nat.pow_le_pow_right (by decide) reach.coarse).trans (by decide)
        simp only [body, if_neg hm]
        exact Decimal.readUnsignedNumber_positional positive (digits.trans fits) s h
    obtain ⟨c, r, hc, digit⟩ := body_cons f m e
    show Json.readNode (fuel + 1) ((if s then '-' :: body else body) ++ rest) = _
    rw [signed]
    refine Eq.trans ?_ read
    rw [show body = c :: r from hc]
    exact Json.readNode_sign s digit fuel _

/-- Only the text of a finite number is that of a number of JSON. -/
theorem isFinite_of_literal? {x : Number f} {n : Option Json.Number} (h : x.literal? = some n) :
    x.isFinite = true := by
  rw [literal?] at h
  rw [isFinite]
  cases hx : x.decode with
  | finite => rfl
  | _ => rw [hx] at h; cases h

/-- A number that JSON takes for a whole one is written by it as it was. -/
theorem intChars_of_literal? {x : Number f} (reach : f.InReach) {i : Int}
    (h : x.literal? = some (some (.whole i))) : intChars i = x.chars := by
  rw [literal?] at h
  rw [chars]
  cases hx : x.decode with
  | nan => rw [hx] at h; cases h
  | infinite s => rw [hx] at h; cases h
  | finite s m e =>
    obtain ⟨-, held, -⟩ := decode_finite hx
    rw [hx] at h
    have h := Option.some.inj h
    dsimp only
    by_cases hm : m = 0
    · rw [if_pos hm] at h ⊢
      exact Json.intChars_of_literal (n := 0) h
    · obtain ⟨-, positive, -⟩ := shortest_inside reach.fine .up held (Nat.pos_of_ne_zero hm)
      rw [if_neg hm, Decimal.literal] at h
      rw [if_neg hm]
      split at h
      · exact absurd h Json.real_ne_whole
      · rw [Decimal.positional_whole positive (by omega)]
        exact Json.intChars_of_literal h

end Number

end Floating

end FieldGateway
