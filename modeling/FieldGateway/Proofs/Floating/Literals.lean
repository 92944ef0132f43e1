import FieldGateway.Floating.Text
import FieldGateway.Proofs.Floating.Text
import FieldGateway.Proofs.Text.Digits

/-
  The grammar of the floating-point numbers that are read (`Literal`): a name, or digits with at
  most one point and a power of ten behind them if wanted, with a sign in front if wanted. The
  reader takes the texts of the grammar and no others (`isSome_readNumber`).
-/

namespace FieldGateway.Floating

open FieldGateway.Text

/-! ## Grammar -/

/-- Digits, one at least. -/
def Digits (s : List Char) : Prop := s ≠ [] ∧ ∀ c ∈ s, c.isDigit = true

/-- A text of some kind, with a sign in front if wanted. -/
inductive Signed (P : List Char → Prop) : List Char → Prop
  | unsigned {s : List Char} : P s → Signed P s
  | plus {s : List Char} : P s → Signed P ('+' :: s)
  | minus {s : List Char} : P s → Signed P ('-' :: s)

/-- A power of ten, or nothing. -/
inductive Power : List Char → Prop
  | one : Power []
  | power {mark : Char} {s : List Char} : mark = 'e' ∨ mark = 'E' → Signed Digits s →
    Power (mark :: s)

/-- Digits with at most one point, which may also stand in front of them or behind. -/
inductive Mantissa : List Char → Prop
  | whole {digits : List Char} : Digits digits → Mantissa digits
  | point {whole fraction : List Char} : Digits (whole ++ fraction) →
    Mantissa (whole ++ '.' :: fraction)

/-- The names, which may be written in any letter case. -/
def names : List (List Char) := ["inf".toList, "infinity".toList, "nan".toList]

inductive Magnitude : List Char → Prop
  | name {s : List Char} : s.map lowerChar ∈ names → Magnitude s
  | decimal {mantissa power : List Char} : Mantissa mantissa → Power power →
    Magnitude (mantissa ++ power)

/-- The text of a floating-point number. -/
def Literal : List Char → Prop := Signed Magnitude

/-! ## Signs -/

section Signs

variable {P : List Char → Prop} {s : List Char}

theorem signed_plus (unsigned : ¬ P ('+' :: s)) : Signed P ('+' :: s) ↔ P s := by
  constructor
  · intro h
    cases h with
    | unsigned h => exact absurd h unsigned
    | plus h => exact h
  · exact Signed.plus

theorem signed_minus (unsigned : ¬ P ('-' :: s)) : Signed P ('-' :: s) ↔ P s := by
  constructor
  · intro h
    cases h with
    | unsigned h => exact absurd h unsigned
    | minus h => exact h
  · exact Signed.minus

theorem signed_other (plus : ∀ r, s ≠ '+' :: r) (minus : ∀ r, s ≠ '-' :: r) :
    Signed P s ↔ P s := by
  constructor
  · intro h
    cases h with
    | unsigned h => exact h
    | plus _ => exact absurd rfl (plus _)
    | minus _ => exact absurd rfl (minus _)
  · exact Signed.unsigned

end Signs

/-! ## What begins a text -/

theorem Digits.head {c : Char} {s : List Char} (h : Digits (c :: s)) : c.isDigit = true :=
  h.2 c List.mem_cons_self

theorem Power.endsDigits {s : List Char} (h : Power s) : EndsDigits s := by
  cases h with
  | one => exact endsDigits_nil
  | power mark _ =>
    rcases mark with rfl | rfl
    · exact endsDigits_cons (by decide) _
    · exact endsDigits_cons (by decide) _

theorem Power.no_point {s : List Char} (h : Power s) : s.head? ≠ '.' := by
  cases h with
  | one => simp
  | power mark _ => rcases mark with rfl | rfl <;> simp

/-- A number without a sign begins with a letter of a name, a digit or a point. -/
theorem Magnitude.head {c : Char} {s : List Char} (h : Magnitude (c :: s)) :
    lowerChar c = 'i' ∨ lowerChar c = 'n' ∨ c.isDigit = true ∨ c = '.' := by
  generalize text : c :: s = t at h
  cases h with
  | name named =>
    subst text
    simp [names] at named
    tauto
  | @decimal mantissa power hm hp =>
    cases hm with
    | whole digits =>
      obtain ⟨d, ds, rfl⟩ := List.exists_cons_of_ne_nil digits.1
      obtain ⟨rfl, -⟩ := List.cons_eq_cons.1 text
      exact .inr (.inr (.inl digits.head))
    | @point whole fraction digits =>
      cases whole with
      | nil =>
        obtain ⟨rfl, -⟩ := List.cons_eq_cons.1 text
        exact .inr (.inr (.inr rfl))
      | cons d ds =>
        obtain ⟨rfl, -⟩ := List.cons_eq_cons.1 text
        exact .inr (.inr (.inl digits.head))

theorem not_magnitude_sign {c : Char} (h : c = '+' ∨ c = '-') (s : List Char) :
    ¬ Magnitude (c :: s) := by
  intro magnitude
  have := magnitude.head
  rcases h with rfl | rfl <;> exact absurd this (by decide)

/-! ## Reading -/

theorem isSome_readNat (s : List Char) : (readNat s).isSome ↔ Digits s := by
  unfold readNat Digits
  split <;> simp_all

theorem isSome_readSigned (s : List Char) : (readSigned s).isSome ↔ Signed Digits s := by
  unfold readSigned
  split
  · rename_i r
    rw [Option.isSome_map, isSome_readNat, signed_plus]
    exact fun h => absurd h.head (by decide)
  · rename_i r
    rw [Option.isSome_map, signed_minus]
    · rw [← isSome_readNat]
      cases readNat r <;> rfl
    · exact fun h => absurd h.head (by decide)
  · rename_i plus minus
    rw [Option.isSome_map, isSome_readNat, signed_other plus minus]

theorem isSome_readExponent (s : List Char) : (readExponent s).isSome ↔ Power s := by
  cases s with
  | nil => simp [readExponent, Power.one]
  | cons mark s =>
    rw [readExponent]
    split
    · rename_i marked
      rw [isSome_readSigned]
      constructor
      · exact Power.power marked
      · intro h
        cases h with
        | power _ h => exact h
    · rename_i unmarked
      simp only [Option.isSome_none, Bool.false_eq_true, false_iff]
      intro h
      cases h with
      | power marked _ => exact unmarked marked

/-- A text falls into the digits that it begins with and the rest. -/
theorem exists_digits_append (s : List Char) :
    ∃ digits rest, s = digits ++ rest ∧ (∀ c ∈ digits, c.isDigit = true) ∧ EndsDigits rest := by
  induction s with
  | nil => exact ⟨[], [], rfl, List.forall_mem_nil _, endsDigits_nil⟩
  | cons c s ih =>
    cases hc : c.isDigit with
    | true =>
      obtain ⟨digits, rest, rfl, all, ends⟩ := ih
      exact ⟨c :: digits, rest, rfl, List.forall_mem_cons.2 ⟨hc, all⟩, ends⟩
    | false => exact ⟨[], c :: s, rfl, List.forall_mem_nil _, endsDigits_cons hc s⟩

theorem readDecimal_empty {rest : List Char} (h : EndsDigits rest) (point : rest.head? ≠ '.') :
    readDecimal rest = none := by
  have none : ∀ c ∈ ([] : List Char), c.isDigit = true := List.forall_mem_nil _
  rw [← List.nil_append rest, readDecimal, takeWhile_digits none h, dropWhile_digits none h]
  cases rest with
  | nil => rfl
  | cons c r =>
    have other : c ≠ '.' := fun hc => point (congrArg Option.some hc)
    simp [other]

theorem readDecimal_only_point {rest : List Char} (h : EndsDigits rest) :
    readDecimal ('.' :: rest) = none := by
  have none : ∀ c ∈ ([] : List Char), c.isDigit = true := List.forall_mem_nil _
  have ends : EndsDigits ('.' :: rest) := endsDigits_cons (by decide) _
  rw [← List.nil_append ('.' :: rest), readDecimal, takeWhile_digits none ends,
    dropWhile_digits none ends]
  have run : rest.takeWhile Char.isDigit = [] := takeWhile_digits none h
  simp [run]

theorem isSome_readDecimal (s : List Char) :
    (readDecimal s).isSome ↔ ∃ mantissa power, Mantissa mantissa ∧ Power power ∧
      s = mantissa ++ power := by
  constructor
  · intro read
    obtain ⟨whole, rest, rfl, hw, ends⟩ := exists_digits_append s
    by_cases point : rest.head? = '.'
    · obtain ⟨r, rfl⟩ := List.head?_eq_some_iff.1 point
      obtain ⟨fraction, power, rfl, hf, ends'⟩ := exists_digits_append r
      by_cases some : whole ++ fraction = []
      · obtain ⟨rfl, rfl⟩ := List.append_eq_nil_iff.1 some
        rw [List.nil_append, List.nil_append, readDecimal_only_point ends'] at read
        cases read
      · rw [readDecimal_point hw hf some ends', Option.isSome_map, isSome_readExponent] at read
        refine ⟨_, power, .point ⟨some, digits_append hw hf⟩, read, ?_⟩
        rw [List.append_assoc, List.cons_append]
    · by_cases some : whole = []
      · rw [some, List.nil_append, readDecimal_empty ends point] at read
        cases read
      · rw [readDecimal_whole hw some ends point, Option.isSome_map, isSome_readExponent] at read
        exact ⟨whole, rest, .whole ⟨some, hw⟩, read, rfl⟩
  · rintro ⟨mantissa, power, hm, hp, rfl⟩
    cases hm with
    | whole digits =>
      rw [readDecimal_whole digits.2 digits.1 hp.endsDigits hp.no_point, Option.isSome_map,
        isSome_readExponent]
      exact hp
    | point digits =>
      have hw := fun c hc => digits.2 c (List.mem_append_left _ hc)
      have hf := fun c hc => digits.2 c (List.mem_append_right _ hc)
      rw [List.append_assoc, List.cons_append, readDecimal_point hw hf digits.1 hp.endsDigits,
        Option.isSome_map, isSome_readExponent]
      exact hp

theorem isSome_readMagnitude (f : Format) (negative : Bool) (s : List Char) :
    (readMagnitude f negative s).isSome ↔ Magnitude s := by
  have named : s.map lowerChar ∈ names ↔
      (s.map lowerChar = "inf".toList ∨ s.map lowerChar = "infinity".toList) ∨
        s.map lowerChar = "nan".toList := by
    simp only [names, List.mem_cons, List.not_mem_nil, or_false, or_assoc]
  unfold readMagnitude
  by_cases infinite : s.map lowerChar = "inf".toList ∨ s.map lowerChar = "infinity".toList
  · rw [if_pos infinite]
    exact iff_of_true rfl (.name (named.2 (.inl infinite)))
  by_cases nan : s.map lowerChar = "nan".toList
  · rw [if_neg infinite, if_pos nan]
    exact iff_of_true rfl (.name (named.2 (.inr nan)))
  · rw [if_neg infinite, if_neg nan, Option.isSome_map, isSome_readDecimal]
    constructor
    · rintro ⟨mantissa, power, hm, hp, rfl⟩
      exact .decimal hm hp
    · intro h
      cases h with
      | name name => exact absurd (named.1 name) (not_or.2 ⟨infinite, nan⟩)
      | decimal hm hp => exact ⟨_, _, hm, hp, rfl⟩

/-- What is read as a number of some format are the texts of the grammar, whatever the format. -/
theorem isSome_readNumber (f : Format) (s : List Char) :
    (readNumber f s).isSome ↔ Literal s := by
  unfold readNumber Literal
  split
  · rw [isSome_readMagnitude, signed_plus (not_magnitude_sign (.inl rfl) _)]
  · rw [isSome_readMagnitude, signed_minus (not_magnitude_sign (.inr rfl) _)]
  · rename_i plus minus
    rw [isSome_readMagnitude, signed_other plus minus]

/-! ## A character of no number -/

theorem Digits.no_filler {s : List Char} (h : Digits s) : '=' ∉ s :=
  fun mem => absurd (h.2 _ mem) (by decide)

theorem Signed.no_filler {P : List Char → Prop} (unsigned : ∀ s, P s → '=' ∉ s) {s : List Char}
    (h : Signed P s) : '=' ∉ s := by
  cases h with
  | unsigned h => exact unsigned _ h
  | plus h => simpa using unsigned _ h
  | minus h => simpa using unsigned _ h

theorem Power.no_filler {s : List Char} (h : Power s) : '=' ∉ s := by
  cases h with
  | one => simp
  | power mark h =>
    have := h.no_filler fun _ => Digits.no_filler
    rcases mark with rfl | rfl <;> simpa using this

theorem Mantissa.no_filler {s : List Char} (h : Mantissa s) : '=' ∉ s := by
  cases h with
  | whole h => exact h.no_filler
  | point h => simpa using h.no_filler

theorem Magnitude.no_filler {s : List Char} (h : Magnitude s) : '=' ∉ s := by
  cases h with
  | name named =>
    intro mem
    have mem : '=' ∈ s.map lowerChar := List.mem_map.2 ⟨'=', mem, by decide⟩
    have none : ∀ name ∈ names, '=' ∉ name := by decide
    exact none _ named mem
  | decimal hm hp =>
    rw [List.mem_append, not_or]
    exact ⟨hm.no_filler, hp.no_filler⟩

/-- The filler of base 64 stands in the text of no number. -/
theorem Literal.no_filler {s : List Char} (h : Literal s) : '=' ∉ s :=
  Signed.no_filler (fun _ => Magnitude.no_filler) h

end FieldGateway.Floating
