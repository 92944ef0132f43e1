import FieldGateway.Json.Reader
import FieldGateway.Json.Writer
import FieldGateway.Proofs.Text.Digits
import Mathlib.Tactic.Tauto

/-
  Strings and whole numbers in JSON text. What the writer puts in front of a text is read back and
  that text is left: any string (`readString_writeString`), and a number whole and of 64 bits, if
  no character of a number follows (`readNumber_intChars`).
-/

namespace FieldGateway.Json

open FieldGateway.Text

/-! ## Strings -/

/-- What a written character is read as: a control character without a short escape is a unit. -/
def piece (c : Char) : Piece :=
  if c = '\x08' ∨ c = '\x0c' ∨ c = '\n' ∨ c = '\r' ∨ c = '\t' then .char c
  else if c.toNat < 0x20 then .unit c.toNat
  else .char c

theorem hexValue_hexDigit : ∀ n < 16, hexValue (hexDigit n) = some n := by decide

theorem readUnit_hexDigit {n : Nat} (h : n < 0x20) :
    readUnit '0' '0' (hexDigit (n / 16)) (hexDigit (n % 16)) = some n := by
  have high := hexValue_hexDigit (n / 16) (by omega)
  have low := hexValue_hexDigit (n % 16) (by omega)
  have zero : hexValue '0' = some 0 := by decide
  simp only [readUnit, zero, high, low, Option.bind_eq_bind, Option.bind_some]
  congr 1
  omega

theorem readPieces_short {d e : Char} (h : shortEscape d = some e) (rest : List Char) :
    readPieces ('\\' :: d :: rest) = (readPieces rest).map fun p => (.char e :: p.1, p.2) := by
  -- `u` is no short escape, so this is not the escape of a unit
  have hu : d ≠ 'u' := by rintro rfl; simp [shortEscape] at h
  rw [readPieces]
  · rw [h]
    cases readPieces rest <;> rfl
  · intro _ _ _ _ _ heq _
    exact hu heq

theorem readPieces_plain {c : Char} (hq : c ≠ '"') (hb : c ≠ '\\') (hc : ¬ c.toNat < 0x20)
    (rest : List Char) :
    readPieces (c :: rest) = (readPieces rest).map fun p => (.char c :: p.1, p.2) := by
  have plain : ¬ (c.toNat < 0x20 ∨ c = '\\') := not_or.2 ⟨hc, hb⟩
  rw [readPieces]
  · rw [if_neg plain]
  · exact hq
  · intro _ _ _ _ _ h
    exact absurd h hb
  · intro _ _ h
    exact absurd h hb

theorem readPieces_control {c : Char} (hc : c.toNat < 0x20) (rest : List Char) :
    readPieces (['\\', 'u', '0', '0', hexDigit (c.toNat / 16), hexDigit (c.toNat % 16)] ++ rest) =
      (readPieces rest).map fun p => (.unit c.toNat :: p.1, p.2) := by
  simp only [List.cons_append, List.nil_append, readPieces, readUnit_hexDigit hc]
  cases readPieces rest <;> rfl

/-- One written character. -/
theorem readPieces_escape (c : Char) (rest : List Char) :
    readPieces (escape c ++ rest) = (readPieces rest).map fun p => (piece c :: p.1, p.2) := by
  unfold escape
  split; · subst c; exact readPieces_short (by decide) rest
  split; · subst c; exact readPieces_short (by decide) rest
  split; · subst c; exact readPieces_short (by decide) rest
  split; · subst c; exact readPieces_short (by decide) rest
  split; · subst c; exact readPieces_short (by decide) rest
  split; · subst c; exact readPieces_short (by decide) rest
  split; · subst c; exact readPieces_short (by decide) rest
  have short : ¬ (c = '\x08' ∨ c = '\x0c' ∨ c = '\n' ∨ c = '\r' ∨ c = '\t') := by tauto
  split
  · rename_i hc
    rw [readPieces_control hc, piece, if_neg short, if_pos hc]
  · rename_i hq hb _ _ _ _ _ hc
    rw [List.singleton_append, readPieces_plain hq hb hc, piece, if_neg short, if_neg hc]

theorem readPieces_writeChars (s rest : List Char) :
    readPieces (writeChars s rest) = some (s.map piece, rest) := by
  induction s with
  | nil => simp [writeChars, readPieces]
  | cons c s ih => rw [writeChars, readPieces_escape, ih]; rfl

/-- A unit below the pairs stands for its character whatever follows. -/
theorem assemble_unit {n : Nat} (h : n < 0x20) (ps : List Piece) :
    assemble (.unit n :: ps) = (assemble ps).map (Char.ofNat n :: ·) := by
  have high : isHighUnit n = false := by simp [isHighUnit]; omega
  have low : isLowUnit n = false := by simp [isLowUnit]; omega
  cases ps with
  | nil => simp [assemble, high, low]
  | cons p ps => cases p <;> simp [assemble, high, low]

theorem assemble_piece (c : Char) (ps : List Piece) :
    assemble (piece c :: ps) = (assemble ps).map (c :: ·) := by
  unfold piece
  split
  · rfl
  split
  · rename_i h
    rw [assemble_unit h, Char.ofNat_toNat]
  · rfl

theorem assemble_pieces (s : List Char) : assemble (s.map piece) = some s := by
  induction s with
  | nil => rfl
  | cons c s ih => rw [List.map_cons, assemble_piece, ih]; rfl

theorem readString_writeString (s : String) (rest : List Char) :
    readString (writeChars s.toList rest) = some (some s, rest) := by
  simp [readString, readPieces_writeChars, assemble_pieces]

/-! ## Whole numbers -/

/-- No character of a number begins the text. -/
def EndsNumber (rest : List Char) : Prop :=
  ∀ c ∈ rest.head?, c.isDigit = false ∧ c ≠ '.' ∧ c ≠ 'e' ∧ c ≠ 'E'

theorem endsNumber_nil : EndsNumber [] := fun _ h => nomatch h

theorem endsNumber_cons {c : Char} (h : c = ',' ∨ c = ']' ∨ c = '}') (rest : List Char) :
    EndsNumber (c :: rest) := by
  rintro _ ⟨⟩
  rcases h with rfl | rfl | rfl <;> decide

/-- The digits of a number that fits are all taken up. -/
theorem wholeDigits_eq {ds : List Char} {v : Nat}
    (h : Nat.ofDigitChars 10 ds v ≤ Word.greatest 64) :
    wholeDigits v ds = ⟨Nat.ofDigitChars 10 ds v, 0⟩ := by
  induction ds generalizing v with
  | nil => rfl
  | cons d ds ih =>
    rw [ofDigitChars_cons] at h ⊢
    rw [wholeDigits, if_pos (Nat.le_trans (le_ofDigitChars ds _) h), ih h]

theorem wholeDigits_natChars {n : Nat} (h : n ≤ Word.greatest 64) :
    wholeDigits 0 (natChars n) = ⟨n, 0⟩ := by
  have value : Nat.ofDigitChars 10 (natChars n) 0 = n := Nat.ofDigitChars_ten_toDigits
  rw [wholeDigits_eq (by rw [value]; exact h), value]

theorem EndsNumber.digits {rest : List Char} (h : EndsNumber rest) : EndsDigits rest :=
  fun c hc => (h c hc).1

/-- Digits with no zero in front of others. -/
theorem readWhole_digits {digits rest : List Char} (all : ∀ c ∈ digits, c.isDigit = true)
    (some : digits ≠ []) (lead : ∀ r, digits = '0' :: r → r = []) (h : EndsDigits rest) :
    readWhole (digits ++ rest) = Option.some (digits, rest) := by
  rw [readWhole, takeWhile_digits all h, dropWhile_digits all h]
  split
  · exact absurd rfl some
  · exact absurd (lead _ rfl) (List.cons_ne_nil _ _)
  · rfl

theorem readWhole_natChars (n : Nat) {rest : List Char} (h : EndsNumber rest) :
    readWhole (natChars n ++ rest) = some (natChars n, rest) :=
  readWhole_digits (fun _ hc => isDigit_natChars hc) (natChars_ne_nil n)
    (fun _ => natChars_of_zero) h.digits

theorem readFraction_end {rest : List Char} (h : EndsNumber rest) :
    readFraction rest = some (none, rest) := by
  rw [readFraction]
  rintro s rfl
  exact (h '.' rfl).2.1 rfl

theorem readPower_end {rest : List Char} (h : EndsNumber rest) :
    readPower rest = some (none, rest) := by
  cases rest with
  | nil => rfl
  | cons c s =>
    have hc : ¬ (c = 'e' ∨ c = 'E') := not_or.2 (h c rfl).2.2
    rw [readPower.eq_def]
    exact if_neg hc

theorem readUnsignedNumber_natChars (negative : Bool) (n : Nat) {rest : List Char}
    (h : EndsNumber rest) :
    readUnsignedNumber negative (natChars n ++ rest) =
      some (.num (literal negative (natChars n) none none), rest) := by
  simp [readUnsignedNumber, readWhole_natChars n h, readFraction_end h, readPower_end h]

theorem literal_natChars {n : Nat} (h : n ≤ Word.greatest 64) :
    literal false (natChars n) none none = some (.whole n) := by
  simp [literal, wholeDigits_natChars h]

theorem literal_negative {n : Nat} (hn : 0 < n) (h : leastWhole ≤ -(n : Int)) :
    literal true (natChars n) none none = some (.whole (-n)) := by
  have fits : n ≤ Word.greatest 64 := by
    have : -(Word.greatest 64 : Int) ≤ leastWhole := by decide
    omega
  have inside : ¬ (n = 0 ∨ -(n : Int) < leastWhole) := by omega
  simp [literal, wholeDigits_natChars fits, inside]

theorem readNumber_intChars {i : Int} (hi : leastWhole ≤ i ∧ i ≤ greatestWhole)
    {rest : List Char} (h : EndsNumber rest) :
    readNumber (intChars i ++ rest) = some (.num (some (.whole i)), rest) := by
  obtain ⟨least, greatest⟩ := hi
  cases i with
  | ofNat n =>
    obtain ⟨c, r, hcr, -, minus⟩ := natChars_cons n
    have fits : n ≤ Word.greatest 64 := Int.ofNat_le.1 greatest
    have unsigned : readNumber (natChars n ++ rest) =
        readUnsignedNumber false (natChars n ++ rest) := by
      rw [hcr, List.cons_append, readNumber]
      intro s heq
      exact absurd (List.cons.inj heq).1 minus
    rw [intChars, unsigned, readUnsignedNumber_natChars false n h, literal_natChars fits]
    rfl
  | negSucc n =>
    rw [intChars, List.cons_append, readNumber, readUnsignedNumber_natChars true (n + 1) h,
      literal_negative (Nat.succ_pos n) least]
    rfl

end FieldGateway.Json
