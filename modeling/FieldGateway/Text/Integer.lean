import FieldGateway.Text.Blank

/-
  Whole numbers in decimal: writing, and reading with an optional sign. Main statement: what is
  written reads back.
-/

namespace FieldGateway.Text

/-- The decimal digits of a number, without leading zeros. -/
def natChars (n : Nat) : List Char := Nat.toDigits 10 n

/-- A negative number has a minus sign in front. -/
def intChars : Int → List Char
  | .ofNat n => natChars n
  | .negSucc n => '-' :: natChars (n + 1)

def natText (n : Nat) : String := String.ofList (natChars n)

def intText (i : Int) : String := String.ofList (intChars i)

/-- One or more ASCII digits, and nothing else. -/
def readNat (s : List Char) : Option Nat :=
  if s ≠ [] ∧ s.all Char.isDigit then some (Nat.ofDigitChars 10 s 0) else none

/-- Digits with an optional plus sign; a minus sign is refused, before a zero too. -/
def readUnsigned : List Char → Option Nat
  | '+' :: s => readNat s
  | s => readNat s

/-- Digits with an optional sign. -/
def readSigned : List Char → Option Int
  | '+' :: s => (readNat s).map Int.ofNat
  | '-' :: s => (readNat s).map fun n => -(n : Int)
  | s => (readNat s).map Int.ofNat

/-- A number of at most `max`, blanks around it ignored. -/
def readUpTo (max : Nat) (s : String) : Option Nat :=
  (readUnsigned (trimChars s.toList)).filter (· ≤ max)

theorem isDigit_natChars {n : Nat} {c : Char} (h : c ∈ natChars n) : c.isDigit = true :=
  Nat.isDigit_of_mem_toDigits (by decide) (by decide) h

theorem natChars_ne_nil (n : Nat) : natChars n ≠ [] := Nat.toDigits_ne_nil

@[simp] theorem readNat_natChars (n : Nat) : readNat (natChars n) = some n := by
  have h : (natChars n).all Char.isDigit = true :=
    List.all_eq_true.2 fun _ hc => isDigit_natChars hc
  simp only [readNat, ne_eq, natChars_ne_nil, not_false_eq_true, h, and_self, if_true]
  exact congrArg some (Nat.ofDigitChars_toDigits (by decide) (by decide))

/-- The first character is a digit, so neither sign. -/
theorem natChars_cons (n : Nat) : ∃ c r, natChars n = c :: r ∧ c ≠ '+' ∧ c ≠ '-' := by
  cases h : natChars n with
  | nil => exact absurd h (natChars_ne_nil n)
  | cons c r =>
    have hc : c.isDigit = true := isDigit_natChars (n := n) (by simp [h])
    refine ⟨c, r, rfl, ?_, ?_⟩ <;> rintro rfl <;> exact absurd hc (by decide)

@[simp] theorem readUnsigned_natChars (n : Nat) : readUnsigned (natChars n) = some n := by
  obtain ⟨c, r, h, h1, h2⟩ := natChars_cons n
  have e : readUnsigned (natChars n) = readNat (natChars n) := by
    rw [h]; unfold readUnsigned; split
    · rename_i heq; simp only [List.cons.injEq] at heq; exact absurd heq.1 h1
    · rfl
  rw [e, readNat_natChars]

@[simp] theorem readSigned_intChars (i : Int) : readSigned (intChars i) = some i := by
  cases i with
  | ofNat n =>
    obtain ⟨c, r, h, h1, h2⟩ := natChars_cons n
    have e : readSigned (natChars n) = (readNat (natChars n)).map Int.ofNat := by
      rw [h]; unfold readSigned; split
      · rename_i heq; simp only [List.cons.injEq] at heq; exact absurd heq.1 h1
      · rename_i heq; simp only [List.cons.injEq] at heq; exact absurd heq.1 h2
      · rfl
    show readSigned (natChars n) = _
    rw [e, readNat_natChars]; rfl
  | negSucc n =>
    simp only [intChars, readSigned, readNat_natChars]
    congr 1

end FieldGateway.Text
