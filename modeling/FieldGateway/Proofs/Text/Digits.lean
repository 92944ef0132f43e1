import FieldGateway.Text.Integer
import FieldGateway.Word
import Mathlib.Algebra.Group.Nat.Defs

/-
  Runs of digits. A reader that takes digits takes a run of them off its text and leaves what
  stands behind (`takeWhile_digits`, `dropWhile_digits`); zeros behind a run multiply the number
  by ten (`ofDigitChars_zeros`, `natChars_mul`), and no zero stands in front of other digits of a
  number (`natChars_of_zero`).
-/

namespace FieldGateway.Text

/-! ## Digits and other characters -/

theorem not_blank_of_isDigit {c : Char} (h : c.isDigit = true) : isBlank c = false := by
  simp only [Char.isDigit, Bool.and_eq_true, decide_eq_true_eq] at h
  have low : 48 ≤ c.toNat := h.1
  have high : c.toNat ≤ 57 := h.2
  simp only [isBlank, Bool.or_eq_false_iff, Bool.and_eq_false_iff, decide_eq_false_iff_not,
    beq_eq_false_iff_ne, ne_eq]
  omega

theorem not_blank_of_any {s : List Char} (h : s.any isBlank = false) :
    ∀ c ∈ s, isBlank c = false :=
  fun c hc => Bool.eq_false_iff.2 (List.any_eq_false.1 h c hc)

theorem lowerChar_of_isDigit {c : Char} (h : c.isDigit = true) : lowerChar c = c := by
  simp only [Char.isDigit, Bool.and_eq_true, decide_eq_true_eq] at h
  exact dif_neg fun capital => absurd (UInt32.le_trans capital.1 h.2) (by decide)

/-! ## Runs of digits -/

theorem isDigit_zero : ∀ c ∈ ['0'], c.isDigit = true := List.forall_mem_singleton.2 rfl

theorem isDigit_zeros {n : Nat} : ∀ c ∈ List.replicate n '0', c.isDigit = true :=
  fun _ hc => (List.eq_of_mem_replicate hc).symm ▸ rfl

theorem digits_append {s t : List Char} (hs : ∀ c ∈ s, c.isDigit = true)
    (ht : ∀ c ∈ t, c.isDigit = true) : ∀ c ∈ s ++ t, c.isDigit = true :=
  fun _ hc => (List.mem_append.1 hc).elim (hs _) (ht _)

/-- No digit begins the text. -/
def EndsDigits (rest : List Char) : Prop := ∀ c ∈ rest.head?, c.isDigit = false

theorem endsDigits_nil : EndsDigits [] := nofun

theorem endsDigits_cons {c : Char} (h : c.isDigit = false) (s : List Char) :
    EndsDigits (c :: s) := by
  rintro _ ⟨⟩
  exact h

section

variable {digits rest : List Char} (all : ∀ c ∈ digits, c.isDigit = true) (h : EndsDigits rest)

include all h

theorem takeWhile_digits : (digits ++ rest).takeWhile Char.isDigit = digits := by
  rw [List.takeWhile_append_of_pos all]
  cases rest with
  | nil => exact List.append_nil _
  | cons c r => simp [h c rfl]

theorem dropWhile_digits : (digits ++ rest).dropWhile Char.isDigit = rest := by
  rw [List.dropWhile_append_of_pos all]
  cases rest with
  | nil => rfl
  | cons c r => simp [h c rfl]

end

/-! ## The number of a run -/

theorem ofDigitChars_cons (d : Char) (ds : List Char) (v : Nat) :
    Nat.ofDigitChars 10 (d :: ds) v = Nat.ofDigitChars 10 ds (v * 10 + (d.toNat - 48)) := by
  rw [Nat.ofDigitChars_cons, Nat.mul_comm]
  rfl

/-- More digits make no number smaller. -/
theorem le_ofDigitChars (ds : List Char) (v : Nat) : v ≤ Nat.ofDigitChars 10 ds v := by
  rw [Nat.ofDigitChars_eq_ofDigitChars_zero]
  have := Nat.le_mul_of_pos_left v (Nat.pow_pos (n := ds.length) (show 0 < 10 by decide))
  omega

theorem ofDigitChars_before (ds : List Char) (n : Nat) :
    Nat.ofDigitChars 10 (['0'] ++ (List.replicate n '0' ++ ds)) 0 = Nat.ofDigitChars 10 ds 0 := by
  rw [List.singleton_append, Nat.ofDigitChars_cons, Nat.ofDigitChars_append,
    Nat.ofDigitChars_replicate_zero]
  rfl

theorem ofDigitChars_zeros (ds : List Char) (n : Nat) :
    Nat.ofDigitChars 10 (ds ++ List.replicate n '0') 0 = Nat.ofDigitChars 10 ds 0 * 10 ^ n := by
  rw [Nat.ofDigitChars_append, Nat.ofDigitChars_replicate_zero, Nat.mul_comm]

theorem natChars_mul {n : Nat} (h : 0 < n) (k : Nat) :
    natChars (n * 10 ^ k) = natChars n ++ List.replicate k '0' := by
  induction k with
  | zero => simp
  | succ k ih =>
    have positive : 0 < n * 10 ^ k := Nat.mul_pos h (Nat.pow_pos (by decide))
    have digit := Nat.toDigits_append_toDigits (b := 10) (n := n * 10 ^ k) (d := 0) (by decide)
      positive (by decide)
    rw [Nat.add_zero, ← Nat.mul_assoc, Nat.mul_comm 10, Nat.mul_assoc, Nat.mul_comm 10,
      ← Nat.pow_succ] at digit
    rw [natChars, ← digit, ← natChars, ih, List.append_assoc, List.replicate_succ']
    rfl

theorem natChars_ne_zero_cons {n : Nat} (h : 0 < n) (r : List Char) : natChars n ≠ '0' :: r := by
  induction n using Nat.strongRecOn generalizing r with
  | ind n ih =>
    by_cases small : n < 10
    · rw [natChars, Nat.toDigits_of_lt_base small]
      have : ∀ m < 10, 0 < m → m.digitChar ≠ '0' := by decide
      intro heq
      exact this n small h (List.cons.inj heq).1
    · rw [natChars, Nat.toDigits_of_base_le (by decide) (by omega)]
      intro heq
      rcases List.append_eq_cons_iff.1 heq with ⟨hnil, -⟩ | ⟨t, ht, -⟩
      · exact Nat.toDigits_ne_nil hnil
      · exact ih (n / 10) (by omega) (by omega) t ht

/-- No zero stands in front of other digits. -/
theorem natChars_of_zero {n : Nat} {r : List Char} (h : natChars n = '0' :: r) : r = [] := by
  by_cases hn : n = 0
  · subst n
    exact (List.cons.inj h).2.symm
  · exact absurd h (natChars_ne_zero_cons (by omega) r)

end FieldGateway.Text
