import FieldGateway.Text.Base64
import FieldGateway.Text.Blank

/-
  Bytes through base 64: what is written is read back (`decode_encode`), group by group, and no
  character of it is blank, so trimming takes nothing from it (`trimChars_encode`). Nothing else is
  read as the bytes (`eq_encode_of_decode`).
-/

namespace FieldGateway.Text

/-! ## Trimming -/

theorem dropWhile_isBlank {s : List Char} (h : ∀ c ∈ s, isBlank c = false) :
    s.dropWhile isBlank = s := by
  cases s with
  | nil => rfl
  | cons c s => exact List.dropWhile_cons_of_neg (by simp [h c List.mem_cons_self])

/-- A text without blanks is trimmed already. -/
theorem trimChars_of_not_blank {s : List Char} (h : ∀ c ∈ s, isBlank c = false) :
    trimChars s = s := by
  have reversed : ∀ c ∈ s.reverse, isBlank c = false := fun c hc => h c (List.mem_reverse.1 hc)
  rw [trimChars, dropWhile_isBlank h, dropWhile_isBlank reversed, List.reverse_reverse]

/-- The blanks around a text without blanks are trimmed. -/
theorem trimChars_append {before s after : List Char} (hb : ∀ c ∈ before, isBlank c = true)
    (ha : ∀ c ∈ after, isBlank c = true) (h : ∀ c ∈ s, isBlank c = false) :
    trimChars (before ++ s ++ after) = s := by
  have hr : ∀ c ∈ after.reverse, isBlank c = true := fun c hc => ha c (List.mem_reverse.1 hc)
  cases s with
  | nil =>
    have blank : ∀ c ∈ before ++ after, isBlank c = true := by
      intro c hc
      exact (List.mem_append.1 hc).elim (hb c) (ha c)
    have gone : (before ++ after ++ []).dropWhile isBlank = [].dropWhile isBlank :=
      List.dropWhile_append_of_pos blank
    rw [List.append_nil] at gone
    rw [trimChars, List.append_nil, gone]
    rfl
  | cons c r =>
    have first : (c :: r ++ after).dropWhile isBlank = c :: r ++ after :=
      List.dropWhile_cons_of_neg (by simp [h c List.mem_cons_self])
    rw [trimChars, List.append_assoc, List.dropWhile_append_of_pos hb, first, List.reverse_append,
      List.dropWhile_append_of_pos hr,
      dropWhile_isBlank (fun d hd => h d (List.mem_reverse.1 hd)), List.reverse_reverse]

namespace Base64

/-! ## Groups -/

/-- Three bytes and the four digits that the number they form is written in. -/
theorem group_bytes (a b c : UInt8) {n : Nat}
    (hn : n = (a.toNat * 256 + b.toNat) * 256 + c.toNat) :
    byte (n / 65536) = a ∧ byte (n / 256 % 256) = b ∧ byte (n % 256) = c := by
  have ha := a.toNat_lt
  have hb := b.toNat_lt
  have hc := c.toNat_lt
  refine ⟨?_, ?_, ?_⟩
  · rw [show n / 65536 = a.toNat by omega, byte_toNat]
  · rw [show n / 256 % 256 = b.toNat by omega, byte_toNat]
  · rw [show n % 256 = c.toNat by omega, byte_toNat]

theorem group_number {n : Nat} :
    ((n / 262144 * 64 + n / 4096 % 64) * 64 + n / 64 % 64) * 64 + n % 64 = n := by
  omega

/-- The last two bytes, with two bits to spare. -/
theorem decode_two (a b : UInt8) : decode (encode [a, b]) = some [a, b] := by
  have ha := a.toNat_lt
  have hb := b.toNat_lt
  let n := (a.toNat * 256 + b.toNat) * 4
  have number : (n / 4096 * 64 + n / 64 % 64) * 64 + n % 64 = n := by omega
  have first : byte (n / 1024) = a := by
    rw [show n / 1024 = a.toNat by omega, byte_toNat]
  have second : byte (n / 4 % 256) = b := by
    rw [show n / 4 % 256 = b.toNat by omega, byte_toNat]
  have spare : n % 4 = 0 := by omega
  show decode [digit (n / 4096), digit (n / 64 % 64), digit (n % 64), '='] = _
  rw [decode]
  · simp only [digitValue_digit _ (show n / 4096 < 64 by omega),
      digitValue_digit _ (show n / 64 % 64 < 64 by omega),
      digitValue_digit _ (show n % 64 < 64 by omega), Option.bind_eq_bind, Option.bind_some,
      number, spare, if_true, first, second]
  · exact fun h => digit_ne_filler _ (by omega) h

/-- The last byte, with four bits to spare. -/
theorem decode_one (a : UInt8) : decode (encode [a]) = some [a] := by
  have ha := a.toNat_lt
  let n := a.toNat * 16
  have number : n / 64 * 64 + n % 64 = n := by omega
  have only : byte (n / 16) = a := by rw [show n / 16 = a.toNat by omega, byte_toNat]
  have spare : n % 16 = 0 := by omega
  show decode [digit (n / 64), digit (n % 64), '=', '='] = _
  simp only [decode, digitValue_digit _ (show n / 64 < 64 by omega),
    digitValue_digit _ (show n % 64 < 64 by omega), Option.bind_eq_bind, Option.bind_some, number,
    spare, if_true, only]

/-- Three bytes in front of others. -/
theorem decode_three (a b c : UInt8) (rest : List UInt8) :
    decode (encode (a :: b :: c :: rest)) = (decode (encode rest)).map (a :: b :: c :: ·) := by
  have ha := a.toNat_lt
  have hb := b.toNat_lt
  have hc := c.toNat_lt
  let n := (a.toNat * 256 + b.toNat) * 256 + c.toNat
  have last : digit (n % 64) ≠ '=' := digit_ne_filler _ (by omega)
  obtain ⟨first, second, third⟩ := group_bytes a b c (n := n) rfl
  show decode (digit (n / 262144) :: digit (n / 4096 % 64) :: digit (n / 64 % 64) ::
    digit (n % 64) :: encode rest) = _
  rw [decode]
  · simp only [digitValue_digit _ (show n / 262144 < 64 by omega),
      digitValue_digit _ (show n / 4096 % 64 < 64 by omega),
      digitValue_digit _ (show n / 64 % 64 < 64 by omega),
      digitValue_digit _ (show n % 64 < 64 by omega), Option.bind_eq_bind, Option.bind_some,
      group_number, first, second, third]
    cases decode (encode rest) <;> rfl
  · exact fun _ h _ => last h
  · exact fun h _ => last h

/-! ## Texts -/

theorem decode_encode : ∀ bytes : List UInt8, decode (encode bytes) = some bytes
  | [] => rfl
  | [a] => decode_one a
  | [a, b] => decode_two a b
  | a :: b :: c :: rest => by rw [decode_three, decode_encode rest, Option.map_some]

theorem isBlank_digit : ∀ n < 64, isBlank (digit n) = false := by decide

theorem not_blank_of_mem_encode : ∀ (bytes : List UInt8), ∀ c ∈ encode bytes, isBlank c = false
  | [] => List.forall_mem_nil _
  | [a] => by
    have ha := a.toNat_lt
    simp only [encode, List.forall_mem_cons]
    exact ⟨isBlank_digit _ (by omega), isBlank_digit _ (by omega), by decide, by decide,
      List.forall_mem_nil _⟩
  | [a, b] => by
    have ha := a.toNat_lt
    have hb := b.toNat_lt
    simp only [encode, List.forall_mem_cons]
    exact ⟨isBlank_digit _ (by omega), isBlank_digit _ (by omega), isBlank_digit _ (by omega),
      by decide,
      List.forall_mem_nil _⟩
  | a :: b :: c :: rest => by
    have ha := a.toNat_lt
    have hb := b.toNat_lt
    have hc := c.toNat_lt
    simp only [encode, List.forall_mem_cons]
    exact ⟨isBlank_digit _ (by omega), isBlank_digit _ (by omega), isBlank_digit _ (by omega),
      isBlank_digit _ (by omega), not_blank_of_mem_encode rest⟩

theorem trimChars_encode (bytes : List UInt8) : trimChars (encode bytes) = encode bytes :=
  trimChars_of_not_blank (not_blank_of_mem_encode bytes)

/-- Bytes that do not come in groups of three are filled up. -/
theorem filler_mem_encode : ∀ bytes : List UInt8, bytes.length % 3 ≠ 0 → '=' ∈ encode bytes
  | [], spare => absurd rfl spare
  | [_], _ => by simp [encode]
  | [_, _], _ => by simp [encode]
  | a :: b :: c :: rest, spare => by
    have more : '=' ∈ encode rest := filler_mem_encode rest (by simp at spare; omega)
    simp [encode, more]

/-! ## No other text -/

/-- A digit is written as it was read. -/
theorem digit_of_digitValue {c : Char} {n : Nat} (h : digitValue c = some n) :
    n < 64 ∧ digit n = c := by
  have whole : Char.ofNat c.toNat = c := Char.ofNat_toNat c
  simp only [digitValue] at h
  unfold digit
  split at h
  · cases h
    refine ⟨by omega, ?_⟩
    rw [if_pos (by omega), show 65 + (c.toNat - 65) = c.toNat by omega, whole]
  split at h
  · cases h
    refine ⟨by omega, ?_⟩
    rw [if_neg (by omega), if_pos (by omega),
      show 97 + (c.toNat - 97 + 26 - 26) = c.toNat by omega, whole]
  split at h
  · cases h
    refine ⟨by omega, ?_⟩
    rw [if_neg (by omega), if_neg (by omega), if_pos (by omega),
      show 48 + (c.toNat - 48 + 52 - 52) = c.toNat by omega, whole]
  split at h
  · rename_i plus
    cases h
    exact ⟨by decide, plus.symm⟩
  split at h
  · rename_i slash
    cases h
    exact ⟨by decide, slash.symm⟩
  · cases h

theorem toNat_byte {n : Nat} (h : n < 256) : (byte n).toNat = n := UInt8.toNat_ofNat_of_lt' h

/-- Three bytes that are read from a group are written in it. -/
theorem encode_three {x y z u n : Nat} (hx : x < 64) (hy : y < 64) (hz : z < 64) (hu : u < 64)
    (hn : n = ((x * 64 + y) * 64 + z) * 64 + u) (rest : List UInt8) :
    encode (byte (n / 65536) :: byte (n / 256 % 256) :: byte (n % 256) :: rest) =
      digit x :: digit y :: digit z :: digit u :: encode rest := by
  have whole : (n / 65536 * 256 + n / 256 % 256) * 256 + n % 256 = n := by omega
  simp only [encode, toNat_byte (show n / 65536 < 256 by omega),
    toNat_byte (show n / 256 % 256 < 256 by omega), toNat_byte (show n % 256 < 256 by omega), whole]
  rw [show n / 262144 = x by omega, show n / 4096 % 64 = y by omega,
    show n / 64 % 64 = z by omega, show n % 64 = u by omega]

theorem encode_two {x y z n : Nat} (hx : x < 64) (hy : y < 64) (hz : z < 64)
    (hn : n = (x * 64 + y) * 64 + z) (spare : n % 4 = 0) :
    encode [byte (n / 1024), byte (n / 4 % 256)] = [digit x, digit y, digit z, '='] := by
  have whole : (n / 1024 * 256 + n / 4 % 256) * 4 = n := by omega
  simp only [encode, toNat_byte (show n / 1024 < 256 by omega),
    toNat_byte (show n / 4 % 256 < 256 by omega), whole]
  rw [show n / 4096 = x by omega, show n / 64 % 64 = y by omega, show n % 64 = z by omega]

theorem encode_one {x y n : Nat} (hx : x < 64) (hy : y < 64) (hn : n = x * 64 + y)
    (spare : n % 16 = 0) : encode [byte (n / 16)] = [digit x, digit y, '=', '='] := by
  have whole : n / 16 * 16 = n := by omega
  simp only [encode, toNat_byte (show n / 16 < 256 by omega), whole]
  rw [show n / 64 = x by omega, show n % 64 = y by omega]

/-- Whatever is read as bytes is the text that the bytes are written in. -/
theorem eq_encode_of_decode {s : List Char} {bytes : List UInt8} (h : decode s = some bytes) :
    s = encode bytes := by
  -- the cases are those of the reader: nothing, a filled-up group, a full group in front of others
  induction s using decode.induct generalizing bytes with
  | case1 =>
    cases h
    rfl
  | case2 a b =>
    simp only [decode, Option.bind_eq_bind, Option.bind_eq_some_iff] at h
    obtain ⟨x, hx, y, hy, h⟩ := h
    obtain ⟨lx, rfl⟩ := digit_of_digitValue hx
    obtain ⟨ly, rfl⟩ := digit_of_digitValue hy
    split at h
    · rename_i spare
      cases h
      exact (encode_one lx ly rfl spare).symm
    · cases h
  | case3 a b c _ =>
    rw [decode] at h
    · simp only [Option.bind_eq_bind, Option.bind_eq_some_iff] at h
      obtain ⟨x, hx, y, hy, z, hz, h⟩ := h
      obtain ⟨lx, rfl⟩ := digit_of_digitValue hx
      obtain ⟨ly, rfl⟩ := digit_of_digitValue hy
      obtain ⟨lz, rfl⟩ := digit_of_digitValue hz
      split at h
      · rename_i spare
        cases h
        exact (encode_two lx ly lz rfl spare).symm
      · cases h
    · assumption
  | case4 a b c d rest _ _ ih =>
    rw [decode] at h
    · simp only [Option.bind_eq_bind, Option.bind_eq_some_iff] at h
      obtain ⟨x, hx, y, hy, z, hz, u, hu, more, hmore, h⟩ := h
      obtain ⟨lx, rfl⟩ := digit_of_digitValue hx
      obtain ⟨ly, rfl⟩ := digit_of_digitValue hy
      obtain ⟨lz, rfl⟩ := digit_of_digitValue hz
      obtain ⟨lu, rfl⟩ := digit_of_digitValue hu
      cases h
      rw [ih hmore]
      exact (encode_three lx ly lz lu rfl more).symm
    · assumption
    · assumption
  | case5 s _ _ _ _ =>
    rw [decode] at h
    · cases h
    all_goals assumption

end Base64

end FieldGateway.Text
