import FieldGateway.Value.Mask

/-
  Masks bit by bit (`Mask.acts_bitwise`). In a word of 64 bits a narrow number goes on with its
  sign or with zeros (`getLsbD_extend`), and in the end the word is cut to the width of a type. So
  a merge takes every bit from one of the two numbers, and a reading leaves the masked bits
  (`getLsbD_merged`, `getLsbD_shown`). All other laws compare words of one width by these two: the
  mask shows of a merge what it shows of the number that is written (`shown_merged`), a second
  merge changes nothing (`merged_merged`), and what is shown of a number can be written back over
  it, before and after a merge (`merged_shown`, `merged_back`).
-/

namespace FieldGateway

/-- A value is a whole number, or it has no bits for a mask. -/
theorem Value.int_or_bitless (v : Value) :
    (∃ t x, v = .int t x) ∨ v.type.isInteger = false ∧ v.toBits? = none := by
  cases v with
  | scalar t x =>
    cases t with
    | int t => exact .inl ⟨t, x, rfl⟩
    | bool | string | float32 | float64 => exact .inr ⟨rfl, rfl⟩
  | binary | object | array => exact .inr ⟨rfl, rfl⟩

namespace IntType

theorem width_le (t : IntType) : t.width ≤ 64 := by cases t <;> decide

/-- A whole number in a word of 64 bits. -/
def extend (t : IntType) (x : BitVec t.width) : BitVec 64 :=
  if t.signed then x.signExtend 64 else x.setWidth 64

/-- The bit of a whole number at a place. Beyond the width of its type a signed number goes on with
its sign, and any other with zeros. -/
def bit (t : IntType) (x : BitVec t.width) (i : Nat) : Bool :=
  if i < t.width then x.getLsbD i else t.signed && x.msb

theorem bit_of_lt (t : IntType) (x : BitVec t.width) {i : Nat} (h : i < t.width) :
    t.bit x i = x.getLsbD i := if_pos h

theorem getLsbD_extend (t : IntType) (x : BitVec t.width) {i : Nat} (h : i < 64) :
    (t.extend x).getLsbD i = t.bit x i := by
  unfold extend bit
  cases t.signed with
  | true =>
    rw [if_pos rfl, BitVec.getLsbD_signExtend, decide_eq_true h, Bool.true_and, Bool.true_and]
  | false =>
    rw [if_neg Bool.false_ne_true, BitVec.getLsbD_setWidth, decide_eq_true h, Bool.true_and,
      Bool.false_and]
    split
    · rfl
    · exact BitVec.getLsbD_of_ge x i (by omega)

end IntType

namespace Mask

/-! ## Words -/

/-- Whether a write may change the bit at a place. -/
def covers (m : Mask) (i : Nat) : Bool := m.bits.toBitVec.getLsbD i

/-- The word of a merge, cut to the width of the second number. -/
def merged (m : Mask) (u t : IntType) (y : BitVec u.width) (x : BitVec t.width) :
    BitVec t.width :=
  (m.merge (.ofBitVec (u.extend y)) (.ofBitVec (t.extend x))).toBitVec.setWidth t.width

/-- The word of a reading, cut to the width of the number. -/
def shown (m : Mask) (t : IntType) (x : BitVec t.width) : BitVec t.width :=
  (m.read (.ofBitVec (t.extend x))).toBitVec.setWidth t.width

variable (m : Mask) (u t : IntType) (y : BitVec u.width) (x z : BitVec t.width) {i : Nat}

theorem getLsbD_merged (h : i < t.width) :
    (m.merged u t y x).getLsbD i = if m.covers i then x.getLsbD i else u.bit y i := by
  have small : i < 64 := Nat.lt_of_lt_of_le h t.width_le
  -- The registers of 64 bits are taken as the words they are made of.
  show (BitVec.setWidth t.width ((u.extend y &&& ~~~ m.bits.toBitVec) |||
    (t.extend x &&& m.bits.toBitVec))).getLsbD i = _
  rw [BitVec.getLsbD_setWidth, decide_eq_true h, Bool.true_and, BitVec.getLsbD_or,
    BitVec.getLsbD_and, BitVec.getLsbD_and, BitVec.getLsbD_not, decide_eq_true small,
    u.getLsbD_extend y small, t.getLsbD_extend x small, t.bit_of_lt x h]
  unfold covers
  cases m.bits.toBitVec.getLsbD i <;> simp

theorem getLsbD_shown (h : i < t.width) :
    (m.shown t x).getLsbD i = (m.covers i && x.getLsbD i) := by
  have small : i < 64 := Nat.lt_of_lt_of_le h t.width_le
  show (BitVec.setWidth t.width (t.extend x &&& m.bits.toBitVec)).getLsbD i = _
  rw [BitVec.getLsbD_setWidth, decide_eq_true h, Bool.true_and, BitVec.getLsbD_and,
    t.getLsbD_extend x small, t.bit_of_lt x h, Bool.and_comm]
  rfl

theorem shown_merged : m.shown t (m.merged u t y x) = m.shown t x := by
  refine BitVec.eq_of_getLsbD_eq fun i h => ?_
  rw [getLsbD_shown m t _ h, getLsbD_shown m t x h, getLsbD_merged m u t y x h]
  cases m.covers i <;> rfl

theorem merged_merged : m.merged t t (m.merged u t y x) x = m.merged u t y x := by
  refine BitVec.eq_of_getLsbD_eq fun i h => ?_
  -- The merge is as wide as what is written again, so none of its bits are extended.
  rw [getLsbD_merged m t t _ x h, t.bit_of_lt _ h, getLsbD_merged m u t y x h]
  cases m.covers i <;> rfl

theorem merged_shown : m.merged t t x (m.shown t x) = x := by
  refine BitVec.eq_of_getLsbD_eq fun i h => ?_
  rw [getLsbD_merged m t t x _ h, t.bit_of_lt x h, getLsbD_shown m t x h]
  cases m.covers i <;> rfl

/-- A merge is undone by what the mask showed before. -/
theorem merged_back : m.merged t t (m.merged t t z x) (m.shown t z) = z := by
  refine BitVec.eq_of_getLsbD_eq fun i h => ?_
  rw [getLsbD_merged m t t _ _ h, t.bit_of_lt _ h, getLsbD_merged m t t z x h,
    t.bit_of_lt z h, getLsbD_shown m t z h]
  cases m.covers i <;> rfl

section Alike

variable {m} {n : Mask} {t} (alike : ∀ i < t.width, n.covers i = m.covers i)
include alike

theorem merged_of_alike : n.merged u t y x = m.merged u t y x := by
  refine BitVec.eq_of_getLsbD_eq fun i h => ?_
  rw [getLsbD_merged n u t y x h, getLsbD_merged m u t y x h, alike i h]

theorem shown_of_alike : n.shown t x = m.shown t x := by
  refine BitVec.eq_of_getLsbD_eq fun i h => ?_
  rw [getLsbD_shown n t x h, getLsbD_shown m t x h, alike i h]

end Alike

/-! ## Values -/

theorem mergeValues_int :
    m.mergeValues (.int u y) (.int t x) = some (.int t (m.merged u t y x)) := rfl

theorem readValue_int : m.readValue (.int t x) = some (.int t (m.shown t x)) := rfl

variable {m}

theorem mergeValues_eq_none_iff {current value : Value} :
    m.mergeValues current value = none ↔
      current.type.isInteger = false ∨ value.type.isInteger = false := by
  obtain ⟨u, y, rfl⟩ | ⟨other, bitless⟩ := current.int_or_bitless
  · obtain ⟨t, x, rfl⟩ | ⟨other, bitless⟩ := value.int_or_bitless
    · rw [mergeValues_int]
      exact iff_of_false (Option.some_ne_none _) (by rintro (h | h) <;> cases h)
    · simp [mergeValues, other, bitless]
  · simp [mergeValues, other, bitless]

theorem readValue_eq_none_iff {v : Value} :
    m.readValue v = none ↔ v.type.isInteger = false := by
  obtain ⟨t, x, rfl⟩ | ⟨other, bitless⟩ := v.int_or_bitless
  · rw [readValue_int]
    exact iff_of_false (Option.some_ne_none _) nofun
  · simp [readValue, other, bitless]

/-- A mask shows something of whole numbers, which is of their type. -/
theorem readValue_cases {v : Value} (h : v.type.isInteger = true) :
    ∃ t x y, v = .int t x ∧ m.readValue v = some (.int t y) := by
  obtain ⟨t, x, rfl⟩ | ⟨other, -⟩ := v.int_or_bitless
  · exact ⟨t, x, _, rfl, readValue_int m t x⟩
  · rw [other] at h
    cases h

/-- What a mask shows of a value, written back over it. -/
theorem mergeValues_readValue {v shown : Value} (h : m.readValue v = some shown) :
    m.mergeValues v shown = some v := by
  obtain ⟨t, x, rfl⟩ | ⟨other, -⟩ := v.int_or_bitless
  · rw [readValue_int] at h
    cases h
    rw [mergeValues_int, merged_shown]
  · rw [readValue_eq_none_iff.2 other] at h
    cases h

/-! ## What a mask does -/

/-- What a mask does to two whole numbers, of one type or of two. -/
structure ActsBitwise (m : Mask) (u t : IntType) (y : BitVec u.width) (x : BitVec t.width) :
    Prop where
  /-- A merge is of the type of the number that is written. It has the bits of that number where the
  mask covers them, and elsewhere those of the current number, extended if that one is narrower. -/
  merges : ∃ z : BitVec t.width, m.mergeValues (.int u y) (.int t x) = some (.int t z) ∧
    ∀ i < t.width, z.getLsbD i = if m.covers i then x.getLsbD i else u.bit y i
  /-- A reading is of the type of the number, and has its bits where the mask covers them. -/
  reads : ∃ z : BitVec t.width, m.readValue (.int t x) = some (.int t z) ∧
    ∀ i < t.width, z.getLsbD i = (m.covers i && x.getLsbD i)
  /-- Of a merge the mask shows what it shows of the number that is written. -/
  shows : (m.mergeValues (.int u y) (.int t x)).bind m.readValue = m.readValue (.int t x)
  /-- Writing the same again changes nothing. -/
  settles : (m.mergeValues (.int u y) (.int t x)).bind (m.mergeValues · (.int t x)) =
    m.mergeValues (.int u y) (.int t x)
  /-- Writing what the mask shows of the current number changes nothing. -/
  keeps : (m.readValue (.int u y)).bind (m.mergeValues (.int u y)) = some (.int u y)
  /-- After a merge with a number of its own type, what the mask shows of the current number gives
  that number back. -/
  restores : u = t →
    (m.mergeValues (.int u y) (.int t x)).bind
      (fun merged => (m.readValue (.int u y)).bind (m.mergeValues merged)) = some (.int u y)
  /-- Masks that agree on the places of the type do the same. -/
  narrow (n : Mask) : (∀ i < t.width, n.covers i = m.covers i) →
    n.mergeValues (.int u y) (.int t x) = m.mergeValues (.int u y) (.int t x) ∧
      n.readValue (.int t x) = m.readValue (.int t x)

/-- A mask acts on whole numbers bit by bit, within the width of their type, and on nothing
else. -/
theorem acts_bitwise (m : Mask) :
    (∀ (u t : IntType) (y : BitVec u.width) (x : BitVec t.width), m.ActsBitwise u t y x) ∧
    ∀ current value : Value,
      (m.mergeValues current value = none ↔
        current.type.isInteger = false ∨ value.type.isInteger = false) ∧
      (m.readValue value = none ↔ value.type.isInteger = false) := by
  refine ⟨fun u t y x => ?_, fun _ _ => ⟨mergeValues_eq_none_iff, readValue_eq_none_iff⟩⟩
  constructor
  · exact ⟨_, mergeValues_int m u t y x, fun i h => getLsbD_merged m u t y x h⟩
  · exact ⟨_, readValue_int m t x, fun i h => getLsbD_shown m t x h⟩
  · rw [mergeValues_int, Option.bind_some, readValue_int, shown_merged, readValue_int]
  · rw [mergeValues_int, Option.bind_some, mergeValues_int, merged_merged]
  · rw [readValue_int, Option.bind_some, mergeValues_int, merged_shown]
  · rintro rfl
    rw [mergeValues_int, Option.bind_some, readValue_int, Option.bind_some, mergeValues_int,
      merged_back]
  · intro n alike
    rw [mergeValues_int, mergeValues_int, merged_of_alike u y x alike, readValue_int,
      readValue_int, shown_of_alike x alike]
    exact ⟨rfl, rfl⟩

/-- The lower byte of a number, over a negative number of one byte: the upper byte is all sign. -/
theorem acts_bitwise_after_sign :
    ActsBitwise ⟨0xFF⟩ .int8 .uint16 0xFE#8 0x1234#16 ∧
      mergeValues ⟨0xFF⟩ (.int .int8 0xFE#8) (.int .uint16 0x1234#16) =
        some (.int .uint16 0xFF34#16) :=
  ⟨(acts_bitwise _).1 .int8 .uint16 0xFE#8 0x1234#16, rfl⟩

end Mask

end FieldGateway
