import FieldGateway.Proofs.Json.Record
import FieldGateway.Proofs.Text.Base64
import FieldGateway.Proofs.Text.Digits
import FieldGateway.Value.Codec

/-
  Values through wire text (`Value.decode_wire_text`): every value is read back from its text by
  its type, but for floating-point numbers, which are not looked at here, and for objects that
  JSON does not carry. Scalars are read back from plain text (`read_chars`) and as items of a JSON
  array (`read_itemText`); an array is written as the JSON array of its items
  (`writeArray_eq_chars`).
-/

namespace FieldGateway

open FieldGateway.Text

/-! ## Whole numbers -/

namespace IntType

theorem toInt_bounds (t : IntType) (x : BitVec t.width) :
    t.least ≤ t.toInt x ∧ t.toInt x ≤ t.greatest := by
  unfold least greatest toInt
  cases t.signed with
  | false =>
    have below : x.toNat < twoPow t.width := x.isLt
    have greatest : Word.greatest t.width = twoPow t.width - 1 := rfl
    simp only [Bool.false_eq_true, if_false]
    omega
  | true =>
    have power : ((twoPow (t.width - 1) : Nat) : Int) = 2 ^ (t.width - 1) := Int.natCast_pow 2 _
    have least := BitVec.le_toInt x
    have greatest := BitVec.toInt_lt (x := x)
    simp only [if_true, Word.leastSigned, Word.greatestSigned]
    omega

theorem ofInt?_toInt (t : IntType) (x : BitVec t.width) : t.ofInt? (t.toInt x) = some x := by
  have word : BitVec.ofInt t.width (t.toInt x) = x := by
    unfold toInt
    split
    · exact BitVec.ofInt_toInt
    · rw [BitVec.ofInt_natCast, BitVec.ofNat_toNat, BitVec.setWidth_eq]
  rw [ofInt?, if_pos (toInt_bounds t x), word]

/-- Whatever its type, the number fits a JSON number. -/
theorem isWord_toInt (t : IntType) (x : BitVec t.width) :
    (Json.Number.whole (t.toInt x)).isWord = true := by
  obtain ⟨least, greatest⟩ := toInt_bounds t x
  have bounds : Json.leastWhole ≤ t.least ∧ t.greatest ≤ Json.greatestWhole := by
    cases t <;> decide
  simp only [Json.Number.isWord, Bool.and_eq_true, decide_eq_true_eq]
  exact ⟨Int.le_trans bounds.1 least, Int.le_trans greatest bounds.2⟩

end IntType

theorem Text.trimChars_intChars (i : Int) : trimChars (intChars i) = intChars i := by
  have digits (n : Nat) : ∀ c ∈ natChars n, isBlank c = false :=
    fun _ hc => not_blank_of_isDigit (isDigit_natChars hc)
  refine trimChars_of_not_blank ?_
  cases i with
  | ofNat n => exact digits n
  | negSucc n => exact List.forall_mem_cons.2 ⟨by decide, digits (n + 1)⟩

/-! ## Scalars -/

namespace ScalarType

def isFloat : ScalarType → Bool
  | float32 | float64 => true
  | _ => false

/-- A scalar is read back from its text. -/
theorem read_chars {t : ScalarType} (h : t.isFloat = false) (x : t.Carrier) :
    t.read (t.chars x) = some x := by
  cases t with
  | bool => cases x <;> rfl
  | string => exact congrArg some String.ofList_toList
  | int t =>
    have word := IntType.ofInt?_toInt t x
    rw [chars, read, trimChars_intChars]
    cases hs : t.signed with
    | true =>
      rw [if_pos rfl, readSigned_intChars]
      exact word
    | false =>
      have unsigned : t.toInt x = Int.ofNat x.toNat := by
        rw [IntType.toInt, hs]
        rfl
      rw [unsigned] at word ⊢
      rw [if_neg Bool.false_ne_true, intChars, readUnsigned_natChars]
      exact word
  | float32 => cases h
  | float64 => cases h

/-- The item of a JSON array that a scalar is written as; floating-point numbers have none here. -/
def toItem : (t : ScalarType) → t.Carrier → Json
  | bool, b => .bool b
  | string, s => .str s
  | int t, x => .num (.whole (t.toInt x))
  | _, _ => .null

theorem writeItem_eq_write {t : ScalarType} (h : t.isFloat = false) (x : t.Carrier)
    (rest : List Char) : t.writeItem x rest = Json.write (t.toItem x) rest := by
  cases t with
  | bool => cases x <;> rfl
  | string => rfl
  | int t => rfl
  | float32 => cases h
  | float64 => cases h

theorem isWhole_toItem (t : ScalarType) (x : t.Carrier) : (t.toItem x).isWhole = true := by
  cases t with
  | int t => exact IntType.isWord_toInt t x
  | _ => rfl

theorem isSorted_toItem (t : ScalarType) (x : t.Carrier) : (t.toItem x).isSorted = true := by
  cases t <;> rfl

theorem nesting_toItem (t : ScalarType) (x : t.Carrier) : (t.toItem x).nesting = 0 := by
  cases t <;> rfl

/-- A scalar is read back from the text that its item stands for. -/
theorem read_itemText {t : ScalarType} (h : t.isFloat = false) (x : t.Carrier) :
    t.read (itemText (t.toItem x)) = some x := by
  have text : itemText (t.toItem x) = t.chars x := by
    cases t with
    | bool => cases x <;> rfl
    | string => rfl
    | int t => exact List.append_nil _
    | float32 => cases h
    | float64 => cases h
  rw [text, read_chars h]

/-! ## Arrays -/

variable {t : ScalarType}

theorem writeItems_eq (h : t.isFloat = false) (xs : List t.Carrier) (rest : List Char) :
    t.writeItems xs rest = Json.writeItems (xs.map t.toItem) rest := by
  induction xs with
  | nil => rfl
  | cons x xs ih => rw [writeItems, ih, writeItem_eq_write h, List.map_cons, Json.writeItems]

theorem writeArray_eq_chars (h : t.isFloat = false) (xs : List t.Carrier) :
    t.writeArray xs = (Json.arr (xs.map t.toItem)).chars := by
  cases xs with
  | nil => rfl
  | cons x xs =>
    rw [writeArray, writeItems_eq h, writeItem_eq_write h, Json.chars, List.map_cons, Json.write]

theorem areSorted_map_toItem (xs : List t.Carrier) : Json.areSorted (xs.map t.toItem) = true := by
  induction xs with
  | nil => rfl
  | cons x xs ih => rw [List.map_cons, Json.areSorted, isSorted_toItem, ih, Bool.and_self]

theorem areWhole_map_toItem (xs : List t.Carrier) : Json.areWhole (xs.map t.toItem) = true := by
  induction xs with
  | nil => rfl
  | cons x xs ih => rw [List.map_cons, Json.areWhole, isWhole_toItem, ih, Bool.and_self]

theorem nestingOfItems_map_toItem (xs : List t.Carrier) :
    Json.nestingOfItems (xs.map t.toItem) = 0 := by
  induction xs with
  | nil => rfl
  | cons x xs ih => rw [List.map_cons, Json.nestingOfItems, nesting_toItem, ih, Nat.max_self]

end ScalarType

/-! ## Values -/

namespace Value

/-- No floating-point number, and no object that JSON does not carry: the numbers of an object are
whole and of 64 bits, its members are in order, as they come out of a map, and no more arrays and
objects lie inside one another than a reader allows. -/
def IsExact : Value → Prop
  | scalar t _ => t.isFloat = false
  | binary _ => True
  | object members =>
    let j := Json.obj members
    j.isWhole = true ∧ j.isSorted = true ∧ j.nesting ≤ Json.nestingLimit
  | array t _ => t.isFloat = false

theorem decode_array {t : ScalarType} (h : t.isFloat = false) (xs : List t.Carrier) :
    decode (.array t) (encode (array t xs)) = some (array t xs) := by
  have written : encode (array t xs) = (Json.arr (xs.map t.toItem)).text := by
    rw [encode, ScalarType.writeArray_eq_chars h, Json.text]
  have shallow : (Json.arr (xs.map t.toItem)).nesting ≤ Json.nestingLimit := by
    rw [Json.nesting, ScalarType.nestingOfItems_map_toItem]
    decide
  have items : (xs.map t.toItem).mapM (fun item => t.read (ScalarType.itemText item)) =
      some (xs.map id) :=
    Json.mapM_map_eq_some fun x _ => ScalarType.read_itemText h x
  have whole : (Json.arr (xs.map t.toItem)).isWhole = true := by
    rw [Json.isWhole]
    exact ScalarType.areWhole_map_toItem xs
  have sorted : (Json.arr (xs.map t.toItem)).isSorted = true := by
    rw [Json.isSorted]
    exact ScalarType.areSorted_map_toItem xs
  rw [written, decode, Json.value_of_text whole sorted, if_pos shallow]
  simp only [items, List.map_id, Option.map_some]

/-- A value is read back from its text: a truth value, a text, a whole number of any type, a byte
string, an object, and an array of any of the first three. -/
theorem decode_wire_text {v : Value} (h : v.IsExact) : decode v.type v.encode = some v := by
  cases v with
  | scalar t x =>
    show (t.read (String.ofList (t.chars x)).toList).map (scalar t) = _
    rw [String.toList_ofList, ScalarType.read_chars h, Option.map_some]
  | binary bytes =>
    show (Base64.decode (trimChars (String.ofList (Base64.encode bytes)).toList)).map binary = _
    rw [String.toList_ofList, Base64.trimChars_encode, Base64.decode_encode, Option.map_some]
  | object members =>
    obtain ⟨whole, sorted, shallow⟩ := h
    rw [type, encode, decode, Json.value_of_text whole sorted, if_pos shallow]
  | array t xs => exact decode_array h xs

/-- The least and the greatest number, a name and a text with escapes, and nesting. -/
def limits : Value :=
  object
    [("", .arr [.num (.whole (-9223372036854775808)), .num (.whole 18446744073709551615)]),
     ("a\"\\", .obj [("key", .str "\n\t\u0001, ü"), ("list", .arr []), ("none", .null)])]

theorem decode_limits : limits.IsExact ∧ decode limits.type limits.encode = some limits :=
  have exact : limits.IsExact := ⟨by decide, by decide, by decide⟩
  ⟨exact, decode_wire_text exact⟩

end Value

end FieldGateway
