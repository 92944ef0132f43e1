import FieldGateway.Proofs.Json.Floats
import FieldGateway.Proofs.Value.RoundTrip
import FieldGateway.Proofs.Value.Same

/-
  Floating-point values through wire text (`Value.float_arrays`). A scalar is read back from its
  text. The items of an array are written in the same text, but read as JSON: what each comes back
  as is its own affair (`decode_array_float`), and it comes back as it was if JSON carries it
  (`ScalarType.Carried`). The names of the infinities are no JSON. The doubles that the JSON reader
  computes are not always the nearest ones; they are near enough for a Float32 item, whatever it is
  (`ScalarType.throughJson_single`), and the nearest ones for decimals that are short
  (`ScalarType.carried_double`).
-/

namespace FieldGateway

open FieldGateway.Floating FieldGateway.Text

/-! ## Lists of results -/

section Traversal

variable {α β γ : Type}

/-- Two traversals that may fail are one. -/
theorem mapM_bind (f : α → Option β) (g : β → Option γ) (xs : List α) :
    (xs.mapM f).bind (·.mapM g) = xs.mapM fun x => (f x).bind g := by
  induction xs with
  | nil => rfl
  | cons x xs ih =>
    rw [List.mapM_cons, List.mapM_cons, ← ih]
    cases f x with
    | none => rfl
    | some y =>
      cases xs.mapM f with
      | none => cases hg : g y <;> simp [hg]
      | some ys => simp [List.mapM_cons]

theorem mapM_eq_some_self {f : α → Option α} {xs : List α} :
    xs.mapM f = some xs ↔ ∀ x ∈ xs, f x = some x := by
  induction xs with
  | nil => simp
  | cons x xs ih =>
    rw [List.mapM_cons, List.forall_mem_cons, ← ih]
    cases f x <;> cases xs.mapM f <;> simp

end Traversal

namespace ScalarType

/-! ## Scalars -/

variable {t : ScalarType}

/-- A floating-point number is read back from its text, unless it is a NaN. -/
theorem read_chars_float (float : t.isFloat = true) {x : t.Carrier} (number : t.isNaN x = false) :
    t.read (t.chars x) = some x := by
  cases t with
  | float32 =>
    show (readNumber Format.single (trimChars x.chars)).or _ = some x
    rw [x.trimChars_chars, Number.readNumber_chars inReach_single number, Option.some_or]
  | float64 =>
    show (readNumber Format.double (trimChars x.chars)).or _ = some x
    rw [x.trimChars_chars, Number.readNumber_chars inReach_double number, Option.some_or]
  | _ => cases float

/-! ## Items -/

/-- What the JSON reader makes of the text of a floating-point item: a number or one beyond the
doubles, and nothing if the text is a name. -/
def literal? : (t : ScalarType) → t.Carrier → Option (Option Json.Number)
  | float32, x => Number.literal? x
  | float64, x => Number.literal? x
  | _, _ => none

def itemNode (t : ScalarType) (x : t.Carrier) : Option Json.Node := (t.literal? x).map .num

theorem readNode_item (float : t.isFloat = true) (x : t.Carrier) (fuel : Nat) {rest : List Char}
    (h : Json.EndsNumber rest) :
    Json.readNode (fuel + 1) (t.writeItem x rest) = (t.itemNode x).map (·, rest) := by
  cases t with
  | float32 =>
    rw [itemNode, Option.map_map]
    exact x.readNode_chars inReach_single fuel h
  | float64 =>
    rw [itemNode, Option.map_map]
    exact x.readNode_chars inReach_double fuel h
  | _ => cases float

theorem writeItem_cons (float : t.isFloat = true) (x : t.Carrier) (rest : List Char) :
    ∃ c r, t.writeItem x rest = c :: r ∧ Json.isSpace c = false ∧ c ≠ ']' := by
  have first {f : Format} (y : Number f) : ∃ c r, y.chars ++ rest = c :: r ∧
      Json.isSpace c = false ∧ c ≠ ']' := by
    obtain ⟨c, r, h, space, close⟩ := y.chars_cons
    exact ⟨c, r ++ rest, by rw [h, List.cons_append], space, close⟩
  cases t with
  | float32 => exact first x
  | float64 => exact first x
  | _ => cases float

theorem endsNumber_writeItems (xs : List t.Carrier) (rest : List Char) :
    Json.EndsNumber (t.writeItems xs rest) := by
  cases xs with
  | nil => exact Json.endsNumber_cons (.inr (.inl rfl)) _
  | cons x xs => exact Json.endsNumber_cons (.inl rfl) _

theorem readItems_float (float : t.isFloat = true) {xs : List t.Carrier} {fuel : Nat}
    (h : xs.length < fuel) (rest : List Char) :
    Json.readItems (fuel + 1) (t.writeItems xs rest) = (xs.mapM t.itemNode).map (·, rest) := by
  induction xs generalizing fuel with
  | nil => rw [writeItems, Json.readItems, Json.skip_cons rfl]; rfl
  | cons x xs ih =>
    obtain ⟨fuel, rfl⟩ : ∃ k, fuel = k + 1 := ⟨fuel - 1, by omega⟩
    have others := ih (show xs.length < fuel by simpa using h)
    rw [writeItems, Json.readItems, Json.skip_cons rfl]
    simp only [readNode_item float x fuel (endsNumber_writeItems xs rest), List.mapM_cons]
    cases t.itemNode x with
    | none => rfl
    | some n =>
      simp only [Option.map_some, Option.bind_eq_bind, Option.bind_some, others]
      cases xs.mapM t.itemNode <;> rfl

theorem readNode_writeArray (float : t.isFloat = true) {xs : List t.Carrier} {fuel : Nat}
    (h : xs.length < fuel) :
    Json.readNode (fuel + 1) (t.writeArray xs) = (xs.mapM t.itemNode).map (.arr ·, []) := by
  cases xs with
  | nil =>
    rw [writeArray, Json.readNode, Json.skip_cons rfl]
    simp only [Json.skip_cons (show Json.isSpace ']' = false from rfl)]
    rfl
  | cons x xs =>
    obtain ⟨fuel, rfl⟩ : ∃ k, fuel = k + 1 := ⟨fuel - 1, by omega⟩
    obtain ⟨c, r, hc, space, close⟩ := writeItem_cons float x (t.writeItems xs [])
    have others := readItems_float float (show xs.length < fuel by simpa using h) []
    rw [writeArray, hc, Json.readNode_array space close, ← hc]
    simp only [readNode_item float x fuel (endsNumber_writeItems xs []), List.mapM_cons]
    cases t.itemNode x with
    | none => rfl
    | some n =>
      simp only [Option.map_some, Option.bind_eq_bind, Option.bind_some, others]
      cases xs.mapM t.itemNode <;> rfl

theorem length_writeArray (float : t.isFloat = true) (xs : List t.Carrier) :
    xs.length ≤ (t.writeArray xs).length := by
  have item (x : t.Carrier) (rest : List Char) : rest.length ≤ (t.writeItem x rest).length := by
    cases t with
    | float32 => exact List.length_append ▸ Nat.le_add_left _ _
    | float64 => exact List.length_append ▸ Nat.le_add_left _ _
    | _ => cases float
  have items (xs : List t.Carrier) : xs.length ≤ (t.writeItems xs []).length := by
    induction xs with
    | nil => exact Nat.zero_le _
    | cons x xs ih =>
      have := item x (t.writeItems xs [])
      rw [writeItems, List.length_cons, List.length_cons]
      omega
  cases xs with
  | nil => exact Nat.zero_le _
  | cons x xs =>
    have := item x (t.writeItems xs [])
    have := items xs
    rw [writeArray, List.length_cons, List.length_cons]
    omega

/-- The value of the text of an item, taken by itself. -/
theorem ofText?_item (float : t.isFloat = true) (x : t.Carrier) :
    Json.ofText? (String.ofList (t.chars x)) = (t.literal? x).join.map .num := by
  have text : t.chars x = t.writeItem x [] := by
    cases t with
    | float32 => exact (List.append_nil _).symm
    | float64 => exact (List.append_nil _).symm
    | _ => cases float
  rw [Json.ofText?, Json.Node.ofText?, String.toList_ofList, Json.Node.ofChars?, text,
    readNode_item float x _ Json.endsNumber_nil, itemNode]
  cases t.literal? x <;> rfl

/-- The value of the text of an array: the values of the texts of its items. -/
theorem ofText?_writeArray (float : t.isFloat = true) (xs : List t.Carrier) :
    Json.ofText? (String.ofList (t.writeArray xs)) =
      (xs.mapM fun x => Json.ofText? (String.ofList (t.chars x))).map .arr := by
  have node : Json.Node.ofText? (String.ofList (t.writeArray xs)) =
      (xs.mapM t.itemNode).map .arr := by
    have fuel := length_writeArray float xs
    rw [Json.Node.ofText?, String.toList_ofList, Json.Node.ofChars?,
      readNode_writeArray float (by omega)]
    cases xs.mapM t.itemNode <;> rfl
  have nodes (ns : List Json.Node) : Json.ofNodes? 126 ns = ns.mapM (Json.ofNode? 126) := by
    induction ns with
    | nil => rfl
    | cons n ns ih => rw [Json.ofNodes?, List.mapM_cons, ih]; rfl
  have values : (xs.mapM t.itemNode).bind (·.mapM (Json.ofNode? 126)) =
      xs.mapM fun x => Json.ofText? (String.ofList (t.chars x)) := by
    rw [mapM_bind]
    congr 1
    funext x
    rw [ofText?_item float, itemNode]
    cases t.literal? x <;> rfl
  rw [Json.ofText?, node, ← values]
  cases xs.mapM t.itemNode with
  | none => rfl
  | some ns =>
    show (Json.ofNodes? 126 ns).map Json.arr = _
    rw [nodes]
    rfl

/-- What an item of an array comes back as: the number that JSON makes of its text, written as
JSON writes it, is read as a scalar. -/
def throughJson (t : ScalarType) (x : t.Carrier) : Option t.Carrier :=
  (Json.ofText? (String.ofList (t.chars x))).bind fun item => t.read (itemText item)

theorem throughJson_eq (float : t.isFloat = true) (x : t.Carrier) :
    t.throughJson x = (t.literal? x).join.bind fun n => t.read (Json.numberChars n) := by
  rw [throughJson, ofText?_item float]
  cases (t.literal? x).join with
  | none => rfl
  | some n => exact congrArg t.read (List.append_nil _)

def isInfinite : (t : ScalarType) → t.Carrier → Bool
  | float32, x => Number.isInfinite x
  | float64, x => Number.isInfinite x
  | _, _ => false

/-- The name of an infinity is no JSON. -/
theorem literal?_infinite {x : t.Carrier} (h : t.isInfinite x = true) : t.literal? x = none := by
  have name {f : Format} {y : Number f} (h : y.isInfinite = true) : y.literal? = none := by
    rw [Number.isInfinite] at h
    rw [Number.literal?]
    cases hy : y.decode with
    | infinite s => rfl
    | finite => rw [hy] at h; cases h
    | nan => rfl
  cases t with
  | float32 => exact name h
  | float64 => exact name h
  | _ => cases h

/-- A number that JSON takes for a whole one is read back. -/
theorem read_whole (float : t.isFloat = true) {x : t.Carrier} (number : t.isNaN x = false) {i : Int}
    (h : t.literal? x = some (some (.whole i))) :
    t.read (Json.numberChars (.whole i)) = some x := by
  have text : Json.numberChars (.whole i) = t.chars x := by
    cases t with
    | float32 => exact Number.intChars_of_literal? inReach_single h
    | float64 => exact Number.intChars_of_literal? inReach_double h
    | _ => cases float
  rw [text, read_chars_float float number]

/-- A double that JSON writes is read as that double. -/
theorem read_real {x : Double} (y : Double) (finite : x.isFinite = true) :
    float64.read (Json.numberChars (.real y)) = some x ↔ y = x := by
  have read : float64.read (Json.numberChars (.real y)) = if y.isFinite then some y else none := by
    rw [Json.numberChars]
    cases hy : y.isFinite with
    | true =>
      show (readNumber Format.double (trimChars (Json.realChars y))).or _ = _
      rw [trimChars_realChars, readNumber_realChars hy, Option.some_or, if_pos rfl]
    | false =>
      have null : Json.realChars y = "null".toList := by
        rw [Number.isFinite] at hy
        rw [Json.realChars]
        cases hd : y.decode with
        | finite => rw [hd] at hy; cases hy
        | _ => rfl
      rw [null, if_neg Bool.false_ne_true]
      decide
  rw [read]
  constructor
  · intro h
    split at h
    · exact Option.some.inj h
    · cases h
  · rintro rfl
    rw [if_pos finite]

theorem throughJson_eq_some (float : t.isFloat = true) (x : t.Carrier) :
    t.throughJson x = some x ↔ ∃ n, Json.ofText? (String.ofList (t.chars x)) = some (.num n) ∧
      t.read (Json.numberChars n) = some x := by
  rw [throughJson_eq float, ofText?_item float, Option.bind_eq_some_iff]
  simp

/-- The numbers on either side of a decimal that may not be near enough come back, too, and so do
the zeros. -/
theorem throughJson_apart :
    (∀ s ∈ [false, true], ∀ m ∈ [11420669, 11420670], ∀ e ∈ [-106, -107],
      let x : Single := .ofMagnitude Format.single s (Format.single.pack m e)
      float32.throughJson x = some x) ∧
    (∀ s ∈ [false, true], let x : Single := .ofMagnitude Format.single s 0
      float32.throughJson x = some x) := by
  decide +kernel

/-- A finite number of the single format comes back from an array. -/
theorem throughJson_single {x : Single} (finite : x.isFinite = true) :
    float32.throughJson x = some x := by
  cases h : x.decode with
  | nan => simp [Number.isFinite, h] at finite
  | infinite s => simp [Number.isFinite, h] at finite
  | finite s m e =>
    obtain ⟨-, held, -⟩ := Number.decode_finite h
    obtain ⟨apart, zero⟩ := throughJson_apart
    have sign : s ∈ [false, true] := by cases s <;> decide
    by_cases hm : m = 0
    · subst hm
      rw [← Number.eq_of_decode h, held.pack_zero]
      exact zero s sign
    by_cases doubtful : Doubtful m e
    · rw [← Number.eq_of_decode h]
      exact apart s sign m (by simpa using doubtful.1) e (by simpa using doubtful.2)
    have number : float32.isNaN x = false := by
      show (x.decode == .nan) = false
      rw [h]
      rfl
    rw [throughJson_eq rfl]
    show ((Number.literal? x).join.bind fun n => float32.read (Json.numberChars n)) = some x
    obtain ⟨i, literal⟩ | ⟨y, literal, read⟩ := Number.single_comes_back h hm doubtful
    · rw [literal]
      exact read_whole rfl number literal
    · rw [literal]
      show (readNumber Format.single (trimChars (Json.realChars y))).or _ = some x
      rw [trimChars_realChars, read, Option.some_or]

/-- An item that comes back: any finite Float32 item, and a Float64 item if JSON makes of its text
the very number, or one that is whole. -/
def Carried : (t : ScalarType) → t.Carrier → Prop
  | float32, x => Number.isFinite x = true
  | float64, x => ∃ n, Json.ofText? x.text = some (.num n) ∧ (n = .real x ∨ ∃ i, n = .whole i)
  | _, _ => True

theorem carried_iff (float : t.isFloat = true) {x : t.Carrier} (number : t.isNaN x = false) :
    t.throughJson x = some x ↔ t.Carried x := by
  cases t with
  | float32 =>
    refine ⟨fun h => ?_, throughJson_single⟩
    rw [throughJson_eq float] at h
    cases literal : Number.literal? x with
    | none => rw [show float32.literal? x = none from literal] at h; cases h
    | some n => exact Number.isFinite_of_literal? literal
  | float64 =>
    rw [throughJson_eq_some float]
    refine exists_congr fun n => and_congr_right fun h => ?_
    rw [ofText?_item rfl, Option.map_eq_some_iff] at h
    obtain ⟨_, h, ⟨⟩⟩ := h
    have literal : Number.literal? x = some (some n) := Option.join_eq_some_iff.1 h
    cases n with
    | whole i => exact iff_of_true (read_whole rfl number literal) (.inr ⟨i, rfl⟩)
    | real y =>
      rw [read_real y (Number.isFinite_of_literal? literal)]
      simp
  | _ => cases float

/-- A double is carried if its shortest decimal has less than `2 ^ 53` for digits and no more than
22 places behind the point, or is a whole number of 63 bits. -/
theorem carried_double {x : Double} {s : Bool} {m : Nat} {e : Int} (h : x.decode = .finite s m e)
    (digits : (shortest Format.double .up m e).digits < 2 ^ 53)
    (places : -22 ≤ (shortest Format.double .up m e).exponent)
    (word : 0 ≤ (shortest Format.double .up m e).exponent →
      (shortest Format.double .up m e).digits *
        10 ^ (shortest Format.double .up m e).exponent.toNat ≤ 2 ^ 63) : Carried float64 x := by
  by_cases hm : m = 0
  · subst hm
    obtain ⟨-, held, -⟩ := Number.decode_finite h
    have zero : ∀ s ∈ [false, true], let y : Double := .ofMagnitude Format.double s 0
        float64.isNaN y = false ∧ float64.throughJson y = some y := by decide +kernel
    obtain ⟨number, same⟩ := zero s (by cases s <;> decide)
    rw [← Number.eq_of_decode h, held.pack_zero]
    exact (carried_iff rfl number).1 same
  obtain ⟨n, literal, carried⟩ := Number.double_comes_back h hm digits places word
  refine ⟨n, ?_, carried⟩
  rw [show x.text = String.ofList (float64.chars x) from rfl, ofText?_item rfl,
    show float64.literal? x = _ from literal]
  rfl

end ScalarType

namespace Value

variable {t : ScalarType}

/-- Each item of an array goes its own way, and all are lost with one. -/
theorem decode_array_float (float : t.isFloat = true) (xs : List t.Carrier) :
    decode (.array t) (array t xs).encode = (xs.mapM t.throughJson).map (array t) := by
  have items : (xs.mapM fun x => Json.ofText? (String.ofList (t.chars x))).bind
      (·.mapM fun item => t.read (ScalarType.itemText item)) = xs.mapM t.throughJson :=
    mapM_bind _ _ xs
  rw [encode, decode, ScalarType.ofText?_writeArray float, ← items]
  cases xs.mapM fun x => Json.ofText? (String.ofList (t.chars x)) <;> rfl

/-- Floating-point numbers are read back one by one, infinities and negative zero included. An array
of them is read back if and only if each of its items is carried by JSON, and with an infinity in
it it is not read at all. -/
theorem float_arrays (float : t.isFloat = true) {xs : List t.Carrier}
    (numbers : ∀ x ∈ xs, t.isNaN x = false) :
    (∀ x ∈ xs, decode (.scalar t) (scalar t x).encode = some (scalar t x)) ∧
      (decode (.array t) (array t xs).encode = some (array t xs) ↔ ∀ x ∈ xs, t.Carried x) ∧
      ((∃ x ∈ xs, t.isInfinite x = true) → decode (.array t) (array t xs).encode = none) := by
  refine ⟨fun x hx => ?_, ?_, ?_⟩
  · rw [encode, decode, String.toList_ofList, ScalarType.read_chars_float float (numbers x hx)]
    rfl
  · rw [decode_array_float float, Option.map_eq_some_iff]
    have items : xs.mapM t.throughJson = some xs ↔ ∀ x ∈ xs, t.Carried x := by
      rw [mapM_eq_some_self]
      exact forall₂_congr fun x hx => ScalarType.carried_iff float (numbers x hx)
    rw [← items]
    constructor
    · rintro ⟨ys, h, same⟩
      cases same
      exact h
    · exact fun h => ⟨xs, h, rfl⟩
  · rintro ⟨x, hx, infinite⟩
    have lost : t.throughJson x = none := by
      rw [ScalarType.throughJson_eq float, ScalarType.literal?_infinite infinite]
      rfl
    have all : (xs.map id).mapM t.throughJson = none := Json.mapM_map_eq_none hx lost
    rw [List.map_id] at all
    rw [decode_array_float float, all]
    rfl

/-- The double nearest to one eleventh, `0.09090909090909091`. -/
def eleventh : Double := ⟨0x3fb745d1745d1746⟩

/-- One eleventh is read back as a scalar, and as the next greater number from an array. -/
theorem float_arrays_eleventh :
    decode (.scalar .float64) (scalar .float64 eleventh).encode = some (scalar .float64 eleventh) ∧
      decode (.array .float64) (array .float64 [eleventh]).encode ≠
        some (array .float64 [eleventh]) := by
  have float : ScalarType.float64.isFloat = true := rfl
  have numbers : ∀ x ∈ [eleventh], ScalarType.float64.isNaN x = false :=
    List.forall_mem_singleton.2 (by decide)
  obtain ⟨scalars, arrays, -⟩ := float_arrays float numbers
  have changed : ScalarType.float64.throughJson eleventh =
      some (⟨0x3fb745d1745d1747⟩ : Double) := by decide +kernel
  refine ⟨scalars _ List.mem_cons_self, fun same => ?_⟩
  have carried := arrays.1 same eleventh List.mem_cons_self
  rw [← ScalarType.carried_iff float (numbers _ List.mem_cons_self), changed] at carried
  exact absurd carried (by decide)

end Value

end FieldGateway
