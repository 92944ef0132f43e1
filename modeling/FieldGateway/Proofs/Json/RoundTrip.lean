import FieldGateway.Proofs.Json.Tokens

/-
  JSON values through text. A value whose numbers are whole and of 64 bits is read back from its
  text as it was written (`readNode_write`, for any text behind it that does not continue a
  number); a value whose members are in order and which is not nested too deep is the value of
  what was read (`ofNode?_toNode`), and one that is nested deeper is refused (`ofNode?_of_deep`).
-/

namespace FieldGateway.Json

open FieldGateway.Text

/-! ## What is read back -/

def Number.isWord : Number → Bool
  | .whole i => leastWhole ≤ i && i ≤ greatestWhole
  | .real _ => false

mutual

/-- Every number in the value is whole and of 64 bits. -/
def isWhole : Json → Bool
  | .num n => n.isWord
  | .arr xs => areWhole xs
  | .obj ms => membersWhole ms
  | _ => true

def areWhole : List Json → Bool
  | [] => true
  | x :: xs => isWhole x && areWhole xs

def membersWhole : List (String × Json) → Bool
  | [] => true
  | (_, v) :: ms => isWhole v && membersWhole ms

end

mutual

/-- In every object the members are in increasing order of their keys, each key once. -/
def isSorted : Json → Bool
  | .arr xs => areSorted xs
  | .obj ms => decide (ms.Pairwise fun a b => a.1 < b.1) && membersSorted ms
  | _ => true

def areSorted : List Json → Bool
  | [] => true
  | x :: xs => isSorted x && areSorted xs

def membersSorted : List (String × Json) → Bool
  | [] => true
  | (_, v) :: ms => isSorted v && membersSorted ms

end

mutual

/-- How many arrays and objects lie inside one another at most. -/
def nesting : Json → Nat
  | .arr xs => nestingOfItems xs + 1
  | .obj ms => nestingOfMembers ms + 1
  | _ => 0

def nestingOfItems : List Json → Nat
  | [] => 0
  | x :: xs => max (nesting x) (nestingOfItems xs)

def nestingOfMembers : List (String × Json) → Nat
  | [] => 0
  | (_, v) :: ms => max (nesting v) (nestingOfMembers ms)

end

/-! ## Text -/

theorem length_writeChars (s rest : List Char) : rest.length < (writeChars s rest).length := by
  induction s with
  | nil => simp [writeChars]
  | cons c s ih =>
    rw [writeChars, List.length_append]
    omega

theorem length_writeString (s : String) (rest : List Char) :
    rest.length + 2 ≤ (writeString s rest).length := by
  have := length_writeChars s.toList rest
  rw [writeString, List.length_cons]
  omega

mutual

/-- Nothing that follows a value is lost. -/
theorem length_write : ∀ (j : Json) (rest : List Char), rest.length ≤ (write j rest).length
  | .null, rest => by rw [write]; simp only [List.length_cons]; omega
  | .bool true, rest => by rw [write]; simp only [List.length_cons]; omega
  | .bool false, rest => by rw [write]; simp only [List.length_cons]; omega
  | .num n, rest => by rw [write, List.length_append]; omega
  | .str s, rest => by
    have := length_writeString s rest
    rw [write]
    omega
  | .arr [], rest => by rw [write]; simp only [List.length_cons]; omega
  | .arr (x :: xs), rest => by
    have hx := length_write x (writeItems xs rest)
    have hxs := length_writeItems xs rest
    rw [write, List.length_cons]
    omega
  | .obj [], rest => by rw [write]; simp only [List.length_cons]; omega
  | .obj ((k, v) :: ms), rest => by
    have hk := length_writeString k (':' :: write v (writeMembers ms rest))
    have hv := length_write v (writeMembers ms rest)
    have hms := length_writeMembers ms rest
    simp only [List.length_cons] at hk
    rw [write, List.length_cons]
    omega

theorem length_writeItems :
    ∀ (xs : List Json) (rest : List Char), rest.length ≤ (writeItems xs rest).length
  | [], rest => by rw [writeItems, List.length_cons]; omega
  | x :: xs, rest => by
    have hx := length_write x (writeItems xs rest)
    have hxs := length_writeItems xs rest
    rw [writeItems, List.length_cons]
    omega

theorem length_writeMembers :
    ∀ (ms : List (String × Json)) (rest : List Char), rest.length ≤ (writeMembers ms rest).length
  | [], rest => by rw [writeMembers, List.length_cons]; omega
  | (k, v) :: ms, rest => by
    have hk := length_writeString k (':' :: write v (writeMembers ms rest))
    have hv := length_write v (writeMembers ms rest)
    have hms := length_writeMembers ms rest
    simp only [List.length_cons] at hk
    rw [writeMembers, List.length_cons]
    omega

end

theorem endsNumber_writeItems (xs : List Json) (rest : List Char) :
    EndsNumber (writeItems xs rest) := by
  cases xs with
  | nil => exact endsNumber_cons (.inr (.inl rfl)) _
  | cons x xs => exact endsNumber_cons (.inl rfl) _

theorem endsNumber_writeMembers (ms : List (String × Json)) (rest : List Char) :
    EndsNumber (writeMembers ms rest) := by
  cases ms with
  | nil => exact endsNumber_cons (.inr (.inr rfl)) _
  | cons m ms => exact endsNumber_cons (.inl rfl) _

theorem skip_cons {c : Char} (h : isSpace c = false) (s : List Char) : skip (c :: s) = c :: s := by
  rw [skip, List.dropWhile_cons_of_neg (by simp [h])]

/-- A digit or a minus sign begins a number and nothing else. -/
theorem readNode_number {c : Char} (h : c.isDigit = true ∨ c = '-') (fuel : Nat) (s : List Char) :
    readNode (fuel + 1) (c :: s) = readNumber (c :: s) := by
  have none : ∀ d ∈ [' ', '\t', '\n', '\r', 'n', 't', 'f', '"', '[', '{'],
      ¬ (d.isDigit = true ∨ d = '-') := by simp [Char.isDigit]
  have other : ∀ d ∈ [' ', '\t', '\n', '\r', 'n', 't', 'f', '"', '[', '{'], c ≠ d :=
    fun d hd hc => none d hd (hc ▸ h)
  have hs : skip (c :: s) = c :: s := skip_cons (by simp [isSpace, other]) s
  rw [readNode, hs]
  split <;> simp_all

theorem intChars_cons (i : Int) : ∃ c r, intChars i = c :: r ∧ (c.isDigit = true ∨ c = '-') := by
  cases i with
  | ofNat n =>
    obtain ⟨c, r, h, -, -⟩ := natChars_cons n
    exact ⟨c, r, h, .inl (isDigit_natChars (n := n) (by simp [h]))⟩
  | negSucc n => exact ⟨'-', natChars (n + 1), rfl, .inr rfl⟩

/-- A value begins with no blank, nor closes an array. -/
theorem write_cons {j : Json} (hj : j.isWhole = true) (rest : List Char) :
    ∃ c r, write j rest = c :: r ∧ isSpace c = false ∧ c ≠ ']' := by
  cases j with
  | null => exact ⟨_, _, by rw [write], rfl, by decide⟩
  | bool b => cases b <;> exact ⟨_, _, by rw [write], rfl, by decide⟩
  | num n =>
    cases n with
    | real x => cases hj
    | whole i =>
      obtain ⟨c, r, h, hc⟩ := intChars_cons i
      have none : ∀ d ∈ [' ', '\t', '\n', '\r', ']'], ¬ (d.isDigit = true ∨ d = '-') := by
        simp [Char.isDigit]
      have other : ∀ d ∈ [' ', '\t', '\n', '\r', ']'], c ≠ d := fun d hd e => none d hd (e ▸ hc)
      refine ⟨c, r ++ rest, by rw [write, numberChars, h, List.cons_append], ?_, ?_⟩
      · simp [isSpace, other]
      · exact other _ (by decide)
  | str s => exact ⟨_, _, by rw [write, writeString], rfl, by decide⟩
  | arr xs => cases xs <;> exact ⟨_, _, by rw [write], rfl, by decide⟩
  | obj ms => cases ms <;> exact ⟨_, _, by rw [write], rfl, by decide⟩

/-- An array whose first item begins with the given character. -/
theorem readNode_array {c : Char} (space : isSpace c = false) (close : c ≠ ']') (fuel : Nat)
    (s : List Char) :
    readNode (fuel + 1) ('[' :: c :: s) = (do
      let (n, r) ← readNode fuel (c :: s)
      let (ns, r) ← readItems fuel r
      some (.arr (n :: ns), r)) := by
  rw [readNode, skip_cons rfl]
  simp only [skip_cons space]
  split
  · rename_i heq
    exact absurd (List.cons.inj heq).1 close
  · rfl

theorem readNode_items {x : Json} (hx : x.isWhole = true) (fuel : Nat) (rest : List Char) :
    readNode (fuel + 1) ('[' :: write x rest) = (do
      let (n, r) ← readNode fuel (write x rest)
      let (ns, r) ← readItems fuel r
      some (.arr (n :: ns), r)) := by
  obtain ⟨c, r, h, space, close⟩ := write_cons hx rest
  rw [h, readNode_array space close]

theorem readMember_write (k : String) {v : Json} {n : Node} {fuel : Nat} {rest : List Char}
    (h : readNode fuel (write v rest) = some (n, rest)) :
    readMember (fuel + 1) (writeString k (':' :: write v rest)) = some ((some k, n), rest) := by
  rw [writeString, readMember, skip_cons rfl]
  simp only [readString_writeString, Option.bind_eq_bind, Option.bind_some]
  rw [skip_cons rfl]
  simp only [h, Option.bind_some]

theorem readNode_members (k : String) (fuel : Nat) (rest : List Char) :
    readNode (fuel + 1) ('{' :: writeString k rest) = (do
      let (m, r) ← readMember fuel (writeString k rest)
      let (ms, r) ← readMembers fuel r
      some (.obj (m :: ms), r)) := by
  rw [writeString, readNode, skip_cons rfl]
  simp only [skip_cons (show isSpace '"' = false from rfl)]
  rfl

mutual

theorem readNode_write : ∀ (j : Json) (fuel : Nat) (rest : List Char), j.isWhole = true →
    EndsNumber rest → (write j rest).length ≤ fuel →
    readNode fuel (write j rest) = some (j.toNode, rest)
  | j, 0, rest, h, _, hf => by
    obtain ⟨c, r, hc, -, -⟩ := write_cons h rest
    rw [hc, List.length_cons] at hf
    omega
  | .null, fuel + 1, rest, _, _, _ => by rw [write, readNode, skip_cons rfl]; rfl
  | .bool true, fuel + 1, rest, _, _, _ => by rw [write, readNode, skip_cons rfl]; rfl
  | .bool false, fuel + 1, rest, _, _, _ => by rw [write, readNode, skip_cons rfl]; rfl
  | .num (.whole i), fuel + 1, rest, h, hr, _ => by
    obtain ⟨c, r, hi, hc⟩ := intChars_cons i
    have word : leastWhole ≤ i ∧ i ≤ greatestWhole := by simpa [isWhole, Number.isWord] using h
    have number := readNumber_intChars word hr
    rw [hi, List.cons_append] at number
    rw [write, numberChars, hi, List.cons_append, readNode_number hc, number]
    rfl
  | .str s, fuel + 1, rest, _, _, _ => by
    rw [write, writeString, readNode, skip_cons rfl]
    simp only [readString_writeString, Option.map_some]
    rfl
  | .arr [], fuel + 1, rest, _, _, _ => by
    rw [write, readNode, skip_cons rfl]
    simp only [skip_cons (show isSpace ']' = false from rfl)]
    rfl
  | .arr (x :: xs), fuel + 1, rest, h, _, hf => by
    obtain ⟨hx, hxs⟩ : x.isWhole = true ∧ areWhole xs = true := by
      simpa [isWhole, areWhole] using h
    rw [write, List.length_cons] at hf
    have grown := length_write x (writeItems xs rest)
    have first := readNode_write x fuel (writeItems xs rest) hx (endsNumber_writeItems xs rest)
      (by omega)
    have others := readItems_writeItems xs fuel rest hxs (by omega)
    rw [write, readNode_items hx, first]
    simp only [others, Option.bind_eq_bind, Option.bind_some]
    rfl
  | .obj [], fuel + 1, rest, _, _, _ => by
    rw [write, readNode, skip_cons rfl]
    simp only [skip_cons (show isSpace '}' = false from rfl)]
    rfl
  | .obj ((k, v) :: ms), fuel + 1, rest, h, _, hf => by
    obtain ⟨hv, hms⟩ : v.isWhole = true ∧ membersWhole ms = true := by
      simpa [isWhole, membersWhole] using h
    rw [write, List.length_cons] at hf
    have key := length_writeString k (':' :: write v (writeMembers ms rest))
    have grown := length_write v (writeMembers ms rest)
    rw [List.length_cons] at key
    -- the key, its quotes and the colon leave more fuel than the two calls take
    obtain ⟨fuel, rfl⟩ : ∃ f, fuel = f + 1 := ⟨fuel - 1, by omega⟩
    have value := readNode_write v fuel (writeMembers ms rest) hv
      (endsNumber_writeMembers ms rest) (by omega)
    have others := readMembers_writeMembers ms (fuel + 1) rest hms (by omega)
    rw [write, readNode_members]
    simp only [readMember_write k value, others, Option.bind_eq_bind, Option.bind_some]
    rfl

theorem readItems_writeItems : ∀ (xs : List Json) (fuel : Nat) (rest : List Char),
    areWhole xs = true → (writeItems xs rest).length ≤ fuel →
    readItems fuel (writeItems xs rest) = some (toNodes xs, rest)
  | [], 0, rest, _, hf => by rw [writeItems, List.length_cons] at hf; omega
  | [], fuel + 1, rest, _, _ => by rw [writeItems, readItems, skip_cons rfl]; rfl
  | x :: xs, 0, rest, _, hf => by rw [writeItems, List.length_cons] at hf; omega
  | x :: xs, fuel + 1, rest, h, hf => by
    obtain ⟨hx, hxs⟩ : x.isWhole = true ∧ areWhole xs = true := by simpa [areWhole] using h
    rw [writeItems, List.length_cons] at hf
    have grown := length_write x (writeItems xs rest)
    have first := readNode_write x fuel (writeItems xs rest) hx (endsNumber_writeItems xs rest)
      (by omega)
    have others := readItems_writeItems xs fuel rest hxs (by omega)
    rw [writeItems, readItems, skip_cons rfl]
    simp only [first, others, Option.bind_eq_bind, Option.bind_some]
    rfl

theorem readMembers_writeMembers : ∀ (ms : List (String × Json)) (fuel : Nat) (rest : List Char),
    membersWhole ms = true → (writeMembers ms rest).length ≤ fuel →
    readMembers fuel (writeMembers ms rest) = some (toMembers ms, rest)
  | [], 0, rest, _, hf => by rw [writeMembers, List.length_cons] at hf; omega
  | [], fuel + 1, rest, _, _ => by rw [writeMembers, readMembers, skip_cons rfl]; rfl
  | (k, v) :: ms, fuel, rest, h, hf => by
    obtain ⟨hv, hms⟩ : v.isWhole = true ∧ membersWhole ms = true := by
      simpa [membersWhole] using h
    rw [writeMembers, List.length_cons] at hf
    have key := length_writeString k (':' :: write v (writeMembers ms rest))
    have grown := length_write v (writeMembers ms rest)
    rw [List.length_cons] at key
    obtain ⟨fuel, rfl⟩ : ∃ f, fuel = f + 2 := ⟨fuel - 2, by omega⟩
    have value := readNode_write v fuel (writeMembers ms rest) hv
      (endsNumber_writeMembers ms rest) (by omega)
    have others := readMembers_writeMembers ms (fuel + 1) rest hms (by omega)
    rw [writeMembers, readMembers, skip_cons rfl]
    simp only [readMember_write k value, others, Option.bind_eq_bind, Option.bind_some]
    rfl

end

theorem ofText?_text {j : Json} (h : j.isWhole = true) : Node.ofText? j.text = some j.toNode := by
  have read := readNode_write j (2 * j.chars.length + 2) [] h endsNumber_nil
    (by rw [chars]; omega)
  rw [Node.ofText?, text, String.toList_ofList, Node.ofChars?]
  rw [← chars] at read
  rw [read]
  rfl

/-! ## Values -/

mutual

theorem ofNode?_toNode : ∀ (j : Json) (depth : Nat), j.isSorted = true → j.nesting ≤ depth →
    ofNode? depth j.toNode = some j
  | .null, _, _, _ => rfl
  | .bool _, _, _, _ => rfl
  | .num _, _, _, _ => rfl
  | .str _, _, _, _ => rfl
  | .arr _, 0, _, hd => nomatch hd
  | .arr xs, depth + 1, h, hd => by
    have items := ofNodes?_toNodes xs depth (by simpa [isSorted] using h)
      (Nat.le_of_succ_le_succ hd)
    rw [toNode, ofNode?, items]
    rfl
  | .obj _, 0, _, hd => nomatch hd
  | .obj ms, depth + 1, h, hd => by
    obtain ⟨order, hms⟩ : (ms.Pairwise fun a b => a.1 < b.1) ∧ membersSorted ms = true := by
      simpa [isSorted] using h
    have members := ofMembers?_toMembers ms depth hms (Nat.le_of_succ_le_succ hd)
    rw [toNode, ofNode?, members, Option.map_some, sortedObj, ofDict, Dict.entries_ofList order]

theorem ofNodes?_toNodes : ∀ (xs : List Json) (depth : Nat), areSorted xs = true →
    nestingOfItems xs ≤ depth → ofNodes? depth (toNodes xs) = some xs
  | [], _, _, _ => rfl
  | x :: xs, depth, h, hd => by
    obtain ⟨hx, hxs⟩ : x.isSorted = true ∧ areSorted xs = true := by simpa [areSorted] using h
    rw [nestingOfItems, Nat.max_le] at hd
    rw [toNodes, ofNodes?, ofNode?_toNode x depth hx hd.1, ofNodes?_toNodes xs depth hxs hd.2]
    rfl

theorem ofMembers?_toMembers : ∀ (ms : List (String × Json)) (depth : Nat),
    membersSorted ms = true → nestingOfMembers ms ≤ depth →
    ofMembers? depth (toMembers ms) = some ms
  | [], _, _, _ => rfl
  | (k, v) :: ms, depth, h, hd => by
    obtain ⟨hv, hms⟩ : v.isSorted = true ∧ membersSorted ms = true := by
      simpa [membersSorted] using h
    rw [nestingOfMembers, Nat.max_le] at hd
    rw [toMembers, ofMembers?, ofNode?_toNode v depth hv hd.1,
      ofMembers?_toMembers ms depth hms hd.2]
    rfl

end

mutual

/-- Nothing is the value of a node with more arrays and objects inside one another than may be. -/
theorem ofNode?_of_deep : ∀ (j : Json) (depth : Nat), depth < j.nesting →
    ofNode? depth j.toNode = none
  | .arr _, 0, _ => rfl
  | .arr xs, depth + 1, hd => by
    have items := ofNodes?_of_deep xs depth (Nat.lt_of_succ_lt_succ hd)
    rw [toNode, ofNode?, items]
    rfl
  | .obj _, 0, _ => rfl
  | .obj ms, depth + 1, hd => by
    have members := ofMembers?_of_deep ms depth (Nat.lt_of_succ_lt_succ hd)
    rw [toNode, ofNode?, members]
    rfl

theorem ofNodes?_of_deep : ∀ (xs : List Json) (depth : Nat), depth < nestingOfItems xs →
    ofNodes? depth (toNodes xs) = none
  | x :: xs, depth, hd => by
    have deep : depth < x.nesting ∨ depth < nestingOfItems xs := by
      rw [nestingOfItems] at hd
      omega
    rw [toNodes, ofNodes?]
    rcases deep with hx | hxs
    · rw [ofNode?_of_deep x depth hx]
      rfl
    · rw [ofNodes?_of_deep xs depth hxs]
      cases ofNode? depth x.toNode <;> rfl

theorem ofMembers?_of_deep : ∀ (ms : List (String × Json)) (depth : Nat),
    depth < nestingOfMembers ms → ofMembers? depth (toMembers ms) = none
  | (k, v) :: ms, depth, hd => by
    have deep : depth < v.nesting ∨ depth < nestingOfMembers ms := by
      rw [nestingOfMembers] at hd
      omega
    rw [toMembers, ofMembers?]
    rcases deep with hv | hms
    · rw [ofNode?_of_deep v depth hv]
      rfl
    · rw [ofMembers?_of_deep ms depth hms]
      cases ofNode? depth v.toNode <;> rfl

end

/-- The nesting of a value decides whether its text is read. -/
theorem value_of_text {j : Json} (whole : j.isWhole = true) (sorted : j.isSorted = true) :
    ofText? j.text = if j.nesting ≤ nestingLimit then some j else none := by
  rw [ofText?, ofText?_text whole]
  change ofNode? nestingLimit j.toNode = _
  split
  · rename_i hd
    exact ofNode?_toNode j nestingLimit sorted hd
  · rename_i hd
    exact ofNode?_of_deep j nestingLimit (Nat.lt_of_not_le hd)

end FieldGateway.Json
