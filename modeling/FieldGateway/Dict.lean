/-
  Finite maps from texts, kept as entries in increasing order of their keys, each key once. So
  two maps with the same entries are equal. Where a map is written entry by entry, or searched for
  a value, it need not be taken in that order; such a place takes a `Listing` of the map.
-/

namespace FieldGateway

/-- Entries in increasing order of their keys. -/
structure Dict (α : Type) where
  entries : List (String × α)
  sorted : entries.Pairwise fun a b => a.1 < b.1

namespace Dict

variable {α β : Type}

instance [DecidableEq α] : DecidableEq (Dict α) := fun a b =>
  decidable_of_iff (a.entries = b.entries)
    ⟨fun h => by cases a; cases b; simp only at h; subst h; rfl, fun h => h ▸ rfl⟩

@[ext] theorem ext {a b : Dict α} (h : a.entries = b.entries) : a = b := by
  cases a; cases b; simp only at h; subst h; rfl

def empty : Dict α := ⟨[], .nil⟩

instance : EmptyCollection (Dict α) := ⟨empty⟩

instance : Inhabited (Dict α) := ⟨empty⟩

/-- The entry goes to its place; an entry of the same key gives way. -/
def insertEntry (k : String) (v : α) : List (String × α) → List (String × α)
  | [] => [(k, v)]
  | e :: rest =>
    if k < e.1 then (k, v) :: e :: rest
    else if e.1 < k then e :: insertEntry k v rest
    else (k, v) :: rest

theorem insertEntry_keys {k : String} {v : α} {es : List (String × α)} {x : String × α}
    (h : x ∈ insertEntry k v es) : x.1 = k ∨ x ∈ es := by
  induction es with
  | nil => simp only [insertEntry, List.mem_singleton] at h; exact .inl (h ▸ rfl)
  | cons e rest ih =>
    simp only [insertEntry] at h
    split at h
    · rcases List.mem_cons.1 h with h | h
      · exact .inl (h ▸ rfl)
      · exact .inr h
    · split at h
      · rcases List.mem_cons.1 h with h | h
        · exact .inr (h ▸ List.mem_cons_self)
        · exact (ih h).imp id (List.mem_cons_of_mem _)
      · rcases List.mem_cons.1 h with h | h
        · exact .inl (h ▸ rfl)
        · exact .inr (List.mem_cons_of_mem _ h)

theorem sorted_insertEntry (k : String) (v : α) {es : List (String × α)}
    (h : es.Pairwise fun a b => a.1 < b.1) :
    (insertEntry k v es).Pairwise fun a b => a.1 < b.1 := by
  induction es with
  | nil => simp [insertEntry]
  | cons e rest ih =>
    obtain ⟨he, hr⟩ := List.pairwise_cons.1 h
    simp only [insertEntry]
    split
    · rename_i hk
      refine List.pairwise_cons.2 ⟨fun x hx => ?_, h⟩
      rcases List.mem_cons.1 hx with rfl | hx
      · exact hk
      · exact String.lt_trans hk (he x hx)
    · split
      · rename_i hk
        refine List.pairwise_cons.2 ⟨fun x hx => ?_, ih hr⟩
        rcases insertEntry_keys hx with hx | hx
        · exact hx ▸ hk
        · exact he x hx
      · rename_i h1 h2
        have hk : k = e.1 := String.le_antisymm (String.not_lt.1 h2) (String.not_lt.1 h1)
        exact List.pairwise_cons.2 ⟨fun x hx => hk ▸ he x hx, hr⟩

def insert (m : Dict α) (k : String) (v : α) : Dict α :=
  ⟨insertEntry k v m.entries, sorted_insertEntry k v m.sorted⟩

def find? (m : Dict α) (k : String) : Option α :=
  (m.entries.find? fun e => e.1 == k).map (·.2)

def contains (m : Dict α) (k : String) : Bool := (m.find? k).isSome

def erase (m : Dict α) (k : String) : Dict α :=
  ⟨m.entries.filter fun e => e.1 != k, m.sorted.filter _⟩

/-- Later entries win. -/
def ofList (es : List (String × α)) : Dict α := es.foldl (fun m e => m.insert e.1 e.2) empty

def keys (m : Dict α) : List String := m.entries.map (·.1)

def values (m : Dict α) : List α := m.entries.map (·.2)

def size (m : Dict α) : Nat := m.entries.length

def isEmpty (m : Dict α) : Bool := m.entries.isEmpty

/-! ## What is found -/

theorem find?_insertEntry (k : String) (v : α) (j : String) (es : List (String × α)) :
    ((insertEntry k v es).find? fun e => e.1 == j).map (·.2) =
      if k = j then some v else (es.find? fun e => e.1 == j).map (·.2) := by
  induction es with
  | nil => by_cases h : k = j <;> simp [insertEntry, h]
  | cons e rest ih =>
    simp only [insertEntry]
    split
    · by_cases h : k = j <;> simp [h]
    · split
      · rename_i hk
        by_cases he : e.1 = j
        · have hne : k ≠ j := fun h => String.lt_irrefl k (by rw [he, ← h] at hk; exact hk)
          simp [he, hne]
        · have hb : (e.1 == j) = false := by simpa using he
          rw [List.find?_cons, List.find?_cons, hb]
          exact ih
      · rename_i h1 h2
        have hk : k = e.1 := String.le_antisymm (String.not_lt.1 h2) (String.not_lt.1 h1)
        by_cases h : k = j
        · simp [h]
        · have he : e.1 ≠ j := fun h' => h (hk.trans h')
          simp [h, he]

/-- An insertion is found under its key and hides nothing else. -/
theorem find?_insert (m : Dict α) (k : String) (v : α) (j : String) :
    (m.insert k v).find? j = if k = j then some v else m.find? j :=
  find?_insertEntry k v j m.entries

/-- An erasure hides its key and nothing else. -/
theorem find?_erase (m : Dict α) (k j : String) :
    (m.erase k).find? j = if k = j then none else m.find? j := by
  simp only [find?, erase, List.find?_filter]
  by_cases h : k = j
  · subst h
    simp
  · have hfun : (fun e : String × α => decide ((e.1 != k) = true ∧ (e.1 == j) = true)) =
        fun e => e.1 == j := by
      funext e
      by_cases he : e.1 = j
      · simp [he, Ne.symm h]
      · simp [he]
    simp only [h, if_false]
    rw [hfun]

theorem isSome_of_erase {m : Dict α} {k j : String} (h : ((m.erase k).find? j).isSome) :
    (m.find? j).isSome := by
  rw [find?_erase] at h
  split at h
  · cases h
  · exact h

theorem erase_of_find?_eq_none {m : Dict α} {k : String} (h : m.find? k = none) : m.erase k = m := by
  have absent := List.find?_eq_none.1 (Option.map_eq_none_iff.1 h)
  exact ext (List.filter_eq_self.2 fun e he => bne_iff_ne.2 fun hk => absent e he (beq_iff_eq.2 hk))

theorem mem_values_of_find? {m : Dict α} {k : String} {v : α} (h : m.find? k = some v) :
    v ∈ m.values := by
  obtain ⟨e, he, rfl⟩ := Option.map_eq_some_iff.1 h
  exact List.mem_map_of_mem (List.mem_of_find?_eq_some he)

/-! ## Maps and their entries -/

theorem insertEntry_last {k : String} {v : α} {es : List (String × α)} (h : ∀ e ∈ es, e.1 < k) :
    insertEntry k v es = es ++ [(k, v)] := by
  induction es with
  | nil => rfl
  | cons e rest ih =>
    have he : e.1 < k := h e List.mem_cons_self
    rw [insertEntry, if_neg (String.lt_asymm he), if_pos he,
      ih fun x hx => h x (List.mem_cons_of_mem _ hx), List.cons_append]

theorem entries_foldl_insert (es : List (String × α)) (m : Dict α)
    (h : (m.entries ++ es).Pairwise fun a b => a.1 < b.1) :
    (es.foldl (fun m e => m.insert e.1 e.2) m).entries = m.entries ++ es := by
  induction es generalizing m with
  | nil => simp
  | cons e es ih =>
    have last : (m.insert e.1 e.2).entries = m.entries ++ [e] :=
      insertEntry_last fun x hx => (List.pairwise_append.1 h).2.2 x hx e List.mem_cons_self
    have split : m.entries ++ e :: es = (m.entries ++ [e]) ++ es := by simp
    rw [List.foldl_cons, ih _ (by rw [last, ← split]; exact h), last, split]

/-- Entries that are in order already are the entries of the map. -/
theorem entries_ofList {es : List (String × α)} (h : es.Pairwise fun a b => a.1 < b.1) :
    (ofList es).entries = es :=
  entries_foldl_insert es empty h

theorem ofList_entries (m : Dict α) : ofList m.entries = m := ext (entries_ofList m.sorted)

theorem find?_foldl_insert_of_not_mem {es : List (String × α)} {k : String}
    (h : k ∉ es.map (·.1)) (m : Dict α) :
    (es.foldl (fun m e => m.insert e.1 e.2) m).find? k = m.find? k := by
  induction es generalizing m with
  | nil => rfl
  | cons e es ih =>
    rw [List.map_cons, List.mem_cons, not_or] at h
    rw [List.foldl_cons, ih h.2, find?_insert, if_neg (Ne.symm h.1)]

/-- Entries whose keys are not repeated are all found. -/
theorem find?_ofList {es : List (String × α)} (nodup : (es.map (·.1)).Nodup) {k : String} {v : α}
    (h : (k, v) ∈ es) : (ofList es).find? k = some v := by
  suffices all : ∀ m : Dict α, (es.foldl (fun m e => m.insert e.1 e.2) m).find? k = some v from
    all empty
  induction es with
  | nil => cases h
  | cons e es ih =>
    intro m
    obtain ⟨first, rest⟩ := List.nodup_cons.1 nodup
    rcases List.mem_cons.1 h with rfl | h
    · rw [List.foldl_cons, find?_foldl_insert_of_not_mem first, find?_insert, if_pos rfl]
    · exact ih rest h _

theorem keys_nodup (m : Dict α) : m.keys.Nodup := by
  refine List.pairwise_map.2 (m.sorted.imp fun h e => ?_)
  rw [e] at h
  exact String.lt_irrefl _ h

/-- What is an entry is found. -/
theorem find?_of_mem {m : Dict α} {e : String × α} (h : e ∈ m.entries) :
    m.find? e.1 = some e.2 := by
  have found := find?_ofList m.keys_nodup h
  rwa [ofList_entries] at found

theorem mem_values_iff {m : Dict α} {v : α} : v ∈ m.values ↔ ∃ k, m.find? k = some v := by
  refine ⟨fun h => ?_, fun ⟨_, h⟩ => mem_values_of_find? h⟩
  obtain ⟨e, he, rfl⟩ := List.mem_map.1 h
  exact ⟨e.1, find?_of_mem he⟩

/-- The map with every value changed. -/
def mapValues (f : α → β) (m : Dict α) : Dict β :=
  ⟨m.entries.map fun e => (e.1, f e.2), List.pairwise_map.2 m.sorted⟩

/-! ## Listings -/

/-- The entries of a map, in whatever order. -/
structure Listing (m : Dict α) where
  entries : List (String × α)
  perm : entries.Perm m.entries

/-- The entries in increasing order of their keys. -/
def Listing.sorted (m : Dict α) : m.Listing := ⟨m.entries, .refl _⟩

end Dict

/-- Text attached to text: tags, mappings, the properties of a protocol. -/
abbrev TextMap := Dict String

/-- In which order each map is listed, by the number under which it is written. -/
abbrev Listings := Nat → (m : TextMap) → m.Listing

def Listings.sorted : Listings := fun _ m => .sorted m

end FieldGateway
