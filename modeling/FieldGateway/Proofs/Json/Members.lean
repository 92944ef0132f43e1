import FieldGateway.Proofs.Json.Record
import Mathlib.Data.List.Forall2
import Mathlib.Data.List.Nodup

/-
  Objects whose members may stand in any order, and some of which may be left out. A map is the
  same whatever the order of its entries (`Dict.ofList_of_perm`), and a record reader finds the
  same fields (`HasMembers.fields`).
-/

namespace FieldGateway

namespace Dict

variable {α : Type}

theorem insertEntry_perm {k : String} {v : α} {es : List (String × α)} (absent : k ∉ es.map (·.1)) :
    (insertEntry k v es).Perm ((k, v) :: es) := by
  induction es with
  | nil => exact .refl _
  | cons e rest ih =>
    rw [List.map_cons, List.mem_cons, not_or] at absent
    rw [insertEntry]
    split
    · exact .refl _
    · rename_i not_before
      have behind : e.1 < k := by
        by_contra not_behind
        refine absent.1 (String.le_antisymm ?_ (String.not_lt.1 not_before))
        exact String.not_lt.1 not_behind
      rw [if_pos behind]
      exact ((ih absent.2).cons e).trans (.swap ..)

theorem foldl_insert_perm {es : List (String × α)} (m : Dict α)
    (nodup : (m.entries ++ es |>.map (·.1)).Nodup) :
    (es.foldl (fun m e => m.insert e.1 e.2) m).entries.Perm (m.entries ++ es) := by
  induction es generalizing m with
  | nil => simp
  | cons e es ih =>
    have moved : (m.entries ++ e :: es).Perm (e :: (m.entries ++ es)) := List.perm_middle
    have distinct := (moved.map (·.1)).nodup_iff.1 nodup
    rw [List.map_cons, List.nodup_cons, List.map_append, List.mem_append, not_or] at distinct
    have placed : (m.insert e.1 e.2).entries.Perm (e :: m.entries) :=
      insertEntry_perm distinct.1.1
    have all : ((m.insert e.1 e.2).entries ++ es).Perm (m.entries ++ e :: es) :=
      (placed.append_right es).trans moved.symm
    exact (ih _ ((all.map (·.1)).nodup_iff.2 nodup)).trans all

/-- Entries of distinct keys are sorted, and nothing else. -/
theorem entries_ofList_perm {es : List (String × α)} (nodup : (es.map (·.1)).Nodup) :
    (ofList es).entries.Perm es :=
  foldl_insert_perm empty nodup

/-- The entries of a map, in whatever order, make the map. -/
theorem ofList_of_perm {es : List (String × α)} {m : Dict α} (h : es.Perm m.entries) :
    ofList es = m := by
  have keys : (es.map fun e => e.1).Perm m.keys := h.map _
  have nodup := keys.nodup_iff.2 m.keys_nodup
  have sorted := (entries_ofList_perm nodup).trans h
  have apart : ∀ a b : String × α, a ∈ (ofList es).entries → b ∈ m.entries → a.1 < b.1 →
      b.1 < a.1 → a = b := fun _ _ _ _ ab ba => absurd ab (String.lt_asymm ba)
  exact ext (sorted.eq_of_pairwise apart (ofList es).sorted m.sorted)

end Dict

namespace Json

/-- The members that are there, of some that may be left out. -/
def given (slots : List (String × Option Json)) : List (String × Json) :=
  slots.filterMap fun s => s.2.map fun j => (s.1, j)

theorem given_nil : given [] = [] := rfl

theorem given_cons {α : Type} (name : String) (write : α → Json) (o : Option α)
    (slots : List (String × Option Json)) :
    given ((name, o.map write) :: slots) = present name write o ++ given slots := by
  cases o <;> rfl

theorem given_cons_some (name : String) (j : Json) (slots : List (String × Option Json)) :
    given ((name, some j) :: slots) = (name, j) :: given slots := rfl

theorem mem_given {slots : List (String × Option Json)} {m : String × Json} :
    m ∈ given slots ↔ (m.1, some m.2) ∈ slots := by
  simp only [given, List.mem_filterMap, Option.map_eq_some_iff]
  constructor
  · rintro ⟨⟨k, o⟩, mem, j, there, rfl⟩
    obtain rfl : o = some j := there
    exact mem
  · intro mem
    exact ⟨_, mem, m.2, rfl, rfl⟩

theorem given_keys_sublist (slots : List (String × Option Json)) :
    ((given slots).map (·.1)).Sublist (slots.map (·.1)) := by
  induction slots with
  | nil => exact .refl _
  | cons s slots ih =>
    obtain ⟨k, o⟩ := s
    cases o with
    | none => exact ih.cons k
    | some j => exact ih.cons_cons k

/-- An object of these members, in any order. -/
def HasMembers (slots : List (String × Option Json)) (j : Json) : Prop :=
  ∃ members, j = .obj members ∧ members.Perm (given slots)

theorem hasMembers_sortedObj {slots : List (String × Option Json)}
    (nodup : (slots.map (·.1)).Nodup) : HasMembers slots (sortedObj (given slots)) :=
  ⟨_, rfl, Dict.entries_ofList_perm (nodup.sublist (given_keys_sublist slots))⟩

/-- An object is written with all of its members. -/
theorem hasMembers_obj (members : List (String × Json)) :
    HasMembers (members.map fun m => (m.1, some m.2)) (.obj members) :=
  ⟨members, rfl, by simp [given, List.filterMap_map]⟩

theorem membersWhole_iff {members : List (String × Json)} :
    membersWhole members = true ↔ ∀ m ∈ members, m.2.isWhole = true := by
  induction members with
  | nil => simp [membersWhole]
  | cons m members ih => simp [membersWhole, ih]

theorem areWhole_of_forall₂ {α : Type} {xs : List α} {js : List Json}
    (h : List.Forall₂ (fun _ j => j.isWhole = true) xs js) : areWhole js = true := by
  induction h with
  | nil => rfl
  | cons first _ ih => rw [areWhole, first, ih, Bool.and_self]

theorem HasMembers.isWhole {slots : List (String × Option Json)} {j : Json} (h : HasMembers slots j)
    (whole : ∀ s ∈ slots, ∀ x ∈ s.2, x.isWhole = true) : j.isWhole = true := by
  obtain ⟨members, rfl, perm⟩ := h
  rw [Json.isWhole, membersWhole_iff]
  intro m mem
  exact whole _ (mem_given.1 (perm.mem_iff.1 mem)) m.2 rfl

/-! ## Fields -/

/-- With distinct keys, to be looked up is to be there. -/
theorem lookup_eq_some_iff {α : Type} {members : List (String × α)}
    (nodup : (members.map (·.1)).Nodup) {k : String} {v : α} : members.lookup k = some v ↔ (k, v) ∈ members := by
  induction members with
  | nil => simp
  | cons m members ih =>
    rw [List.map_cons, List.nodup_cons] at nodup
    rw [List.lookup_cons]
    by_cases same : k = m.1
    · subst same
      simp only [beq_self_eq_true]
      constructor
      · intro h
        rw [← Option.some.inj h]
        exact List.mem_cons_self
      · intro h
        rcases List.mem_cons.1 h with first | there
        · rw [← first]
        · exact absurd (List.mem_map_of_mem (f := (·.1)) there) nodup.1
    · have other : (k == m.1) = false := beq_eq_false_iff_ne.2 same
      rw [other, ih nodup.2, List.mem_cons]
      refine (or_iff_right fun first => same ?_).symm
      rw [← first]

theorem lookup_mapValues {α β : Type} (f : α → β) (members : List (String × α)) (k : String) :
    (members.map fun m => (m.1, f m.2)).lookup k = (members.lookup k).map f := by
  induction members with
  | nil => rfl
  | cons m members ih =>
    rw [List.map_cons, List.lookup_cons, List.lookup_cons, ih]
    cases k == m.1 <;> rfl

namespace Fields

/-- The fields of an object with these members. -/
structure Of (slots : List (String × Option Json)) (depth : Nat) (fields : Fields) : Prop where
  depth : fields.depth = depth
  find (name : String) : fields.find? name = (slots.lookup name).join.map toNode

end Fields

theorem distinct_of_nodup {names : List String} {members : List (String × Node)}
    (nodup : (members.map (·.1)).Nodup) : Fields.distinct names members = true := by
  refine List.all_eq_true.2 fun name _ => decide_eq_true ?_
  have filtered : (members.filter fun m => m.1 == name).map (·.1) =
      (members.map (·.1)).filter (· == name) := by
    rw [List.filter_map]
    rfl
  have count := List.nodup_iff_count_le_one.1 nodup name
  rwa [List.count_eq_length_filter, ← filtered, List.length_map] at count

theorem HasMembers.fields {slots : List (String × Option Json)} {j : Json} (h : HasMembers slots j)
    (names : List String) (keys : slots.map (·.1) = names) (nodup : names.Nodup) (depth : Nat) :
    ∃ fields, Fields.of? names (depth + 1) j.toNode = some fields ∧ fields.Of slots depth := by
  obtain ⟨members, rfl, perm⟩ := h
  have distinct : (members.map (·.1)).Nodup := by
    refine (perm.map _).nodup_iff.2 (List.Nodup.sublist (given_keys_sublist slots) ?_)
    rw [keys]
    exact nodup
  have nodes : ((members.map fun m => (m.1, m.2.toNode)).map (·.1)).Nodup := by
    rw [List.map_map]
    exact distinct
  refine ⟨_, Fields.of?_obj depth (distinct_of_nodup nodes), rfl, fun name => ?_⟩
  have slotted : (slots.map (·.1)).Nodup := by
    rw [keys]
    exact nodup
  refine (lookup_mapValues toNode members name).trans (congrArg _ (Option.ext fun v => ?_))
  rw [lookup_eq_some_iff distinct, perm.mem_iff, mem_given, Option.join_eq_some_iff,
    lookup_eq_some_iff slotted]

namespace Fields.Of

variable {α : Type} {slots : List (String × Option Json)} {depth : Nat} {fields : Fields}
  (h : fields.Of slots depth) (name : String)
include h

theorem required {j : Json} (slot : slots.lookup name = some (some j)) (value : Decoder α) :
    fields.required name value = value depth j.toNode := by
  rw [Fields.required, h.find, slot, h.depth]
  rfl

theorem withDefault {j : Json} (slot : slots.lookup name = some (some j)) (default : α)
    (value : Decoder α) : fields.withDefault name default value = value depth j.toNode := by
  rw [Fields.withDefault, h.find, slot, h.depth]
  rfl

theorem nullable {j : Json} (slot : slots.lookup name = some (some j)) (value : Decoder α) :
    fields.nullable name value = value.nullable depth j.toNode := by
  rw [Fields.nullable, Fields.optional, h.required name slot, h.withDefault name slot, ite_self]

/-- A field that is left out when there is nothing to write. -/
theorem optional {o : Option α} {write : α → Json} {value : Decoder α}
    (slot : slots.lookup name = some (o.map write))
    (read : ∀ x ∈ o, (write x).toNode ≠ .null ∧ value depth (write x).toNode = some x) :
    fields.optional name value = some o := by
  rw [Fields.optional, Fields.withDefault, h.find, slot, h.depth]
  cases o with
  | none => rfl
  | some x =>
    obtain ⟨full, reads⟩ := read x rfl
    show Decoder.nullable value depth (write x).toNode = _
    rw [Decoder.nullable, reads]
    · rfl
    · exact full

end Fields.Of

theorem readsText (o : Option String) (depth : Nat) : ∀ x ∈ o,
    (Json.str x).toNode ≠ .null ∧ Decoder.text depth (Json.str x).toNode = some x :=
  fun x _ => ⟨by simp [toNode], rfl⟩

/-! ## Lists and maps -/

namespace Decoder

variable {α : Type} {item : Decoder α} {depth : Nat}

/-- A list is read if each of its items is. -/
theorem list_of_forall₂ {fits : α → Prop} [DecidablePred fits] {xs : List α} {js : List Json}
    (h : List.Forall₂ (fun x j => item depth j.toNode = if fits x then some x else none) xs js) :
    list item (depth + 1) (Json.arr js).toNode =
      if ∀ x ∈ xs, fits x then some xs else none := by
  rw [toNode, list, toNodes_eq_map]
  induction h with
  | nil => rfl
  | @cons x j xs js first _ ih =>
    rw [List.map_cons, List.mapM_cons, first]
    simp only [List.forall_mem_cons]
    by_cases fit : fits x
    · simp only [fit, if_true, true_and]
      show (List.mapM (item depth) _).bind _ = _
      rw [ih]
      split <;> rfl
    · simp only [fit, if_false, false_and]
      rfl

theorem list_of_forall₂_some {xs : List α} {js : List Json}
    (h : List.Forall₂ (fun x j => item depth j.toNode = some x) xs js) :
    list item (depth + 1) (Json.arr js).toNode = some xs := by
  have each : List.Forall₂ (fun x j => item depth j.toNode = if True then some x else none) xs js :=
    h.imp fun _ _ read => read.trans (if_pos trivial).symm
  rw [list_of_forall₂ each, if_pos fun _ _ => trivial]

theorem dict_of_perm {m : TextMap} {entries : List (String × String)}
    (perm : entries.Perm m.entries) :
    dict text (depth + 1) (Json.obj (entries.map fun e => (e.1, .str e.2))).toNode = some m := by
  have members : (entries.map fun e => (some e.1, (Json.str e.2).toNode)).mapM
      (member text depth) = some (entries.map id) := mapM_map_eq_some fun _ _ => rfl
  rw [toNode, dict, toMembers_eq_map, List.map_map]
  simp only [Function.comp_def, members, List.map_id, Option.map_some, Dict.ofList_of_perm perm]

end Decoder

end Json

end FieldGateway
