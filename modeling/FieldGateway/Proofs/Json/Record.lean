import FieldGateway.Proofs.Json.RoundTrip
import FieldGateway.Event.Json

/-
  Record readers on what was written: each reader inverts its writer, and the fields of an
  object are its members when no field is given twice.
-/

namespace FieldGateway.Json

theorem toNodes_eq_map (xs : List Json) : toNodes xs = xs.map toNode := by
  induction xs with
  | nil => rfl
  | cons x xs ih => rw [toNodes, ih, List.map_cons]

theorem toMembers_eq_map (ms : List (String × Json)) :
    toMembers ms = ms.map fun m => (some m.1, m.2.toNode) := by
  induction ms with
  | nil => rfl
  | cons m ms ih => rw [toMembers, ih, List.map_cons]

theorem areWhole_map {α : Type} {write : α → Json} {xs : List α} (h : ∀ x ∈ xs, (write x).isWhole = true) :
    areWhole (xs.map write) = true := by
  induction xs with
  | nil => rfl
  | cons x xs ih =>
    rw [List.map_cons, areWhole, h x List.mem_cons_self,
      ih fun y hy => h y (List.mem_cons_of_mem _ hy), Bool.and_self]

theorem mapM_map_eq_some {α β γ : Type} {read : β → Option γ} {write : α → β} {value : α → γ}
    {xs : List α} (h : ∀ x ∈ xs, read (write x) = some (value x)) :
    (xs.map write).mapM read = some (xs.map value) := by
  induction xs with
  | nil => rfl
  | cons x xs ih =>
    have rest := ih fun y hy => h y (List.mem_cons_of_mem _ hy)
    simp only [List.map_cons, List.mapM_cons, h x List.mem_cons_self, rest, Option.bind_eq_bind,
      Option.bind_some]
    rfl

theorem mapM_map_eq_none {α β γ : Type} {read : β → Option γ} {write : α → β} {xs : List α} {x : α}
    (hx : x ∈ xs) (h : read (write x) = none) : (xs.map write).mapM read = none := by
  induction xs with
  | nil => cases hx
  | cons y xs ih =>
    rw [List.map_cons, List.mapM_cons]
    rcases List.mem_cons.1 hx with rfl | hx
    · rw [h]
      rfl
    · rw [ih hx]
      cases read (write y) <;> rfl

namespace Decoder

variable {α : Type} {depth : Nat}

theorem int64_ofInt64 (i : Int64) : int64 depth (ofInt64 i).toNode = some i := by
  have least : Word.leastSigned 64 ≤ i.toInt := i.le_toInt
  have greatest : i.toInt ≤ Word.greatestSigned 64 := i.toInt_le
  rw [int64, ofInt64, toNode, whole, if_pos ⟨least, greatest⟩, Option.map_some, Int64.ofInt_toInt]

theorem list_map {item : Decoder α} {write : α → Json} {xs : List α}
    (h : ∀ x ∈ xs, item depth (write x).toNode = some x) :
    list item (depth + 1) (Json.arr (xs.map write)).toNode = some xs := by
  have items : (xs.map (toNode ∘ write)).mapM (item depth) = some (xs.map id) :=
    mapM_map_eq_some h
  rw [toNode, list, toNodes_eq_map, List.map_map, items, List.map_id]

theorem list_map_of_unread {β : Type} {item : Decoder α} {write : β → Json} {xs : List β} {x : β}
    (hx : x ∈ xs) (h : item depth (write x).toNode = none) :
    list item (depth + 1) (Json.arr (xs.map write)).toNode = none := by
  have items : (xs.map (toNode ∘ write)).mapM (item depth) = none := mapM_map_eq_none hx h
  rw [toNode, list, toNodes_eq_map, List.map_map, items]

theorem count_byte (b : UInt8) :
    count 255 depth (Json.num (.whole b.toNat)).toNode = some b.toNat := by
  have fits : (0 : Int) ≤ b.toNat ∧ (b.toNat : Int) ≤ (255 : Nat) := by
    have := b.toNat_lt
    omega
  rw [count, toNode, whole, if_pos fits]
  rfl

theorem bytes_ofBytes (b : List UInt8) : bytes (depth + 1) (ofBytes b).toNode = some b := by
  have counts : list (count 255) (depth + 1) (ofBytes b).toNode = some (b.map (·.toNat)) := by
    rw [ofBytes, toNode, list, toNodes_eq_map, List.map_map]
    exact mapM_map_eq_some fun x _ => count_byte x
  rw [bytes, counts, Option.map_some, List.map_map]
  simp [Function.comp_def]

theorem nullable_orNull {value : Decoder α} {write : α → Json} {o : Option α}
    (h : ∀ x ∈ o, (write x).toNode ≠ .null ∧ value depth (write x).toNode = some x) :
    nullable value depth (orNull write o).toNode = some o := by
  cases o with
  | none => rfl
  | some x =>
    obtain ⟨full, read⟩ := h x rfl
    rw [orNull, nullable, read]
    · rfl
    · exact full

theorem nullable_of_unread {value : Decoder α} {n : Node} (full : n ≠ .null)
    (h : value depth n = none) : nullable value depth n = none := by
  rw [nullable, h]
  · rfl
  · exact full

end Decoder

namespace Fields

theorem of?_obj {names : List String} {ms : List (String × Json)} (depth : Nat)
    (h : distinct names (ms.map fun m => (m.1, m.2.toNode)) = true) :
    of? names (depth + 1) (Json.obj ms).toNode =
      some ⟨depth, false, ms.map fun m => (m.1, m.2.toNode)⟩ := by
  have members : (ms.map fun m => (some m.1, m.2.toNode)).mapM
      (fun m : Option String × Node => m.1.map fun k => (k, m.2)) =
        some (ms.map fun m => (m.1, m.2.toNode)) := mapM_map_eq_some fun _ _ => rfl
  rw [toNode, of?, toMembers_eq_map, members]
  exact if_pos h

end Fields

end FieldGateway.Json

namespace FieldGateway.ValueType

theorem ofName_name (t : ValueType) : ofName t.name = .ok t := by
  cases t with
  | scalar t => cases t with
    | int t => cases t <;> rfl
    | _ => rfl
  | array t => cases t with
    | int t => cases t <;> rfl
    | _ => rfl
  | _ => rfl

theorem decoder_name (t : ValueType) (depth : Nat) :
    decoder depth (Json.str t.name).toNode = some t := by
  show (ofName t.name).toOption = some t
  rw [ofName_name]
  rfl

end FieldGateway.ValueType
