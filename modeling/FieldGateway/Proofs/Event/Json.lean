import FieldGateway.Proofs.Json.Members

/-
  Events as JSON: what a subscriber reads is the event that was written, if every object in it
  has whole numbers, its members in order, and not too much nesting (`decodeBytes_text`). In which
  order the tags were written makes no difference.
-/

namespace FieldGateway

open FieldGateway.Json

/-! ## Whole numbers in what is written -/

namespace Json

variable {α : Type} {write : α → Json}

theorem isWhole_orNull {o : Option α} (h : ∀ x ∈ o, (write x).isWhole = true) :
    (orNull write o).isWhole = true := by
  cases o with
  | none => rfl
  | some x => exact h x rfl

theorem isWhole_ofInt64 (i : Int64) : (ofInt64 i).isWhole = true := by
  have least : leastWhole ≤ i.toInt := i.le_toInt
  have greatest : i.toInt ≤ greatestWhole := by
    have : i.toInt < 2 ^ 63 := i.toInt_lt
    have : (2 : Int) ^ 63 ≤ greatestWhole := by decide
    omega
  simp [ofInt64, isWhole, Number.isWord, least, greatest]

theorem isWhole_ofBytes (bytes : List UInt8) : (ofBytes bytes).isWhole = true := by
  refine areWhole_map fun b _ => ?_
  have least : leastWhole ≤ (b.toNat : Int) := by
    have : leastWhole ≤ 0 := by decide
    omega
  have greatest : (b.toNat : Int) ≤ greatestWhole := by
    have := b.toNat_lt
    have : (256 : Int) ≤ greatestWhole := by decide
    omega
  simp [isWhole, Number.isWord, least, greatest]

theorem isWhole_ofListing {m : TextMap} (l : m.Listing) : (ofListing l).isWhole = true := by
  rw [ofListing, isWhole, membersWhole_iff]
  intro x hx
  obtain ⟨e, -, rfl⟩ := List.mem_map.1 hx
  rfl

end Json

/-! ## Reading back -/

/-- An event puts three arrays and objects around the object of a reading. -/
def Event.objectNesting : Nat := nestingLimit - 3

/-- An object that an event in JSON can carry. -/
def Json.isPortable (j : Json) : Bool :=
  j.isWhole && j.isSorted && decide (j.nesting ≤ Event.objectNesting)

namespace Reading

/-- The object of the reading, if it has one, is an object that an event can carry. -/
def IsPortable (r : Reading) : Prop :=
  ∀ j ∈ r.object, (∃ members, j = .obj members) ∧ j.isPortable = true

theorem IsPortable.isWhole {r : Reading} (h : r.IsPortable) {j : Json} (hj : j ∈ r.object) :
    j.isWhole = true := by
  have portable := (h j hj).2
  simp only [isPortable, Bool.and_eq_true] at portable
  exact portable.1.1

/-- The names of the fields of a reading. -/
def fieldNames : List String :=
  ["id", "origin", "deviceName", "resourceName", "profileName", "valueType", "value",
    "binaryValue", "mediaType", "objectValue", "units", "tags"]

theorem decoder_toJson {l : Listed} {depth : Nat} (h : l.reading.IsPortable)
    (hd : Event.objectNesting ≤ depth + 1) :
    decoder (depth + 2) l.toJson.toNode = some l.reading := by
  obtain ⟨r, listing⟩ := l
  have written : HasMembers _ (Listed.toJson ⟨r, listing⟩) := hasMembers_obj _
  obtain ⟨fields, read, of⟩ := written.fields fieldNames rfl (by decide) (depth + 1)
  have bytes : ∀ x : List UInt8, (ofBytes x).toNode ≠ .null ∧
      Decoder.bytes (depth + 1) (ofBytes x).toNode = some x :=
    fun x => ⟨by simp [ofBytes, toNode], Decoder.bytes_ofBytes x⟩
  have object : ∀ j ∈ r.object, j.toNode ≠ .null ∧ Decoder.any (depth + 1) j.toNode = some j := by
    intro j hj
    obtain ⟨⟨members, rfl⟩, portable⟩ := h j hj
    simp only [isPortable, Bool.and_eq_true, decide_eq_true_eq] at portable
    exact ⟨by simp [toNode], ofNode?_toNode _ _ portable.1.2 (Nat.le_trans portable.2 hd)⟩
  have id := of.required "id" rfl .text
  have origin := (of.required "origin" rfl .int64).trans (Decoder.int64_ofInt64 r.origin)
  have device := of.required "deviceName" rfl .text
  have resource := of.required "resourceName" rfl .text
  have profile := of.required "profileName" rfl .text
  have type := (of.required "valueType" rfl ValueType.decoder).trans
    (r.type.decoder_name (depth + 1))
  have value := (of.nullable "value" rfl .text).trans
    (Decoder.nullable_orNull (readsText r.value _))
  have binary := (of.nullable "binaryValue" rfl .bytes).trans
    (Decoder.nullable_orNull fun x _ => bytes x)
  have mediaType := (of.nullable "mediaType" rfl .text).trans
    (Decoder.nullable_orNull (readsText r.mediaType _))
  have object := (of.nullable "objectValue" rfl .any).trans (Decoder.nullable_orNull object)
  have units := (of.nullable "units" rfl .text).trans
    (Decoder.nullable_orNull (readsText r.units _))
  have tags := (of.required "tags" rfl (.dict .text)).trans (Decoder.dict_of_perm listing.perm)
  rw [decoder, ← fieldNames, read, Option.bind_eq_bind, Option.bind_some, id, origin, device,
    resource, profile, type, value, binary, mediaType, object, units, tags]
  rfl

/-- A reading is not read when its object is nested too deep for where the reading is. -/
theorem decoder_of_deep {l : Listed} {j : Json} {depth : Nat} (hj : l.reading.object = some j)
    (deep : depth < j.nesting) : decoder (depth + 1) l.toJson.toNode = none := by
  obtain ⟨r, listing⟩ := l
  have written : HasMembers _ (Listed.toJson ⟨r, listing⟩) := hasMembers_obj _
  obtain ⟨fields, read, of⟩ := written.fields fieldNames rfl (by decide) depth
  have full : j.toNode ≠ .null := by
    cases j with
    | null => cases deep
    | _ => simp [toNode]
  have object : fields.nullable "objectValue" .any = none := by
    rw [of.nullable "objectValue" rfl .any, show r.object = some j from hj]
    exact Decoder.nullable_of_unread full (ofNode?_of_deep j depth deep)
  rw [decoder, ← fieldNames, read, Option.bind_eq_bind, Option.bind_some, object]
  simp only [Option.bind_eq_bind, Option.bind_none, Option.bind_fun_none]

/-- The object of a reading is the only part that might have a double in it. -/
theorem isWhole_toJson {l : Listed} (h : ∀ j ∈ l.reading.object, j.isWhole = true) :
    l.toJson.isWhole = true := by
  obtain ⟨r, listing⟩ := l
  have text (o : Option String) : (orNull .str o).isWhole = true := isWhole_orNull fun _ _ => rfl
  have binary : (orNull ofBytes r.binary).isWhole = true :=
    isWhole_orNull fun b _ => isWhole_ofBytes b
  have object : (orNull (fun j => j) r.object).isWhole = true := isWhole_orNull h
  simp [Listed.toJson, isWhole, membersWhole, isWhole_ofInt64, text, binary, object,
    isWhole_ofListing]

end Reading

namespace Event

variable {e : Event} (listings : Listings)

theorem mem_readings_of_listed {l : Reading.Listed} (h : l ∈ e.listed listings) :
    l.reading ∈ e.readings := by
  rw [← e.map_reading_listed listings]
  exact List.mem_map_of_mem h

theorem exists_listed {r : Reading} (h : r ∈ e.readings) :
    ∃ l ∈ e.listed listings, l.reading = r := by
  rw [← e.map_reading_listed listings] at h
  exact List.mem_map.1 h

/-- The names of the fields of an event. -/
def fieldNames : List String :=
  ["id", "deviceName", "profileName", "sourceName", "origin", "readings", "tags"]

theorem decoder_toJson (h : ∀ r ∈ e.readings, r.IsPortable) :
    decoder nestingLimit (e.toJson listings).toNode = some e := by
  have written : HasMembers _ (e.toJson listings) := hasMembers_obj _
  obtain ⟨fields, read, of⟩ := written.fields fieldNames rfl (by decide) 126
  have items : Decoder.list Reading.decoder 126
      (Json.arr ((e.listed listings).map (·.toJson))).toNode = some e.readings := by
    rw [← e.map_reading_listed listings]
    refine Decoder.list_of_forall₂_some ?_
    rw [List.forall₂_map_left_iff, List.forall₂_map_right_iff, List.forall₂_same]
    intro l hl
    exact Reading.decoder_toJson (h _ (mem_readings_of_listed listings hl)) (Nat.le_refl _)
  have id := of.required "id" rfl .text
  have device := of.required "deviceName" rfl .text
  have profile := of.required "profileName" rfl .text
  have source := of.required "sourceName" rfl .text
  have origin := (of.required "origin" rfl .int64).trans (Decoder.int64_ofInt64 e.origin)
  have readings := (of.required "readings" rfl (.list Reading.decoder)).trans items
  have tags := (of.required "tags" rfl (.dict .text)).trans
    (Decoder.dict_of_perm (listings 0 e.tags).perm)
  rw [decoder, ← fieldNames, show nestingLimit = 126 + 1 from rfl, read, Option.bind_eq_bind,
    Option.bind_some, id, device, profile, source, origin, readings, tags]
  rfl

theorem decoder_of_deep {r : Reading} {j : Json} (hr : r ∈ e.readings) (hj : r.object = some j)
    (deep : objectNesting < j.nesting) :
    decoder nestingLimit (e.toJson listings).toNode = none := by
  have written : HasMembers _ (e.toJson listings) := hasMembers_obj _
  obtain ⟨fields, read, of⟩ := written.fields fieldNames rfl (by decide) 126
  obtain ⟨l, hl, rfl⟩ := exists_listed listings hr
  have readings := (of.required "readings" rfl (.list Reading.decoder)).trans
    (Decoder.list_map_of_unread hl (Reading.decoder_of_deep hj deep))
  rw [decoder, ← fieldNames, show nestingLimit = 126 + 1 from rfl, read, Option.bind_eq_bind,
    Option.bind_some, readings]
  simp only [Option.bind_eq_bind, Option.bind_none, Option.bind_fun_none]

theorem isWhole_toJson (h : ∀ r ∈ e.readings, ∀ j ∈ r.object, j.isWhole = true) :
    (e.toJson listings).isWhole = true := by
  have readings : areWhole ((e.listed listings).map (·.toJson)) = true :=
    areWhole_map fun _ hl => Reading.isWhole_toJson (h _ (mem_readings_of_listed listings hl))
  simp [toJson, isWhole, membersWhole, isWhole_ofInt64, readings, isWhole_ofListing]

/-- The payload of an event without binary readings is the event. -/
theorem decodeBytes_text (h : ∀ r ∈ e.readings, r.IsPortable) :
    decodeBytes decoder (Text.utf8 (e.toJson listings).text) = some e := by
  have whole : ∀ r ∈ e.readings, ∀ j ∈ r.object, j.isWhole = true :=
    fun r hr j hj => (h r hr).isWhole hj
  rw [decodeBytes, Node.ofBytes?_utf8, ofText?_text (isWhole_toJson listings whole)]
  exact decoder_toJson listings h

/-- The payload of an event with an object that is nested too deep is refused. -/
theorem decodeBytes_text_of_deep (whole : ∀ r ∈ e.readings, ∀ j ∈ r.object, j.isWhole = true)
    {r : Reading} {j : Json} (hr : r ∈ e.readings) (hj : r.object = some j)
    (deep : objectNesting < j.nesting) :
    decodeBytes decoder (Text.utf8 (e.toJson listings).text) = none := by
  rw [decodeBytes, Node.ofBytes?_utf8, ofText?_text (isWhole_toJson listings whole)]
  exact decoder_of_deep listings hr hj deep

end Event

end FieldGateway
