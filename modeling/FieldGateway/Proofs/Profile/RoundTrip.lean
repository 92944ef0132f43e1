import FieldGateway.Profile.Json
import FieldGateway.Proofs.Json.Members

/-
  Profiles through JSON text. A profile without limits and numeric steps is read back from its text
  as it was written, whatever the order of the members (`Profile.decodeText_text`): what is left out
  when there is nothing to write is read as nothing. The attributes of a resource are any JSON, and
  their nesting decides whether the text is read at all.
-/

namespace FieldGateway

open FieldGateway.Json

/-! ## What is written -/

namespace Properties

/-- The members of the properties, in the order of their declaration. -/
def members (p : Properties) : List (String × Option Json) :=
  let real (x : Floating.Double) : Json := .num (.real x)
  [("valueType", some (.str p.type.name)), ("readWrite", some (.str p.access.name)),
    ("mask", p.mask.map fun m => .num (.whole m.toNat)), ("defaultValue", p.defaultText.map .str),
    ("minimum", p.minimum.map real), ("maximum", p.maximum.map real), ("scale", p.scale.map real),
    ("offset", p.offset.map real), ("base", p.base.map real), ("units", p.units.map .str),
    ("mediaType", p.mediaType.map .str)]

def WrittenAs (p : Properties) (j : Json) : Prop := HasMembers p.members j

end Properties

/-- The JSON of a resource. -/
def Resource.WrittenAs (r : Resource) (j : Json) : Prop :=
  ∃ properties, r.properties.WrittenAs properties ∧
    HasMembers [("name", some (.str r.name)), ("description", some (.str r.description)),
      ("properties", some properties), ("attributes", some r.attributes)] j

def Operation.WrittenAs (o : Operation) (j : Json) : Prop :=
  ∃ mappings : List (String × String), mappings.Perm o.mappings.entries ∧
    HasMembers [("deviceResource", some (.str o.resource)),
      ("defaultValue", o.defaultText.map .str),
      ("mappings", if o.mappings.isEmpty then none
        else some (.obj (mappings.map fun e => (e.1, .str e.2))))] j

def Declaration.WrittenAs (c : Declaration) (j : Json) : Prop :=
  ∃ operations, List.Forall₂ Operation.WrittenAs c.operations operations ∧
    HasMembers [("name", some (.str c.name)), ("readWrite", some (.str c.access.name)),
      ("resourceOperations", some (.arr operations))] j

def Profile.WrittenAs (p : Profile) (j : Json) : Prop :=
  ∃ resources commands, List.Forall₂ Resource.WrittenAs p.resources resources ∧
    List.Forall₂ Declaration.WrittenAs p.commands commands ∧
    HasMembers [("name", some (.str p.name)), ("description", some (.str p.description)),
      ("manufacturer", some (.str p.manufacturer)), ("model", some (.str p.model)),
      ("labels", some (ofTexts p.labels)), ("deviceResources", some (.arr resources)),
      ("deviceCommands", some (.arr commands))] j

/-! ## What the writer writes -/

theorem Properties.writtenAs_toJson (p : Properties) : p.WrittenAs p.toJson := by
  have written : p.toJson = sortedObj (given p.members) := by
    simp only [toJson, members, given_cons_some, given_cons, given_nil, List.append_assoc,
      List.cons_append, List.nil_append, List.append_nil]
  rw [WrittenAs, written]
  exact hasMembers_sortedObj (show List.Nodup ["valueType", "readWrite", "mask", "defaultValue",
    "minimum", "maximum", "scale", "offset", "base", "units", "mediaType"] by decide)

theorem Resource.writtenAs_toJson (r : Resource) : r.WrittenAs r.toJson :=
  ⟨_, r.properties.writtenAs_toJson, hasMembers_sortedObj (by simp)⟩

theorem Operation.writtenAs_toJson (o : Operation) : o.WrittenAs o.toJson := by
  refine ⟨o.mappings.entries, .refl _, ?_⟩
  have mappings : given [("mappings", if o.mappings.isEmpty then none
      else some (.obj (o.mappings.entries.map fun e => (e.1, .str e.2))))] =
        if o.mappings.isEmpty then [] else [("mappings", ofTextMap o.mappings)] := by
    cases o.mappings.isEmpty <;> rfl
  rw [toJson, ← mappings, List.append_assoc, ← given_cons]
  exact hasMembers_sortedObj (by simp)

theorem Declaration.writtenAs_toJson (c : Declaration) : c.WrittenAs c.toJson :=
  ⟨_, List.forall₂_map_right_iff.2 (List.forall₂_same.2 fun o _ => o.writtenAs_toJson),
    hasMembers_sortedObj (by simp)⟩

theorem Profile.writtenAs_toJson (p : Profile) : p.WrittenAs p.toJson :=
  ⟨_, _, List.forall₂_map_right_iff.2 (List.forall₂_same.2 fun r _ => r.writtenAs_toJson),
    List.forall₂_map_right_iff.2 (List.forall₂_same.2 fun c _ => c.writtenAs_toJson),
    hasMembers_sortedObj (by simp)⟩

/-! ## Whole numbers in what is written -/

/-- There are no limits and no numeric steps. -/
structure Properties.IsPlain (p : Properties) : Prop where
  minimum : p.minimum = none
  maximum : p.maximum = none
  scale : p.scale = none
  offset : p.offset = none
  base : p.base = none

/-- A resource that a text can carry as it is. -/
structure Resource.IsPlain (r : Resource) : Prop where
  properties : r.properties.IsPlain
  whole : r.attributes.isWhole = true
  sorted : r.attributes.isSorted = true

theorem Json.isWord_mask (m : UInt64) : (Json.Number.whole m.toNat).isWord = true := by
  have least : leastWhole ≤ (m.toNat : Int) := by
    have : leastWhole ≤ 0 := by decide
    omega
  have greatest : (m.toNat : Int) ≤ greatestWhole := by
    have : greatestWhole = 2 ^ 64 - 1 := rfl
    have := m.toNat_lt
    omega
  simp [Number.isWord, least, greatest]

theorem Properties.WrittenAs.isWhole {p : Properties} {j : Json} (h : p.WrittenAs j)
    (plain : p.IsPlain) : j.isWhole = true := by
  obtain ⟨minimum, maximum, scale, offset, base⟩ := plain
  refine HasMembers.isWhole h ?_
  simp [members, minimum, maximum, scale, offset, base, Json.isWhole, isWord_mask]

theorem Resource.WrittenAs.isWhole {r : Resource} {j : Json} (h : r.WrittenAs j)
    (plain : r.IsPlain) : j.isWhole = true := by
  obtain ⟨written, properties, members⟩ := h
  have typed := Properties.WrittenAs.isWhole properties plain.properties
  exact members.isWhole (by simp [Json.isWhole, typed, plain.whole])

theorem Operation.WrittenAs.isWhole {o : Operation} {j : Json} (h : o.WrittenAs j) :
    j.isWhole = true := by
  obtain ⟨entries, -, members⟩ := h
  have texts : membersWhole (entries.map fun e => (e.1, .str e.2)) = true := by
    rw [membersWhole_iff]
    intro m mem
    obtain ⟨e, -, rfl⟩ := List.mem_map.1 mem
    rfl
  exact members.isWhole (by simp [Json.isWhole, texts])

theorem Declaration.WrittenAs.isWhole {c : Declaration} {j : Json} (h : c.WrittenAs j) :
    j.isWhole = true := by
  obtain ⟨operations, written, members⟩ := h
  have all := areWhole_of_forall₂ (written.imp fun _ _ h => h.isWhole)
  exact members.isWhole (by simp [Json.isWhole, all])

theorem Profile.WrittenAs.isWhole {p : Profile} {j : Json} (h : p.WrittenAs j)
    (plain : ∀ r ∈ p.resources, r.IsPlain) : j.isWhole = true := by
  obtain ⟨resources, commands, writtenResources, writtenCommands, members⟩ := h
  have labels : areWhole (p.labels.map .str) = true := areWhole_map fun _ _ => rfl
  have resources := areWhole_of_forall₂ <|
    ((List.forall₂_and_left ..).2 ⟨plain, writtenResources⟩).imp fun _ _ h => h.2.isWhole h.1
  have commands := areWhole_of_forall₂ (writtenCommands.imp fun _ _ h => h.isWhole)
  exact members.isWhole (by simp [Json.isWhole, ofTexts, labels, resources, commands])

/-! ## Reading back -/

theorem Access.decoder_name (a : Access) (depth : Nat) :
    decoder depth (Json.str a.name).toNode = some a := by
  cases a <;> rfl

theorem Json.Decoder.count_mask (m : UInt64) (depth : Nat) :
    count (Word.greatest 64) depth (Json.num (.whole m.toNat)).toNode = some m.toNat := by
  have below : m.toNat ≤ Word.greatest 64 := Nat.le_pred_of_lt m.toNat_lt
  have fits : (0 : Int) ≤ m.toNat ∧ (m.toNat : Int) ≤ Word.greatest 64 := by omega
  rw [count, toNode, whole, if_pos fits]
  rfl

theorem Properties.WrittenAs.decoded {p : Properties} {j : Json} (h : p.WrittenAs j)
    (plain : p.IsPlain) (depth : Nat) : decoder (depth + 1) j.toNode = some p := by
  obtain ⟨fields, read, of⟩ := h.fields ["valueType", "readWrite", "mask", "defaultValue",
    "minimum", "maximum", "scale", "offset", "base", "units", "mediaType"] rfl (by decide) depth
  have type := (of.required "valueType" rfl _).trans (p.type.decoder_name depth)
  have access := (of.withDefault "readWrite" rfl .readWrite _).trans (p.access.decoder_name depth)
  have slot : p.members.lookup "mask" =
      some ((p.mask.map (·.toNat)).map fun n : Nat => .num (.whole n)) := by
    rw [Option.map_map]
    rfl
  have mask : fields.optional "mask" (.count (Word.greatest 64)) = some (p.mask.map (·.toNat)) := by
    refine of.optional "mask" slot fun n hn => ?_
    obtain ⟨m, -, rfl⟩ := Option.map_eq_some_iff.1 hn
    exact ⟨by simp [toNode], Decoder.count_mask m depth⟩
  have defaultText := of.optional "defaultValue" rfl (readsText p.defaultText depth)
  have units := of.optional "units" rfl (readsText p.units depth)
  have mediaType := of.optional "mediaType" rfl (readsText p.mediaType depth)
  -- what is left out is read as nothing
  have real (name : String) {o : Option Floating.Double} (none : o = none)
      (slot : p.members.lookup name = some (o.map fun x => .num (.real x))) :
      fields.optional name .real = some o := by
    refine of.optional name slot fun x hx => ?_
    rw [none] at hx
    cases hx
  have minimum := real "minimum" plain.minimum rfl
  have maximum := real "maximum" plain.maximum rfl
  have scale := real "scale" plain.scale rfl
  have offset := real "offset" plain.offset rfl
  have base := real "base" plain.base rfl
  have masked : (p.mask.map (·.toNat)).map UInt64.ofNat = p.mask := by simp [Function.comp_def]
  rw [decoder, read, Option.bind_eq_bind, Option.bind_some, type, access, mask, defaultText,
    minimum, maximum, scale, offset, base, units, mediaType]
  simp only [Option.bind_eq_bind, Option.bind_some, masked]

/-- The attributes are read if they are not nested too deep for where they are. -/
theorem Resource.WrittenAs.decoded {r : Resource} {j : Json} (h : r.WrittenAs j)
    (plain : r.properties.IsPlain) (sorted : r.attributes.isSorted = true) (depth : Nat) :
    decoder (depth + 2) j.toNode = if r.attributes.nesting ≤ depth + 1 then some r else none := by
  obtain ⟨written, properties, members⟩ := h
  obtain ⟨fields, read, of⟩ := members.fields ["name", "description", "properties", "attributes"]
    rfl (by decide) (depth + 1)
  have name := of.required "name" rfl .text
  have description := of.withDefault "description" rfl "" .text
  have typed := (of.required "properties" rfl _).trans
    (Properties.WrittenAs.decoded properties plain depth)
  have attributes := of.withDefault "attributes" rfl .null .any
  rw [decoder, read]
  simp only [Option.bind_eq_bind, Option.bind_some, name, description, typed, attributes]
  show (ofNode? (depth + 1) r.attributes.toNode).bind _ = _
  split
  · rename_i shallow
    rw [ofNode?_toNode _ _ sorted shallow]
    rfl
  · rename_i deep
    rw [ofNode?_of_deep _ _ (Nat.lt_of_not_le deep)]
    rfl

theorem Operation.WrittenAs.decoded {o : Operation} {j : Json} (h : o.WrittenAs j) (depth : Nat) :
    decoder (depth + 2) j.toNode = some o := by
  obtain ⟨entries, perm, members⟩ := h
  obtain ⟨fields, read, of⟩ := members.fields ["deviceResource", "defaultValue", "mappings"]
    rfl (by decide) (depth + 1)
  have resource := of.required "deviceResource" rfl .text
  have defaultText := of.optional "defaultValue" rfl (readsText o.defaultText (depth + 1))
  have mappings : fields.withDefault "mappings" ∅ (.dict .text) = some o.mappings := by
    cases empty : o.mappings.isEmpty with
    | true =>
      have none : o.mappings = ∅ := Dict.ext (List.isEmpty_iff.1 empty)
      rw [Fields.withDefault, of.find, none]
      rfl
    | false =>
      refine (of.withDefault "mappings" ?_ ∅ _).trans (Decoder.dict_of_perm perm)
      simp [List.lookup_cons, empty]
  rw [decoder, read]
  simp only [Option.bind_eq_bind, Option.bind_some, resource, defaultText, mappings]
  rfl

theorem Declaration.WrittenAs.decoded {c : Declaration} {j : Json} (h : c.WrittenAs j)
    (depth : Nat) : decoder (depth + 4) j.toNode = some c := by
  obtain ⟨operations, written, members⟩ := h
  obtain ⟨fields, read, of⟩ := members.fields ["name", "readWrite", "resourceOperations"]
    rfl (by decide) (depth + 3)
  have name := of.required "name" rfl .text
  have access := (of.withDefault "readWrite" rfl .readWrite _).trans
    (c.access.decoder_name (depth + 3))
  have operations := (of.withDefault "resourceOperations" rfl [] (.list Operation.decoder)).trans
    (Decoder.list_of_forall₂_some (written.imp fun _ _ h => h.decoded depth))
  rw [decoder, read]
  simp only [Option.bind_eq_bind, Option.bind_some, name, access, operations]
  rfl

/-- A profile puts three arrays and objects around the attributes of a resource. -/
def Profile.attributeNesting : Nat := nestingLimit - 3

theorem Profile.WrittenAs.decoded {p : Profile} {j : Json} (h : p.WrittenAs j)
    (plain : ∀ r ∈ p.resources, r.IsPlain) :
    decoder nestingLimit j.toNode =
      if ∀ r ∈ p.resources, r.attributes.nesting ≤ attributeNesting then some p else none := by
  obtain ⟨resources, commands, writtenResources, writtenCommands, members⟩ := h
  obtain ⟨fields, read, of⟩ := members.fields ["name", "description", "manufacturer", "model",
    "labels", "deviceResources", "deviceCommands"] rfl (by decide) 126
  have name := of.required "name" rfl .text
  have description := of.withDefault "description" rfl "" .text
  have manufacturer := of.withDefault "manufacturer" rfl "" .text
  have model := of.withDefault "model" rfl "" .text
  have texts : Decoder.list .text 126 (ofTexts p.labels).toNode = some p.labels :=
    Decoder.list_map fun _ _ => rfl
  have labels := (of.withDefault "labels" rfl [] (.list .text)).trans texts
  have commands := (of.withDefault "deviceCommands" rfl [] (.list Declaration.decoder)).trans
    (Decoder.list_of_forall₂_some (writtenCommands.imp fun _ _ h => h.decoded 121))
  have each : List.Forall₂ (fun r j => Resource.decoder 125 j.toNode =
      if r.attributes.nesting ≤ attributeNesting then some r else none) p.resources resources :=
    ((List.forall₂_and_left ..).2 ⟨plain, writtenResources⟩).imp fun _ _ h =>
      h.2.decoded h.1.properties h.1.sorted 123
  have resources := (of.withDefault "deviceResources" rfl [] (.list Resource.decoder)).trans
    (Decoder.list_of_forall₂ each)
  rw [decoder, show nestingLimit = 126 + 1 from rfl, read]
  simp only [Option.bind_eq_bind, Option.bind_some, name, description, manufacturer, model, labels,
    resources, commands]
  show (ite _ _ _ : Option (List Resource)).bind _ = _
  split <;> rfl

/-- A profile is read back from its text, unless the attributes of a resource are nested too deep.
The members of an object, and the entries of a map, may have been written in any order. -/
theorem Profile.decodeText_text {p : Profile} (plain : ∀ r ∈ p.resources, r.IsPlain) :
    p.WrittenAs p.toJson ∧ ∀ j, p.WrittenAs j → decodeText decoder j.text =
      if ∀ r ∈ p.resources, r.attributes.nesting ≤ attributeNesting then some p else none := by
  refine ⟨p.writtenAs_toJson, fun j written => ?_⟩
  rw [decodeText, ofText?_text (written.isWhole plain)]
  exact written.decoded plain

/-- A profile of a switch, with attributes, a mask and mappings. -/
theorem Profile.switch_read_back :
    let r : Resource :=
      { name := "Switch", properties := { type := .scalar (.int .uint8), mask := some 1 },
        attributes := .obj [("register", .arr [.num (.whole (-3)), .null])] }
    let o : Operation :=
      { resource := "Switch", mappings := Dict.ofList [("1", "on"), ("0", "off")] }
    let p : Profile :=
      { name := "Lamp", labels := ["indoor"], resources := [r],
        commands := [{ name := "State", access := .read, operations := [o] }] }
    (∀ r ∈ p.resources, r.IsPlain) ∧ decodeText decoder p.toJson.text = some p := by
  intro r o p
  have plain : ∀ r ∈ p.resources, r.IsPlain := by
    intro x hx
    obtain rfl : x = r := List.mem_singleton.1 hx
    exact ⟨⟨rfl, rfl, rfl, rfl, rfl⟩, by decide, by decide⟩
  obtain ⟨written, reads⟩ := decodeText_text plain
  exact ⟨plain, (reads _ written).trans (if_pos (by decide))⟩

end FieldGateway
