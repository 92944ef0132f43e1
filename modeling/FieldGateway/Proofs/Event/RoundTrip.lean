import FieldGateway.Proofs.Event.Json
import FieldGateway.Proofs.Event.Layout
import FieldGateway.Service.Reading

/-
  What a subscriber reads of a cooked event (`Kitchen.decode_cook`): the very event, in whatever
  order its tags were written, unless it has a binary reading, for which its payload is in bytes,
  and beside it a reading with an object, which cannot be read from bytes. Then the payload is
  refused.

  An event without binary readings is JSON, and its payload is the very event as long as no object
  in it is nested too deep (`CookedEvent.decode_plain`). An event with binary readings and no object
  is the very event also where more bytes follow its payload (`CookedEvent.decode_binary`).
-/

namespace FieldGateway

/-! ## Values that an event can carry -/

/-- Nothing but an object might not be carried. Its members are in order where it comes out of a
map; its numbers have to be whole, and it may not be nested too deep. -/
def Value.IsPortable : Value → Prop
  | .object members => (Json.obj members).isPortable = true
  | _ => True

/-- An engine that presents no object that an event cannot carry, unless it was given one. -/
def TransformEngine.KeepsPortable (t : TransformEngine) : Prop :=
  ∀ p v w, v.IsPortable → t.outgoing p v = .ok w → w.IsPortable

/-- What a mask shows is a whole number. -/
theorem Mask.isPortable_readValue {m : Mask} {v w : Value} (h : m.readValue v = some w) :
    w.IsPortable := by
  obtain ⟨bits, -, hw⟩ := Option.bind_eq_some_iff.1 h
  unfold Value.ofBits? at hw
  split at hw
  · cases hw
    trivial
  · cases hw

namespace Step

/-- The value that the mask of a step leaves. -/
def masked (step : Step) (value : Value) : Value :=
  match step.request.mask with
  | some m => (m.readValue value).getD value
  | none => value

theorem isPortable_masked (step : Step) {v : Value} (h : v.IsPortable) :
    (step.masked v).IsPortable := by
  unfold masked
  split
  · rename_i m _
    cases hm : m.readValue v with
    | none => exact h
    | some w => exact Mask.isPortable_readValue hm
  · exact h

end Step

namespace Transform

theorem isPortable_ofDouble {type : ValueType} {v : Floating.Double} {w : Value}
    (h : ofDouble type v = .ok w) : w.IsPortable := by
  unfold ofDouble at h
  dsimp only at h
  split at h
  case isFalse => cases h
  split at h
  · split at h <;> cases h
    trivial
  · split at h <;> cases h
    trivial
  · cases h
    trivial
  · cases h

theorem keepsPortable_standard : standard.KeepsPortable := by
  intro p v w hv h
  change outgoing p v = .ok w at h
  unfold outgoing onNumber at h
  split at h
  · split at h
    · exact isPortable_ofDouble h
    · cases h
      exact hv
  · cases h
    exact hv

theorem isPortable_mapReading {mappings : TextMap} {v : Value} (h : v.IsPortable) :
    (mapReading mappings v).IsPortable := by
  unfold mapReading
  split
  · exact h
  split
  · trivial
  · exact h

end Transform

theorem Reading.isPortable_ofValue {v : Value} (h : v.IsPortable)
    (id device profile resource : String) (origin : Int64) (p : Properties) (tags : TextMap) :
    (ofValue id device profile resource v origin p tags).IsPortable := by
  cases v with
  | object members =>
    rintro j ⟨⟩
    exact ⟨⟨members, rfl⟩, h⟩
  | _ => exact nofun

namespace Reading

/-- The object of the reading, if it has one, comes out of a map and has whole numbers only. -/
def IsExact (r : Reading) : Prop :=
  ∀ j ∈ r.object, (∃ members, j = .obj members) ∧ j.isWhole = true ∧ j.isSorted = true

/-- How many arrays and objects lie inside one another in the object of the reading. -/
def nesting (r : Reading) : Nat := r.object.elim 0 Json.nesting

theorem IsExact.isPortable {r : Reading} (h : r.IsExact)
    (shallow : r.nesting ≤ Event.objectNesting) : r.IsPortable := by
  intro j hj
  obtain ⟨isObject, whole, sorted⟩ := h j hj
  rw [nesting, Option.mem_def.1 hj, Option.elim_some] at shallow
  exact ⟨isObject, by simp [Json.isPortable, whole, sorted, shallow]⟩

/-- Only an object is nested. -/
theorem object_of_deep {r : Reading} {depth : Nat} (deep : depth < r.nesting) :
    ∃ j, r.object = some j ∧ depth < j.nesting := by
  unfold nesting at deep
  cases hr : r.object with
  | none =>
    rw [hr] at deep
    cases deep
  | some j =>
    rw [hr] at deep
    exact ⟨j, rfl, deep⟩

end Reading

/-! ## Encoding -/

def Event.hasObject (e : Event) : Bool := e.readings.any fun r => r.object.isSome

theorem CookedEvent.event_encode (e : Event) (listings : Listings) :
    (encode e listings).event = e := by
  unfold encode
  split <;> rfl

theorem CookedEvent.decode_encode {e : Event} (h : ∀ r ∈ e.readings, r.IsPortable)
    {listings : Listings} (size : (encode e listings).size < twoPow 64) :
    Event.decode (encode e listings).encoding.contentType (encode e listings).payload =
      if e.hasBinary && e.hasObject then .error .malformed else .ok e := by
  unfold CookedEvent.size encode at *
  cases binary : e.hasBinary with
  | false =>
    rw [if_neg Bool.false_ne_true, Event.decode, if_pos rfl, Event.decodeBytes_text listings h]
    rfl
  | true =>
    rw [binary] at size
    have read := (Event.Layout.event_codec listings).back e [] size
    have other : EventEncoding.binary.contentType ≠ EventEncoding.json.contentType := by decide
    rw [if_pos rfl, Event.decode, if_neg other, if_pos rfl, read, Bool.true_and, Event.hasObject]
    split <;> rfl

/-- Without binary readings the payload is JSON, and the nesting of the objects in the event
decides whether it is read: what is read is the very event, in whatever order its tags were
written. -/
theorem CookedEvent.decode_plain {e : Event} (plain : e.hasBinary = false)
    (exact : ∀ r ∈ e.readings, r.IsExact) (listings : Listings) :
    (encode e listings).encoding = .json ∧
    Event.decode "application/json" (encode e listings).payload =
      if ∀ r ∈ e.readings, r.nesting ≤ Event.objectNesting then .ok e else .error .malformed := by
  have encoded : encode e listings = ⟨.json, Text.utf8 (e.toJson listings).text, e⟩ := by
    rw [encode, plain, if_neg Bool.false_ne_true]
  have json : "application/json" = EventEncoding.json.contentType := rfl
  rw [encoded, Event.decode, if_pos json]
  refine ⟨rfl, ?_⟩
  split
  · rename_i shallow
    rw [Event.decodeBytes_text listings fun r hr => (exact r hr).isPortable (shallow r hr)]
  · rename_i notAll
    obtain ⟨r, hr, deep⟩ : ∃ r ∈ e.readings, Event.objectNesting < r.nesting := by
      simpa using notAll
    obtain ⟨j, hj, deep⟩ := Reading.object_of_deep deep
    have whole : ∀ r ∈ e.readings, ∀ j ∈ r.object, j.isWhole = true :=
      fun r hr j hj => (exact r hr j hj).2.1
    rw [Event.decodeBytes_text_of_deep listings whole hr hj deep]

/-- A text with escapes and no value, an object, the least time, and tags that are written from the
last one to the first. -/
theorem CookedEvent.decode_plain_of_two :
    let text : Reading :=
      { id := "1", origin := Int64.minValue, device := "p\"1\"", resource := "Läbel\n",
        profile := "", type := .array .string, value := some "[\"a,\",\"\\\\\"]", binary := none,
        mediaType := none, object := none, units := some "µm",
        tags := Dict.ofList [("k", "\u0000"), ("line", "7"), ("", "\"")] }
    let object : Reading :=
      { text with
        type := .object, value := none, units := none
        object := some (.obj [("a", .arr [.num (.whole (-1)), .null]), ("b", .obj [])]) }
    let e : Event :=
      { id := "0", device := "p\"1\"", profile := "", source := "All", origin := Int64.minValue,
        readings := [text, object], tags := ∅ }
    let backwards : Listings := fun _ m => ⟨m.entries.reverse, m.entries.reverse_perm⟩
    e.hasBinary = false ∧ (∀ r ∈ e.readings, r.IsExact) ∧
      (encode e backwards).encoding = .json ∧
      Event.decode "application/json" (encode e backwards).payload = .ok e := by
  intro text object e backwards
  have exact : ∀ r ∈ e.readings, r.IsExact := by
    have first : text.IsExact := by
      rintro j ⟨⟩
    have second : object.IsExact := by
      rintro j ⟨⟩
      exact ⟨⟨_, rfl⟩, by decide, by decide⟩
    simp [e, first, second]
  have shallow : ∀ r ∈ e.readings, r.nesting ≤ Event.objectNesting := by
    have first : text.nesting ≤ Event.objectNesting := by decide
    have second : object.nesting ≤ Event.objectNesting := by decide
    simp [e, first, second]
  obtain ⟨json, read⟩ := decode_plain (e := e) rfl exact backwards
  rw [if_pos shallow] at read
  exact ⟨rfl, exact, json, read⟩

/-- With a binary reading the payload is in bytes, and the very event is read from it, in whatever
order its tags were written, and whatever follows. The size is a word, as every length in the
payload is written as one. -/
theorem CookedEvent.decode_binary {e : Event} (binary : e.hasBinary = true)
    (plain : e.hasObject = false) (listings : Listings)
    (size : (encode e listings).size < twoPow 64) (more : List UInt8) :
    (encode e listings).encoding = .binary ∧
    Event.decode "application/octet-stream" ((encode e listings).payload ++ more) = .ok e := by
  have encoded : encode e listings = ⟨.binary, Event.Layout.putEvent e listings [], e⟩ := by
    rw [encode, binary, if_pos rfl]
  have other : "application/octet-stream" ≠ EventEncoding.json.contentType := by decide
  have bytes : "application/octet-stream" = EventEncoding.binary.contentType := rfl
  rw [encoded] at size ⊢
  have read : Event.Layout.takeEvent (Event.Layout.putEvent e listings []) = some (e, []) := by
    rw [(Event.Layout.event_codec listings).back e [] size, ← Event.hasObject, plain]
    rfl
  have followed := Event.Layout.Local.event.behind read more
  rw [Event.decode, if_neg other, if_pos bytes, followed]
  exact ⟨rfl, rfl⟩

/-- A byte string beside a list of texts, tags that are written from the last one to the first, and
two bytes that follow. -/
theorem CookedEvent.decode_binary_of_two :
    let image : Reading :=
      { id := "1", origin := Int64.maxValue, device := "cam\"1\"", resource := "Bïld",
        profile := "camera", type := .binary, value := none, binary := some [255, 0, 216],
        mediaType := some "image/jpeg", object := none, units := none,
        tags := Dict.ofList [("k", "\u0000"), ("", "v")] }
    let label : Reading :=
      { image with
        type := .array .string, value := some "[\"a\",\"\"]", binary := none, mediaType := none
        units := some "µm", tags := ∅ }
    let e : Event :=
      { id := "0", device := "cam\"1\"", profile := "camera", source := "All",
        origin := Int64.minValue, readings := [image, label], tags := Dict.ofList [("site", "7")] }
    let backwards : Listings := fun _ m => ⟨m.entries.reverse, m.entries.reverse_perm⟩
    e.hasBinary = true ∧ e.hasObject = false ∧ (encode e backwards).size < twoPow 64 ∧
      (encode e backwards).encoding = .binary ∧
      Event.decode "application/octet-stream" ((encode e backwards).payload ++ [1, 0]) = .ok e := by
  intro image label e backwards
  have size : (encode e backwards).size < twoPow 64 := by decide +kernel
  exact ⟨rfl, rfl, size, decode_binary (e := e) rfl rfl backwards size [1, 0]⟩

/-! ## Cooking -/

theorem Except.bind_eq_ok {ε α β : Type} {x : Except ε α} {f : α → Except ε β} {b : β}
    (h : x >>= f = .ok b) : ∃ a, x = .ok a ∧ f a = .ok b := by
  cases x with
  | error e => cases h
  | ok a => exact ⟨a, rfl, h⟩

namespace Kitchen

variable {k : Kitchen}

/-- What is shown is the masked value, or what the engine makes of it, mapped. -/
theorem shown_eq_ok {step : Step} {result : Result} {v : Value}
    (h : k.shown step result = .ok v) :
    ∃ w, v = Transform.mapReading step.mappings w ∧
      (k.transforms.outgoing step.properties (step.masked result.value) = .ok w ∨
        w = step.masked result.value) := by
  unfold shown at h
  dsimp only at h
  split at h
  · split at h
    · rename_i w hw
      cases h
      exact ⟨w, rfl, .inl hw⟩
    · cases h
  · cases h
    exact ⟨_, rfl, .inr rfl⟩

theorem isPortable_shown (keeps : k.transforms.KeepsPortable) {step : Step} {result : Result}
    {v : Value} (h : result.value.IsPortable) (hv : k.shown step result = .ok v) :
    v.IsPortable := by
  have masked := step.isPortable_masked h
  rcases shown_eq_ok hv with ⟨w, rfl, hw | rfl⟩
  · exact Transform.isPortable_mapReading (keeps _ _ _ masked hw)
  · exact Transform.isPortable_mapReading masked

theorem isPortable_readings (keeps : k.transforms.KeepsPortable) {device profile : String}
    {pairs : List (Step × Result)} (h : ∀ p ∈ pairs, p.2.value.IsPortable) {number : Nat}
    {rs : List Reading} (hr : k.readings device profile number pairs = .ok rs) :
    ∀ r ∈ rs, r.IsPortable := by
  induction pairs generalizing number rs with
  | nil =>
    cases hr
    intro r hr
    cases hr
  | cons p pairs ih =>
    obtain ⟨step, result⟩ := p
    obtain ⟨v, hv, hr⟩ := Except.bind_eq_ok hr
    obtain ⟨rest, hrest, hr⟩ := Except.bind_eq_ok hr
    cases hr
    have first : v.IsPortable := isPortable_shown keeps (h _ List.mem_cons_self) hv
    have others := ih (fun p hp => h p (List.mem_cons_of_mem _ hp)) hrest
    exact List.forall_mem_cons.2 ⟨Reading.isPortable_ofValue first _ _ _ _ _ _ _, others⟩

theorem isPortable_event (keeps : k.transforms.KeepsPortable) {device : String} {c : Command}
    {results : List Result} (h : ∀ r ∈ results, r.value.IsPortable) {e : Event}
    (he : k.event device c results = .ok e) : ∀ r ∈ e.readings, r.IsPortable := by
  obtain ⟨rs, hrs, he⟩ := Except.bind_eq_ok he
  cases he
  exact isPortable_readings keeps (fun p hp => h p.2 (List.of_mem_zip hp).2) hrs

/-- What is cooked is the encoded event, whatever the greatest size is. -/
theorem cook_eq_ok {device : String} {c : Command} {results : List Result} {cooked : CookedEvent}
    (h : k.cook device c results = .ok cooked) :
    ∃ e, k.event device c results = .ok e ∧ cooked = CookedEvent.encode e k.listings := by
  obtain ⟨e, he, h⟩ := Except.bind_eq_ok h
  refine ⟨e, he, ?_⟩
  dsimp only at h
  split at h
  · split at h <;> cases h
    rfl
  · cases h
    rfl

/-- Whatever values and tags a command was answered with, and in whatever order the kitchen writes
the tags, the payload of the cooked event is the event of these answers, but that an object beside
a binary reading makes it unreadable. The size is a word, as every length in the payload is written
as one. -/
theorem decode_cook (keeps : k.transforms.KeepsPortable) {device : String} {c : Command}
    {results : List Result} (h : ∀ r ∈ results, r.value.IsPortable) {cooked : CookedEvent}
    (hc : k.cook device c results = .ok cooked) (size : cooked.size < twoPow 64) :
    k.event device c results = .ok cooked.event ∧
    Event.decode cooked.encoding.contentType cooked.payload =
      if cooked.event.hasBinary && cooked.event.hasObject then .error .malformed
      else .ok cooked.event := by
  obtain ⟨e, he, rfl⟩ := cook_eq_ok hc
  have portable : ∀ r ∈ e.readings, r.IsPortable := isPortable_event keeps h he
  rw [CookedEvent.event_encode]
  exact ⟨he, CookedEvent.decode_encode portable size⟩

/-- An object beside a byte string, and tags that are written from the last one to the first. -/
theorem decode_cook_mixed :
    let step (resource : String) (type : ValueType) : Step :=
      ⟨⟨resource, .null, type, none⟩, { type }, ∅, none⟩
    let k : Kitchen :=
      { dataTransform := true, maxEventSize := none, transforms := Transform.standard, number := 0,
        time := 0, listings := fun _ m => ⟨m.entries.reverse, m.entries.reverse_perm⟩ }
    let c : Command := ⟨"all", .get, "camera", [step "image" .binary, step "state" .object]⟩
    let image : Result :=
      { value := .binary [1, 2], tags := Dict.ofList [("line", "7"), ("site", "north")] }
    let state : Result := { value := .object [("zoom", .num (.whole 3))] }
    ∃ cooked, k.cook "cam1" c [image, state] = .ok cooked ∧
      Event.decode cooked.encoding.contentType cooked.payload = .error .malformed := by
  intro step k c image state
  let cooked := CookedEvent.encode
    { id := Text.identifier 0, device := "cam1", profile := "camera", source := "all", origin := 0,
      readings := [
        Reading.ofValue (Text.identifier 1) "cam1" "camera" "image" image.value 0
          { type := .binary } image.tags,
        Reading.ofValue (Text.identifier 2) "cam1" "camera" "state" state.value 0
          { type := .object } ∅],
      tags := ∅ } k.listings
  have hc : k.cook "cam1" c [image, state] = .ok cooked := rfl
  have size : cooked.size < twoPow 64 := by decide +kernel
  have portable : ∀ r ∈ [image, state], r.value.IsPortable := by
    simp [image, state, Value.IsPortable]
    decide
  have mixed : (cooked.event.hasBinary && cooked.event.hasObject) = true := rfl
  refine ⟨cooked, hc, ?_⟩
  rw [(decode_cook Transform.keepsPortable_standard portable hc size).2, if_pos mixed]

end Kitchen

end FieldGateway
