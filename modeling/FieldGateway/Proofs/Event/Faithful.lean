import FieldGateway.Proofs.Event.RoundTrip
import FieldGateway.Proofs.Value.Mask
import Mathlib.Data.List.Forall2

/-
  What a cooked event says. Each of its readings comes of one result and of the step at the same
  place: the value passes the mask, the transforms and the mappings of that step, in this order,
  and is put down in the one field for values of its kind (`Reading.Of`). A result without a step
  would have nothing to be cooked with. `Kitchen.cookByPlace` looks the steps up one by one, as
  cooking does, and comes to nothing where one is missing; with a result for each step none is
  (`cookByPlace_eq`).
-/

namespace FieldGateway

/-! ## Values -/

/-- The value that a mask leaves: the masked bits of a whole number, and anything else as it was. -/
inductive Step.Masks (step : Step) (v : Value) : Value → Prop
  | whole {m : Mask} {bits : Value} (mask : step.request.mask = some m)
      (integer : v.type.isInteger = true) (read : m.readValue v = some bits) : Masks step v bits
  | plain (unmasked : step.request.mask = none ∨ v.type.isInteger = false) : Masks step v v

theorem Step.masks_masked (step : Step) (v : Value) : step.Masks v (step.masked v) := by
  unfold masked
  cases mask : step.request.mask with
  | none => exact .plain (.inl mask)
  | some m =>
    dsimp only
    cases integer : v.type.isInteger with
    | false =>
      rw [Mask.readValue_eq_none_iff.2 integer]
      exact .plain (.inr integer)
    | true =>
      obtain ⟨t, x, y, rfl, read⟩ := Mask.readValue_cases (m := m) integer
      rw [read]
      exact .whole mask integer read

/-- The value that is presented for another one, by a service that transforms or does not. -/
inductive Kitchen.Presents (k : Kitchen) (step : Step) (v : Value) : Value → Prop
  | transformed {w : Value} (on : k.dataTransform = true)
      (outgoing : k.transforms.outgoing step.properties v = .ok w) : Presents k step v w
  | raw (off : k.dataTransform = false) : Presents k step v v

theorem Kitchen.presents_of_shown {k : Kitchen} {step : Step} {result : Result} {v : Value}
    (h : k.shown step result = .ok v) :
    ∃ masked presented, step.Masks result.value masked ∧ k.Presents step masked presented ∧
      v = Transform.mapReading step.mappings presented := by
  refine ⟨step.masked result.value, ?_⟩
  have masks := step.masks_masked result.value
  unfold shown at h
  dsimp only at h
  split at h
  · rename_i on
    split at h
    · rename_i w outgoing
      cases h
      exact ⟨w, masks, .transformed on outgoing, rfl⟩
    · cases h
  · rename_i off
    cases h
    exact ⟨_, masks, .raw (eq_false_of_ne_true off), rfl⟩

/-! ## Readings -/

/-- How many of the three fields for values are set. -/
def Reading.fieldsSet (r : Reading) : Nat :=
  r.value.isSome.toNat + r.binary.isSome.toNat + r.object.isSome.toNat

/-- The reading carries a value in the field for values of its kind. -/
def Reading.Carries (r : Reading) : Value → Prop
  | .binary bytes => r.binary = some bytes
  | .object members => r.object = some (.obj members)
  | v => r.value = some v.encode

/-- The reading that a result and its step come to, in an event of this time. -/
structure Reading.Of (k : Kitchen) (name : String) (c : Command) (step : Step) (result : Result)
    (r : Reading) : Prop where
  resource : r.resource = step.request.resource
  device : r.device = name
  profile : r.profile = c.profileName
  tags : r.tags = result.tags
  origin : r.origin = result.origin.getD k.time
  units : r.units = step.properties.units
  /-- Mask, transforms, mappings. -/
  shows : ∃ masked presented, step.Masks result.value masked ∧ k.Presents step masked presented ∧
    r.type = (Transform.mapReading step.mappings presented).type ∧
    r.Carries (Transform.mapReading step.mappings presented)
  single : r.fieldsSet = 1

theorem Reading.carries_ofValue (id device profile resource : String) (v : Value) (origin : Int64)
    (p : Properties) (tags : TextMap) :
    let r := ofValue id device profile resource v origin p tags
    r.type = v.type ∧ r.Carries v ∧ r.fieldsSet = 1 := by
  cases v <;> exact ⟨rfl, rfl, rfl⟩

theorem Reading.of_shown {k : Kitchen} {device : String} {c : Command} {step : Step}
    {result : Result} {v : Value} (h : k.shown step result = .ok v) (id : String) :
    Reading.Of k device c step result (ofValue id device c.profileName step.request.resource v
      (result.origin.getD k.time) step.properties result.tags) := by
  obtain ⟨masked, presented, masks, presents, rfl⟩ := Kitchen.presents_of_shown h
  obtain ⟨type, carries, single⟩ := carries_ofValue id device c.profileName step.request.resource
    (Transform.mapReading step.mappings presented) (result.origin.getD k.time) step.properties
    result.tags
  refine ⟨?_, ?_, ?_, ?_, ?_, ?_, ⟨masked, presented, masks, presents, type, carries⟩, single⟩ <;>
    cases Transform.mapReading step.mappings presented <;> rfl

/-! ## Events -/

/-- What an event says that was cooked of these results. -/
structure CookedEvent.Of (k : Kitchen) (name : String) (c : Command) (results : List Result)
    (e : CookedEvent) : Prop where
  device : e.event.device = name
  profile : e.event.profile = c.profileName
  source : e.event.source = c.name
  origin : e.event.origin = k.time
  count : e.event.readings.length = c.size
  readings {i : Nat} {step : Step} {result : Result} (hs : c.steps[i]? = some step)
    (hr : results[i]? = some result) :
    ∃ r, e.event.readings[i]? = some r ∧ Reading.Of k name c step result r
  /-- The payload is that of the event, its tags in the order in which the kitchen lists them. -/
  encoded : e = CookedEvent.encode e.event k.listings
  binary_iff : e.encoding = .binary ↔ ∃ r ∈ e.event.readings, r.binary.isSome = true
  bounded {max : Nat} (limit : k.maxEventSize = some max) : e.payload.length ≤ max

theorem CookedEvent.encoding_encode (e : Event) (listings : Listings) :
    (encode e listings).encoding = .binary ↔ ∃ r ∈ e.readings, r.binary.isSome = true := by
  have binary : e.hasBinary = true ↔ ∃ r ∈ e.readings, r.binary.isSome = true := List.any_eq_true
  rw [← binary]
  unfold encode
  cases e.hasBinary with
  | false => exact ⟨nofun, nofun⟩
  | true => exact ⟨fun _ => rfl, fun _ => rfl⟩

/-- What is at a place of the one list has a counterpart at that place of the other. -/
theorem exists_getElem?_of_forall₂ {α β : Type} {R : α → β → Prop} {xs : List α} {ys : List β}
    (h : List.Forall₂ R xs ys) {i : Nat} {x : α} (hx : xs[i]? = some x) :
    ∃ y, ys[i]? = some y ∧ R x y := by
  induction h generalizing i with
  | nil => cases hx
  | cons hxy _ ih =>
    cases i with
    | zero =>
      cases hx
      exact ⟨_, rfl, hxy⟩
    | succ i => exact ih hx

namespace Kitchen

variable {k : Kitchen} {device : String} {c : Command}

theorem readings_of {pairs : List (Step × Result)} {number : Nat} {rs : List Reading}
    (h : k.readings device c.profileName number pairs = .ok rs) :
    List.Forall₂ (fun p r => Reading.Of k device c p.1 p.2 r) pairs rs := by
  induction pairs generalizing number rs with
  | nil =>
    cases h
    exact .nil
  | cons p pairs ih =>
    obtain ⟨step, result⟩ := p
    obtain ⟨v, shown, h⟩ := Except.bind_eq_ok h
    obtain ⟨rest, others, h⟩ := Except.bind_eq_ok h
    cases h
    exact .cons (Reading.of_shown shown _) (ih others)

/-- The event of these readings. -/
def plate (k : Kitchen) (device : String) (c : Command) (readings : List Reading) : Event :=
  { id := Text.identifier k.number, device, profile := c.profileName, source := c.name,
    origin := k.time, readings, tags := ∅ }

/-- What becomes of readings: their event, unless it is too large. -/
def serve (k : Kitchen) (device : String) (c : Command) (readings : List Reading) :
    Except CommandError CookedEvent :=
  let cooked := CookedEvent.encode (k.plate device c readings) k.listings
  match k.maxEventSize with
  | some max => if max < cooked.size then .error (.eventTooLarge cooked.size max) else .ok cooked
  | none => .ok cooked

theorem cook_eq (k : Kitchen) (device : String) (c : Command) (results : List Result) :
    k.cook device c results =
      k.readings device c.profileName (k.number + 1) (c.steps.zip results) >>=
        k.serve device c := by
  unfold cook event
  cases k.readings device c.profileName (k.number + 1) (c.steps.zip results) <;> rfl

theorem serve_eq_ok {readings : List Reading} {e : CookedEvent}
    (h : k.serve device c readings = .ok e) :
    e = CookedEvent.encode (k.plate device c readings) k.listings ∧
      ∀ max, k.maxEventSize = some max → e.payload.length ≤ max := by
  unfold serve at h
  dsimp only at h
  split at h
  · rename_i max limit
    split at h
    · cases h
    · rename_i fits
      cases h
      refine ⟨rfl, fun max' limit' => ?_⟩
      obtain rfl : max = max' := Option.some.inj (limit.symm.trans limit')
      exact Nat.le_of_not_lt fits
  · rename_i unlimited
    cases h
    refine ⟨rfl, fun max limit => ?_⟩
    rw [unlimited] at limit
    cases limit

/-- An event that was cooked of a result for each step says what these results come to. -/
theorem cook_of {results : List Result} (complete : results.length = c.size) {e : CookedEvent}
    (h : k.cook device c results = .ok e) : CookedEvent.Of k device c results e := by
  rw [cook_eq] at h
  obtain ⟨rs, cooked, served⟩ := Except.bind_eq_ok h
  obtain ⟨same, bounded⟩ := serve_eq_ok served
  have plated : e.event = k.plate device c rs := by rw [same, CookedEvent.event_encode]
  have readings := readings_of cooked
  have count : rs.length = c.size := by
    rw [← readings.length_eq, List.length_zip, complete]
    exact Nat.min_self _
  exact
    { device := by rw [plated]; rfl
      profile := by rw [plated]; rfl
      source := by rw [plated]; rfl
      origin := by rw [plated]; rfl
      count := by rw [plated]; exact count
      readings := fun {i step result} hs hr => by
        have pair : (c.steps.zip results)[i]? = some (step, result) :=
          List.getElem?_zip_eq_some.2 ⟨hs, hr⟩
        rw [plated]
        exact exists_getElem?_of_forall₂ readings pair
      encoded := by rw [plated, same]
      binary_iff := by rw [plated, same]; exact CookedEvent.encoding_encode _ _
      bounded := fun {max} => bounded max }

/-! ## Steps looked up by their places -/

/-- The readings of the results from a place on, the step of each being looked up at its place;
nothing if there is none. -/
def readingsByPlace (k : Kitchen) (device : String) (c : Command) :
    (place : Nat) → List Result → Option (Except CommandError (List Reading))
  | _, [] => some (.ok [])
  | place, result :: rest =>
    match c.steps[place]? with
    | none => none
    | some step =>
      match k.shown step result with
      | .error e => some (.error e)
      | .ok value =>
        let reading := Reading.ofValue (Text.identifier (k.number + 1 + place)) device
          c.profileName step.request.resource value (result.origin.getD k.time) step.properties
          result.tags
        (readingsByPlace k device c (place + 1) rest).map (·.map (reading :: ·))

/-- Cooks with steps that are looked up by their places; nothing if a step is missing. -/
def cookByPlace (k : Kitchen) (device : String) (c : Command) (results : List Result) :
    Option (Except CommandError CookedEvent) :=
  (k.readingsByPlace device c 0 results).map (· >>= k.serve device c)

theorem readingsByPlace_eq {place : Nat} {results : List Result}
    (enough : place + results.length ≤ c.steps.length) :
    k.readingsByPlace device c place results = some (k.readings device c.profileName
      (k.number + 1 + place) ((c.steps.drop place).zip results)) := by
  induction results generalizing place with
  | nil =>
    rw [List.zip_nil_right]
    rfl
  | cons result rest ih =>
    have here : place < c.steps.length := by
      rw [List.length_cons] at enough
      omega
    have onward : place + 1 + rest.length ≤ c.steps.length := by
      rw [List.length_cons] at enough
      omega
    rw [List.drop_eq_getElem_cons here, List.zip_cons_cons]
    unfold readingsByPlace readings
    rw [List.getElem?_eq_getElem here, ih onward]
    dsimp only
    cases k.shown c.steps[place] result with
    | error e => rfl
    | ok v =>
      show some (Except.map _ (k.readings device c.profileName (k.number + 1 + place + 1) _)) =
        some (k.readings device c.profileName (k.number + 1 + place + 1) _ >>= _)
      cases k.readings device c.profileName (k.number + 1 + place + 1)
        ((c.steps.drop (place + 1)).zip rest) <;> rfl

/-- With a result for each step, every step is found. -/
theorem cookByPlace_eq {results : List Result} (complete : results.length = c.size) :
    k.cookByPlace device c results = some (k.cook device c results) := by
  have enough : 0 + results.length ≤ c.steps.length := by
    rw [complete, Nat.zero_add]
    exact Nat.le_refl _
  unfold cookByPlace
  rw [readingsByPlace_eq enough, cook_eq]
  rfl

/-- A result more than there are steps: there is nothing to cook it with. -/
example (k : Kitchen) (device : String) (result : Result) :
    k.cookByPlace device ⟨"on", .get, "pump", []⟩ [result] = none := rfl

end Kitchen

end FieldGateway
