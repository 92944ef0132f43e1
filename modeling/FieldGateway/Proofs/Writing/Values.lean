import FieldGateway.Proofs.Commands.Index
import FieldGateway.Proofs.Event.RoundTrip
import FieldGateway.Proofs.Value.Mask
import FieldGateway.Proofs.Value.RoundTrip
import FieldGateway.Service.Writing

/-
  What a reading shows can be written back, as long as nothing is transformed. A step shows the
  masked bits of a value (`Step.masked`) as a text, or what the mappings put for it
  (`Step.presented`). If the mappings can be told apart, the text gives the masked bits back, in
  whatever order they are searched (`Step.Reversible.decode`); so the readings of an event, given for its command, come to what the
  steps showed (`Intake.values_of_readings`).
-/

namespace FieldGateway

/-- A truth value, a text, a whole number, or an array of one of them. -/
def Value.IsPlain : Value → Prop
  | .scalar t _ => t.isFloat = false
  | .array t _ => t.isFloat = false
  | _ => False

instance Value.decidableIsPlain : (v : Value) → Decidable v.IsPlain
  | .scalar t _ => inferInstanceAs (Decidable (t.isFloat = false))
  | .array t _ => inferInstanceAs (Decidable (t.isFloat = false))
  | .binary _ | .object _ => inferInstanceAs (Decidable False)

theorem Value.IsPlain.isExact {v : Value} (h : v.IsPlain) : v.IsExact := by
  cases v with
  | scalar | array => exact h
  | binary | object => cases h

/-! ## Mappings -/

/-- The presented text gives the raw text back, if no two texts are presented alike, and a text
that is shown as it is is not what another one is presented as. -/
theorem Transform.unmap_mapReading {m : TextMap} {v : Value}
    (distinct : (m.entries.map (·.2)).Nodup)
    (clear : m.find? v.encode = none → v.encode ∉ m.entries.map (·.2)) (listing : m.Listing) :
    unmap m (mapReading m v).encode listing = v.encode := by
  have distinct : (listing.entries.map (·.2)).Nodup := (listing.perm.map _).nodup_iff.2 distinct
  cases known : m.find? v.encode with
  | none =>
    have same : mapReading m v = v := by
      unfold mapReading
      rw [known]
      exact ite_self _
    have absent : listing.entries.find? (fun e => e.2 == v.encode) = none := by
      rw [List.find?_eq_none]
      intro e he
      rw [beq_iff_eq]
      intro presented
      exact clear known (List.mem_map.2 ⟨e, listing.perm.mem_iff.1 he, presented⟩)
    rw [same, unmap, absent]
  | some text =>
    obtain ⟨e, found, rfl⟩ := Option.map_eq_some_iff.1 known
    have mem := List.mem_of_find?_eq_some found
    have key : e.1 = v.encode := by simpa using List.find?_some found
    have mapped : (mapReading m v).encode = e.2 := by
      have inhabited : m.isEmpty = false := by
        rw [Dict.isEmpty, List.isEmpty_eq_false_iff]
        exact List.ne_nil_of_mem mem
      rw [mapReading, inhabited, if_neg Bool.false_ne_true, known]
      exact String.ofList_toList
    have back : listing.entries.find? (fun x => x.2 == e.2) = some e :=
      (find?_eq_some_of_nodup distinct fun _ => beq_iff_eq).2 ⟨listing.perm.mem_iff.2 mem, rfl⟩
    rw [mapped, unmap, back]
    exact key

/-! ## One step -/

namespace Step

/-- What a reading of a value says. -/
def presented (step : Step) (v : Value) : String :=
  (Transform.mapReading step.mappings (step.masked v)).encode

/-- The step tells from the text of a reading what the masked bits were. -/
structure Reversible (step : Step) (v : Value) : Prop where
  typed : v.type = step.request.type
  plain : v.IsPlain
  /-- No two raw texts are presented alike. -/
  distinct : (step.mappings.entries.map (·.2)).Nodup
  /-- What is shown as it is is not what another text is presented as. -/
  clear : step.mappings.find? (step.masked v).encode = none →
    (step.masked v).encode ∉ step.mappings.entries.map (·.2)

instance (step : Step) (v : Value) : Decidable (step.Reversible v) :=
  decidable_of_iff (v.type = step.request.type ∧ v.IsPlain ∧
      (step.mappings.entries.map (·.2)).Nodup ∧
      (step.mappings.find? (step.masked v).encode = none →
        (step.masked v).encode ∉ step.mappings.entries.map (·.2)))
    ⟨fun ⟨typed, plain, distinct, clear⟩ => ⟨typed, plain, distinct, clear⟩,
      fun ⟨typed, plain, distinct, clear⟩ => ⟨typed, plain, distinct, clear⟩⟩

variable {step : Step} {v : Value}

theorem masked_plain (step : Step) (h : v.IsPlain) :
    (step.masked v).IsPlain ∧ (step.masked v).type = v.type := by
  unfold masked
  cases step.request.mask with
  | none => exact ⟨h, rfl⟩
  | some m =>
    cases v with
    | scalar t x => cases t <;> exact ⟨h, rfl⟩
    | array => exact ⟨h, rfl⟩
    | binary | object => cases h

theorem Reversible.decode (h : step.Reversible v) (k : Intake) :
    Value.decode step.request.type (k.unmapped step (step.presented v)) =
      some (step.masked v) := by
  obtain ⟨plain, typed⟩ := masked_plain step h.plain
  rw [presented, Intake.unmapped, Transform.unmap_mapReading h.distinct h.clear, ← h.typed, ← typed]
  exact Value.decode_wire_text plain.isExact

/-- The masked bits, written back over the value. -/
theorem masked_merge {m : Mask} (mask : step.request.mask = some m)
    (whole : v.type.isInteger = true) : m.mergeValues v (step.masked v) = some v := by
  obtain ⟨t, x, y, rfl, shown⟩ := Mask.readValue_cases (m := m) whole
  rw [masked, mask]
  dsimp only
  rw [shown]
  exact Mask.mergeValues_readValue shown

end Step

/-! ## Readings -/

theorem Reading.says_ofValue {v : Value} (h : v.IsPlain) (id device profile resource : String)
    (origin : Int64) (p : Properties) (tags : TextMap) :
    let r := ofValue id device profile resource v origin p tags
    (r.resource, r.value) = (resource, some v.encode) := by
  cases v with
  | scalar | array => rfl
  | binary | object => cases h

theorem Transform.mapReading_plain {m : TextMap} {v : Value} (h : v.IsPlain) :
    (mapReading m v).IsPlain := by
  unfold mapReading
  split
  · exact h
  · split
    · exact rfl
    · exact h

namespace Kitchen

variable {k : Kitchen} {held : String → Value}

theorem shown_of_off (off : k.dataTransform = false) (step : Step) (result : Result) :
    k.shown step result = .ok (Transform.mapReading step.mappings (step.masked result.value)) := by
  unfold shown Step.masked
  rw [off]
  cases step.request.mask <;> rfl

theorem readings_cons (off : k.dataTransform = false) (device profile : String) (number : Nat)
    (step : Step) (result : Result) (rest : List (Step × Result)) :
    k.readings device profile number ((step, result) :: rest) =
      (k.readings device profile (number + 1) rest).map fun others =>
        Reading.ofValue (Text.identifier number) device profile step.request.resource
          (Transform.mapReading step.mappings (step.masked result.value))
          (result.origin.getD k.time) step.properties result.tags :: others := by
  rw [Kitchen.readings, shown_of_off off]
  cases k.readings device profile (number + 1) rest <;> rfl

/-- The readings say what the steps show of the values that are held. -/
theorem readings_of_off (off : k.dataTransform = false) {device profile : String}
    {steps : List Step} (plain : ∀ step ∈ steps, (held step.request.resource).IsPlain)
    {results : List Result}
    (values : results.map (·.value) = steps.map fun step => held step.request.resource)
    {number : Nat} {readings : List Reading}
    (h : k.readings device profile number (steps.zip results) = .ok readings) :
    readings.map (fun r => (r.resource, r.value)) = steps.map fun step =>
      (step.request.resource, some (step.presented (held step.request.resource))) := by
  induction steps generalizing results number readings with
  | nil =>
    cases h
    rfl
  | cons step steps ih =>
    cases results with
    | nil => cases values
    | cons result results =>
      obtain ⟨value, values⟩ := List.cons.inj values
      obtain ⟨first, plain⟩ := List.forall_mem_cons.1 plain
      rw [List.zip_cons_cons, readings_cons off] at h
      cases others : k.readings device profile (number + 1) (steps.zip results) with
      | error e =>
        rw [others] at h
        cases h
      | ok rest =>
        rw [others] at h
        cases h
        have value : result.value = held step.request.resource := value
        have shown : (Transform.mapReading step.mappings
            (step.masked (held step.request.resource))).IsPlain :=
          Transform.mapReading_plain (Step.masked_plain _ first).1
        rw [value, List.map_cons, List.map_cons, ih plain values others, Reading.says_ofValue shown]
        rfl

/-- So do the readings of the event that is made of them. -/
theorem readings_of_cook (off : k.dataTransform = false) {device : String} {c : Command}
    (plain : ∀ step ∈ c.steps, (held step.request.resource).IsPlain) {results : List Result}
    (values : results.map (·.value) = c.steps.map fun step => held step.request.resource)
    {cooked : CookedEvent} (h : k.cook device c results = .ok cooked) :
    cooked.event.readings.map (fun r => (r.resource, r.value)) = c.steps.map fun step =>
      (step.request.resource, some (step.presented (held step.request.resource))) := by
  obtain ⟨e, he, rfl⟩ := cook_eq_ok h
  obtain ⟨readings, hr, he⟩ := Except.bind_eq_ok he
  cases he
  rw [CookedEvent.event_encode]
  exact readings_of_off off plain values hr

end Kitchen

/-- The texts of the readings, given for the resources. -/
def Event.params (e : Event) : Params :=
  Dict.ofList <| e.readings.filterMap fun r => r.value.map fun text => (r.resource, .text text)

/-- Where no resource is read twice, the text of its reading is what is given for it. -/
theorem Event.find?_params {e : Event} {steps : List Step} {text : Step → String}
    (apart : (steps.map (·.request.resource)).Nodup)
    (readings : e.readings.map (fun r => (r.resource, r.value)) =
      steps.map fun step => (step.request.resource, some (text step)))
    {step : Step} (h : step ∈ steps) :
    e.params.find? step.request.resource = some (.text (text step)) := by
  have given : (e.readings.filterMap fun r => r.value.map fun text =>
        (r.resource, Param.text text)) =
      steps.map fun step => (step.request.resource, .text (text step)) := by
    let pair (p : String × Option String) : Option (String × Param) :=
      p.2.map fun text => (p.1, .text text)
    rw [← List.filterMap_eq_map]
    show e.readings.filterMap (pair ∘ fun r => (r.resource, r.value)) = _
    rw [← List.filterMap_map, readings, List.filterMap_map]
    rfl
  rw [params, given]
  refine Dict.find?_ofList ?_ (List.mem_map_of_mem h)
  rw [List.map_map]
  exact apart

/-! ## Values to write -/

namespace Intake

variable {k : Intake} {params : Params} {steps : List Step} {shown : Step → Value}

theorem values_of_given (off : k.dataTransform = false)
    (writable : ∀ step ∈ steps, step.properties.access.writable = true)
    (given : ∀ step ∈ steps, k.given step params = .ok (shown step)) :
    k.values params steps = .ok (steps.map shown) := by
  induction steps with
  | nil => rfl
  | cons step steps ih =>
    obtain ⟨may, writable⟩ := List.forall_mem_cons.1 writable
    obtain ⟨first, given⟩ := List.forall_mem_cons.1 given
    have value : k.value params step = .ok (shown step) := by
      rw [Intake.value, if_pos may, first]
      show k.raw step (shown step) = _
      rw [raw, off]
      rfl
    rw [values, value, ih writable given]
    rfl

/-- The readings of an event come to what the steps showed. -/
theorem values_of_readings {e : Event} {held : String → Value} (off : k.dataTransform = false)
    (writable : ∀ step ∈ steps, step.properties.access.writable = true)
    (apart : (steps.map (·.request.resource)).Nodup)
    (reversible : ∀ step ∈ steps, step.Reversible (held step.request.resource))
    (readings : e.readings.map (fun r => (r.resource, r.value)) = steps.map fun step =>
      (step.request.resource, some (step.presented (held step.request.resource)))) :
    k.values e.params steps =
      .ok (steps.map fun step => step.masked (held step.request.resource)) := by
  refine values_of_given off writable fun step hstep => ?_
  rw [given, Event.find?_params apart readings hstep]
  dsimp only
  rw [ofText, (reversible step hstep).decode k]

end Intake

end FieldGateway
