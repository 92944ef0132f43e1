import FieldGateway.Service.Reading

/-
  Writing: from given values to one call of the driver. All values are found, decoded, checked,
  and transformed before the driver hears of the command. A value under a mask then takes the
  bits outside the mask from what the driver reads there now.
-/

namespace FieldGateway

/-! ## Values to write -/

/-- What finding values needs besides what was given. -/
structure Intake where
  dataTransform : Bool
  transforms : TransformEngine
  /-- In which order the mappings of a step are searched. -/
  listing : (step : Step) → step.mappings.Listing

namespace Intake

/-- The raw text that a text stands for. -/
def unmapped (k : Intake) (step : Step) (raw : String) : String :=
  Transform.unmap step.mappings raw (k.listing step)

/-- Where nothing is mapped, a text stands for itself. -/
theorem unmapped_of_empty {k : Intake} {step : Step} (h : step.mappings.entries = [])
    (raw : String) : k.unmapped step raw = raw := by
  have none : (k.listing step).entries = [] := ((k.listing step).perm.trans (.of_eq h)).eq_nil
  rw [unmapped, Transform.unmap, none]
  rfl

/-- A value as it was presented, from its text. -/
def ofText (k : Intake) (step : Step) (raw : String) : Except CommandError Value :=
  match Value.decode step.request.type (k.unmapped step raw) with
  | some v => .ok v
  | none => .error (.valueDecode step.request.resource (some raw))

/-- The value given for a step, else the default of the step, else that of the resource. -/
def given (k : Intake) (step : Step) (params : Params) : Except CommandError Value :=
  match params.find? step.request.resource with
  | some (.bytes b) =>
    match Value.decodeBytes step.request.type b with
    | some v => .ok v
    | none => .error (.valueDecode step.request.resource none)
  | some (.text raw) => k.ofText step raw
  | none =>
    match step.defaultText.or step.properties.defaultText with
    | some raw => k.ofText step raw
    | none => .error (.missingValue step.request.resource)

/-- The raw value for a value within the limits of its resource. -/
def raw (k : Intake) (step : Step) (value : Value) : Except CommandError Value :=
  if k.dataTransform then
    if k.transforms.inRange step.properties value then
      match k.transforms.incoming step.properties value with
      | .ok v => .ok v
      | .error _ => .error (.valueOverflow step.request.resource)
    else .error (.valueOutOfRange step.request.resource value.encode)
  else .ok value

/-- The value to write for a step. -/
def value (k : Intake) (params : Params) (step : Step) : Except CommandError Value :=
  if step.properties.access.writable then (k.given step params).bind (k.raw step)
  else .error (.notWritable step.request.resource)

/-- The values to write for steps, or the error of the first that has none. -/
def values (k : Intake) (params : Params) : List Step → Except CommandError (List Value)
  | [] => .ok []
  | step :: steps => do
    let v ← k.value params step
    return v :: (← values k params steps)

end Intake

namespace Service

variable {σ : Type} (driver : Driver σ)

def intake (s : Service σ) : Intake where
  dataTransform := s.controller.config.dataTransform
  transforms := s.controller.transforms
  listing := s.controller.mappingListing

/-! ## Masks -/

/-- A value under a mask, merged with what the driver reads now. -/
def mergeMasked (d : Device) (a : Address) (request : Request) (mask : Mask) (value : Value) :
    Action σ (Except CommandError Value) := do
  match ← onSite (Site.read driver d a [request]) with
  | .error e => return .error (← driverFailed d e)
  | .ok [current] =>
    match mask.mergeValues current.value value with
    | some merged => return .ok merged
    | none =>
      let reason := "masked read of " ++ request.resource ++ " returned a non-integer value"
      reportFailure d reason
      return .error (.driverFailure d.name reason)
  | .ok results =>
    return .error (← violated d
      (Text.natText results.length ++ " results for masked read of " ++ request.resource))

/-- The values as they go to the driver, those under a mask merged one after the other. -/
def merged (d : Device) (a : Address) :
    List (Request × Value) → Action σ (Except CommandError (List Value))
  | [] => return .ok []
  | (request, value) :: rest => do
    let first ← match request.mask with
      | some mask => mergeMasked driver d a request mask value
      | none => pure (.ok value)
    match first with
    | .error e => return .error e
    | .ok v => return (← merged d a rest).map (v :: ·)

/-- Writes values, one for each step of a command. -/
def write (d : Device) (c : Command) (values : List Value) :
    Action σ (Except CommandError Unit) := do
  match ← address driver d with
  | .error e => return .error e
  | .ok a =>
    match ← merged driver d a (c.requests.zip values) with
    | .error e => return .error e
    | .ok values =>
      match ← onSite (Site.write driver d a c.requests values) with
      | .error e => return .error (← driverFailed d e)
      | .ok () =>
        reportSuccess d
        touch d
        return .ok ()

end Service

end FieldGateway
