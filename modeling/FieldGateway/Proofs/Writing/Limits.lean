import FieldGateway.Proofs.Commands.Access
import FieldGateway.Proofs.Commands.Outcome
import FieldGateway.Proofs.Transform.Whole
import FieldGateway.Proofs.Writing.Typed

/-
  Limits and the whole numbers that are to be written. A command is refused for a number that is
  seen to be beyond the limits of its resource (`put_limits`). Up to `2 ^ 53`, and so in the types
  of 32 bits or less, those are the numbers beyond a limit. A larger number that rounding takes
  back to the limit is let through (`put_limits_missed`).
-/

namespace FieldGateway

/-- A scalar is known from its type and its text, unless it is a float. -/
theorem Value.eq_scalar_of_encode {t : ScalarType} (h : t.isFloat = false) {x : t.Carrier}
    {v : Value} (type : v.type = .scalar t) (text : v.encode = (Value.scalar t x).encode) :
    v = .scalar t x := by
  cases v with
  | scalar u y =>
    cases type
    have chars : t.chars y = t.chars x := String.ofList_injective text
    have read := ScalarType.read_chars h y
    rw [chars, ScalarType.read_chars h] at read
    cases read
    rfl
  | binary | object | array => cases type

/-- Steps of one resource say the same of it. -/
theorem Command.Declared.eq_of_resource {c : Command} {p : Profile} (h : c.Declared p)
    {step step' : Step} (hstep : step ∈ c.steps) (hstep' : step' ∈ c.steps)
    (resource : step.request.resource = step'.request.resource) :
    step.properties = step'.properties ∧ step.request.type = step'.request.type := by
  obtain ⟨r, found, properties, type⟩ := h step hstep
  obtain ⟨r', found', properties', type'⟩ := h step' hstep'
  rw [resource, found'] at found
  cases found
  exact ⟨properties.trans properties'.symm, type.trans type'.symm⟩

namespace Intake

variable {k : Intake} {params : Params} {step : Step} {v : Value}

/-- A value was given for a step that can be written, and this is what was meant. -/
structure Means (k : Intake) (params : Params) (step : Step) (v : Value) : Prop where
  writable : step.properties.access.writable = true
  given : ∃ p, supplied params step = some p ∧ k.meant step p = some v

theorem Means.value_eq (h : k.Means params step v) : k.value params step = k.raw step v := by
  obtain ⟨p, supply, mean⟩ := h.given
  rw [value, if_pos h.writable, given_eq, supply]
  dsimp only
  rw [mean]
  rfl

theorem Means.outOfRange_iff (h : k.Means params step v) (on : k.dataTransform = true) :
    k.value params step = .error (.valueOutOfRange step.request.resource v.encode) ↔
      k.transforms.inRange step.properties v = false := by
  rw [h.value_eq, raw_error_iff]
  simp [on]

/-- A value that is not out of range is transformed as it is. -/
theorem Means.transformed (h : k.Means params step v) (on : k.dataTransform = true)
    (within : k.transforms.inRange step.properties v = true) :
    k.value params step = (k.transforms.incoming step.properties v).mapError
      fun _ => .valueOverflow step.request.resource := by
  rw [h.value_eq, raw, if_pos on, if_pos within]
  cases k.transforms.incoming step.properties v <;> rfl

/-- Of the steps that a value is refused for, the first that is not faultless decides. Another step
of the same resource would be refused for the same text only if this one was. -/
theorem values_outOfRange_iff {c : Command} {p : Profile} (declared : c.Declared p)
    {before rest : List Step} (steps : c.steps = before ++ step :: rest)
    (faultless : ∀ x ∈ before, ¬ k.Faulty params x) {t : IntType} {x : BitVec t.width}
    (h : k.Means params step (.int t x)) (on : k.dataTransform = true) :
    k.values params c.steps =
        .error (.valueOutOfRange step.request.resource (Value.int t x).encode) ↔
      k.transforms.inRange step.properties (.int t x) = false := by
  rw [steps, values_append_error_iff faultless, values_cons_error_iff, h.outOfRange_iff on]
  constructor
  · rintro (outside | ⟨-, others⟩)
    · exact outside
    · obtain ⟨step', hstep', fault⟩ := exists_fault_of_values others
      generalize hr : step.request.resource = resource at fault
      generalize ht : (Value.int t x).encode = text at fault
      cases fault with
      | outOfRange hw hp hv _ outside =>
        have here : step ∈ c.steps := by simp [steps]
        have there : step' ∈ c.steps := by simp [steps, hstep']
        obtain ⟨properties, type⟩ := declared.eq_of_resource here there hr
        obtain ⟨given, -, mean⟩ := h.given
        have typed := (type_of_meant hv).trans (type.symm.trans (type_of_meant mean).symm)
        rw [Value.eq_scalar_of_encode (t := .int t) rfl typed ht.symm] at outside
        rw [properties]
        exact outside
  · exact .inl

end Intake

namespace Service

open FieldGateway.Action

variable {σ : Type} {driver : Driver σ}

/-- An error that no report was made before is one of the values. -/
theorem result_put_eq_error_iff {s : Service σ} {device command : String} {query : Query}
    {params : Params} {d : Device} {c : Command}
    (allowed : Allowed driver s ⟨.put, device, command, query, params⟩ d c) {e : CommandError}
    (unreported : e.report? = none) :
    (runCommand driver ⟨.put, device, command, query, params⟩).result s = .error e ↔
      s.intake.values params c.steps = .error e := by
  have granted : (authorize driver device command .put).result s = .ok (d, c) :=
    allowed.result_authorize
  rw [result_runCommand_put]
  rcases runPut_authorized driver params granted with ⟨e', found, refused, -⟩ | ⟨vs, found, -⟩
  · rw [refused, found]
    simp [Except.map]
  · rw [result_runPut_authorized driver granted found, found]
    cases written : (write driver d c vs).result ((authorize driver device command .put).after s)
    case error e' =>
      have reported := isSome_report?_of_write written
      simp only [Except.map, Except.error.injEq, reduceCtorEq, iff_false]
      rintro rfl
      rw [unreported] at reported
      cases reported
    case ok => simp [Except.map]

variable (driver) in
/-- Values are transformed as they are by default, and a command that may be run gives a whole
number to a resource with finite limits, and nothing before it is refused. It is refused for this
number if the nearest double is beyond a limit, and then it is answered so before any call of the
driver; else the number is what is transformed. Up to `2 ^ 53`, and so in the types of 32 bits or
less, the nearest double is the number itself; beyond, a number that is next to a limit is not
refused if it is rounded to it. -/
theorem put_limits {s₀ : Service σ} (fresh : Fresh s₀)
    (standard : s₀.controller.transforms = Transform.standard) (ops : List (Operation σ))
    (w : Surface) {device command : String} (query : Query) {params : Params} {d : Device}
    {c : Command} {before rest : List Step} {step : Step} {t : IntType} {x : BitVec t.width} :
    let s := performAll driver s₀ ops
    let r : CommandRequest := ⟨.put, device, command, query, params⟩
    let put := answer driver w r
    let p := step.properties
    let n := t.toInt x
    let refusal : CommandError := .valueOutOfRange step.request.resource (Text.intText n)
    let refused := (runCommand driver r).result s = .error refusal
    s.controller.config.dataTransform = true → Allowed driver s r d c →
    c.steps = before ++ step :: rest → (∀ y ∈ before, ¬ s.intake.Faulty params y) →
    s.intake.Means params step (.int t x) →
    (∀ limit, limit ∈ p.minimum ∨ limit ∈ p.maximum → limit.isFinite = true) →
    Floating.Number.Nearest (n : ℚ) (Transform.asDouble n) ∧
      (refused ↔ Transform.SeenOutside p n) ∧
      (t.width ≤ 32 ∨ n.natAbs ≤ 2 ^ 53 → (refused ↔ Transform.Outside p n)) ∧
      (refused → Transform.Outside p n ∧ put.result s = .ofError refusal ∧
        Indexed s (put.after s)) ∧
      (¬ refused → s.intake.value params step =
        (Transform.standard.incoming p (.int t x)).mapError
          fun _ => .valueOverflow step.request.resource) := by
  intro s r put p n refusal refused on allowed steps faultless means finite
  have proper : Proper s := performAll_keeps (fun _ => perform_proper) s₀ ops
    ⟨standard, by rw [fresh.trace]; simp⟩
  have listed : Listed s := performAll_listed driver fresh ops
  have declared := listed.declared allowed.registered (List.mem_of_find?_eq_some allowed.resolved)
  have transforms : s.intake.transforms = Transform.standard := proper.transforms
  have outside : refused ↔ s.intake.transforms.inRange p (.int t x) = false :=
    (result_put_eq_error_iff allowed rfl).trans
      (Intake.values_outOfRange_iff declared steps faultless means on)
  have seen : refused ↔ Transform.SeenOutside p n := by
    rw [outside, transforms]
    exact Transform.inRange_eq_false_iff x finite
  refine ⟨Transform.nearest_word t x, seen, ?_, ?_, ?_⟩
  · intro small
    have bounds := t.toInt_bounds x
    have limits := t.limits
    rw [seen]
    exact Transform.seenOutside_iff (by omega)
  · intro h
    obtain ⟨reply, left⟩ := answer_of_error driver h w
    refine ⟨(seen.1 h).outside, reply, ?_⟩
    rw [left, after_runCommand_put]
    have values := (result_put_eq_error_iff allowed rfl).1 h
    rcases runPut_authorized driver params allowed.result_authorize with
      ⟨_, _, _, authorized⟩ | ⟨vs, found, -⟩
    · rw [authorized]
      exact authorize_indexed driver device command .put s
    · cases values.symm.trans found
  · intro h
    rw [outside, Bool.not_eq_false] at h
    rw [means.transformed on h, transforms]

/-- A level of `2 ^ 53` at most is set to `2 ^ 53 + 1`. -/
theorem put_limits_missed :
    let driver := Simulation.driver false
    let level : Properties :=
      { type := .scalar (.int .int64), maximum := some ⟨0x4340000000000000⟩ }
    let s := performAll driver (ofConfig {} 0 {})
      [.addProfile { name := "pump", resources := [{ name := "level", properties := level }] },
        .addDevice { name := "p1", profileName := "pump" }]
    let r : CommandRequest :=
      ⟨.put, "p1", "level", {}, Dict.ofList [("level", .text "9007199254740993")]⟩
    Transform.Outside level 9007199254740993 ∧
      (runCommand driver r).result s ≠ .error (.valueOutOfRange "level" "9007199254740993") ∧
      s.intake.value r.params ⟨⟨"level", .null, level.type, none⟩, level, ∅, none⟩ =
        .ok (.int .int64 9007199254740993) := by
  intro driver level s r
  let step : Step := ⟨⟨"level", .null, level.type, none⟩, level, ∅, none⟩
  have most : Transform.asDouble 9007199254740992 = ⟨0x4340000000000000⟩ := by decide +kernel
  have rounded : Transform.asDouble 9007199254740993 = ⟨0x4340000000000000⟩ := by decide +kernel
  have nearest := Transform.nearest_asDouble (i := 9007199254740992) (by decide)
  rw [most] at nearest
  have finite (limit : Floating.Double)
      (hp : limit ∈ level.minimum ∨ limit ∈ level.maximum) : limit.isFinite = true := by
    rcases hp with hp | hp <;> cases hp
    exact nearest.finite
  have outside : Transform.Outside level 9007199254740993 := by
    have value := Floating.Double.nearest_small nearest (by decide)
    refine .inr ⟨_, rfl, ?_⟩
    rw [value]
    norm_num
  have unseen : ¬ Transform.SeenOutside level 9007199254740993 := by
    rintro (⟨limit, hp, -⟩ | ⟨limit, hp, -, other⟩) <;> cases hp
    exact other (by rw [rounded])
  obtain ⟨d, c, allowed, steps⟩ : ∃ d c, Allowed driver s r d c ∧ c.steps = [step] := by
    unfold s r step level driver
    refine ⟨_, _, ⟨⟨rfl, rfl, rfl⟩, ?_, ?_, .inr ?_⟩, ?_⟩
    · rfl
    · rfl
    · decide
    · rfl
  have means : s.intake.Means r.params step (.int .int64 9007199254740993) := by
    refine ⟨rfl, .text "9007199254740993", rfl, ?_⟩
    rw [Intake.meant, Intake.unmapped_of_empty rfl]
    rfl
  have on : s.controller.config.dataTransform = true := by
    unfold s level driver
    rfl
  have word : IntType.int64.toInt 9007199254740993 = 9007199254740993 := by decide
  have limits := @put_limits _ driver _ (ofConfig_fresh {} 0 {}) rfl
    [.addProfile { name := "pump", resources := [{ name := "level", properties := level }] },
      .addDevice { name := "p1", profileName := "pump" }]
    .named "p1" "level" {} r.params d c [] [] step .int64 9007199254740993
  dsimp only at limits
  rw [word] at limits
  obtain ⟨-, seen, -, -, transformed⟩ := limits on allowed steps (by simp) means finite
  have accepted := mt seen.1 unseen
  exact ⟨outside, accepted, transformed accepted⟩

end Service

end FieldGateway
