import FieldGateway.Proofs.Commands.Refusal
import FieldGateway.Proofs.Probing.Calm

/-
  What the answer to a command says of the health of its device. Every error says which report was
  made, if any (`CommandError.report?`), and so does a success (`reportOf`). A run of a command
  makes this one report on the device that is registered, and is silent on health before and
  after it, or makes none and is silent throughout (`Ends`): one lemma for each part of a command,
  `reported_as_answered` for the whole.
-/

namespace FieldGateway

/-- The report that an error follows on. -/
def CommandError.report? : CommandError → Option Report
  | .addressResolution .. | .driverFailure .. => some .failure
  | .driverViolation .. => some .violation
  | .readingTransform .. | .eventTooLarge .. | .eventEncoding _ => some .success
  | _ => none

/-- The report that an outcome follows on; of a success there is always one. -/
def reportOf {α : Type} : Except CommandError α → Option Report
  | .ok _ => some .success
  | .error e => e.report?

theorem reportOf_map {α β : Type} (f : α → β) (x : Except CommandError α) :
    reportOf (x.map f) = reportOf x := by
  cases x <;> rfl

/-! ## Errors without a report, and after one -/

theorem Intake.Fault.report? {k : Intake} {params : Params} {step : Step} {e : CommandError}
    (h : k.Fault params step e) : e.report? = none := by
  cases h <;> rfl

theorem Intake.report?_of_values {k : Intake} {params : Params} {steps : List Step}
    {e : CommandError} (h : k.values params steps = .error e) : e.report? = none := by
  obtain ⟨_, _, fault⟩ := exists_fault_of_values h
  exact fault.report?

namespace Kitchen

variable {k : Kitchen} {e : CommandError}

theorem report?_of_shown {step : Step} {result : Result} (h : k.shown step result = .error e) :
    e.report? = some .success := by
  unfold shown at h
  cases hd : k.dataTransform with
  | false =>
    rw [hd] at h
    cases h
  | true =>
    simp only [hd, if_true] at h
    split at h
    · cases h
    · cases h
      rfl

theorem report?_of_readings {device profile : String} {number : Nat}
    {results : List (Step × Result)} (h : k.readings device profile number results = .error e) :
    e.report? = some .success := by
  induction results generalizing number with
  | nil => cases h
  | cons head rest ih =>
    unfold readings at h
    cases hv : k.shown head.1 head.2 with
    | error e' =>
      rw [hv] at h
      cases h
      exact report?_of_shown hv
    | ok value =>
      cases hr : k.readings device profile (number + 1) rest with
      | error e' =>
        rw [hv, hr] at h
        cases h
        exact ih hr
      | ok readings =>
        rw [hv, hr] at h
        cases h

theorem report?_of_cook {device : String} {c : Command} {results : List Result}
    (h : k.cook device c results = .error e) : e.report? = some .success := by
  unfold cook event at h
  cases hr : k.readings device c.profileName (k.number + 1) (c.steps.zip results) with
  | error e' =>
    rw [hr] at h
    cases h
    exact report?_of_readings hr
  | ok readings =>
    rw [hr] at h
    cases hm : k.maxEventSize with
    | none =>
      rw [hm] at h
      cases h
    | some max =>
      rw [hm] at h
      simp only [bind, Except.bind, pure, Except.pure] at h
      split at h
      · cases h
        rfl
      · cases h

end Kitchen

theorem Service.Refusal.report? {σ : Type} {driver : Driver σ} {s : Service σ}
    {r : CommandRequest} {e : CommandError} (h : Refusal driver s r e) : e.report? = none := by
  cases h <;> rfl

namespace Service

open FieldGateway.Action

variable {σ : Type} {s t u : Service σ} {d : Device} {r : Option Report}

/-! ## One report, or none -/

/-- Work with a device makes a report, and is silent on health before and after it; or it makes
none, and is silent throughout. -/
def Ends (d : Device) : Option Report → Service σ → Service σ → Prop
  | none, s, t => Silent s t
  | some r, s, t => ∃ u reason, Silent s u ∧ Silent ((conclude d r reason).after u) t

theorem Ends.before (h : Silent s t) (h' : Ends d r t u) : Ends d r s u := by
  cases r with
  | none => exact h.trans h'
  | some r =>
    obtain ⟨v, reason, before, after⟩ := h'
    exact ⟨v, reason, h.trans before, after⟩

theorem Ends.after (h : Ends d r s t) (h' : Silent t u) : Ends d r s u := by
  cases r with
  | none => exact h.trans h'
  | some r =>
    obtain ⟨v, reason, before, after⟩ := h
    exact ⟨v, reason, before, after.trans h'⟩

theorem Ends.report (d : Device) (r : Report) (reason : String) (s : Service σ) :
    Ends d (some r) s ((conclude d r reason).after s) :=
  ⟨s, reason, .refl s, .refl _⟩

theorem Ends.success (d : Device) (s : Service σ) :
    Ends d (some .success) s ((reportSuccess d).after s) :=
  .report d .success "" s

theorem Ends.failure (d : Device) (reason : String) (s : Service σ) :
    Ends d (some .failure) s ((reportFailure d reason).after s) :=
  .report d .failure reason s

theorem Ends.reportsMade (h : Ends d r s t) :
    t.reportsMade = (r.toList.map (d, ·)) ++ s.reportsMade := by
  cases r with
  | none => exact Silent.reportsMade h
  | some r =>
    obtain ⟨u, reason, before, after⟩ := h
    rw [after.reportsMade, reportsMade_conclude, before.reportsMade]
    rfl

theorem Calm.silent {α : Type} {a : Action σ α} (h : Within Calm a) : Within Silent a :=
  fun s => (h s).toSilent

/-! ## Asking the driver -/

theorem violated_ends (d : Device) (reason : String) (s : Service σ) :
    Ends d ((violated d reason).result s).report? s ((violated d reason).after s) :=
  .report d .violation reason s

theorem driverFailed_ends (d : Device) (e : DriverError) (s : Service σ) :
    Ends d ((driverFailed d e).result s).report? s ((driverFailed d e).after s) := by
  cases e with
  | assertionFailed reason => exact violated_ends d reason s
  | _ =>
    simp only [driverFailed, result_bind, after_bind, result_pure, after_pure]
    exact .failure d _ s

variable (driver : Driver σ)

theorem address_ends (d : Device) (s : Service σ) :
    (∃ a, (address driver d).result s = .ok a ∧ Silent s ((address driver d).after s)) ∨
    ∃ e, (address driver d).result s = .error e ∧
      Ends d e.report? s ((address driver d).after s) := by
  have asked := Calm.silent (Calm.address driver d) s
  unfold address
  rw [result_bind, after_bind]
  cases (onSite (Site.address driver d)).result s with
  | ok a => exact .inl ⟨a, rfl, asked⟩
  | error e =>
    simp only [result_bind, after_bind, result_pure, after_pure]
    exact .inr ⟨_, rfl, .before asked (.failure d e.message _)⟩

theorem readRaw_ends (d : Device) (c : Command) (s : Service σ) :
    Ends d (reportOf ((readRaw driver d c).result s)) s ((readRaw driver d c).after s) := by
  unfold readRaw
  rw [result_bind, after_bind]
  rcases address_ends driver d s with ⟨a, hr, found⟩ | ⟨e, hr, ends⟩
  · rw [hr]
    dsimp only
    rw [result_bind, after_bind]
    have asked := found.trans (Calm.silent (Calm.read driver d a c.requests) _)
    refine .before asked ?_
    cases (onSite (Site.read driver d a c.requests)).result ((address driver d).after s) with
    | error e => exact driverFailed_ends d e _
    | ok results =>
      dsimp only
      rw [result_ite, after_ite]
      split
      · simp only [result_bind, after_bind, result_pure, after_pure]
        exact (Ends.success d _).after
          ((Calm.silent Calm.countRead _).trans (Calm.silent (Calm.touch d) _))
      · simp only [result_bind, after_bind, result_pure, after_pure]
        exact violated_ends d _ _
  · rw [hr]
    exact ends

theorem read_ends (d : Device) (c : Command) (s : Service σ) :
    Ends d (reportOf ((read driver d c).result s)) s ((read driver d c).after s) := by
  have raw := readRaw_ends driver d c s
  unfold read
  rw [result_bind, after_bind]
  cases hr : (readRaw driver d c).result s with
  | error e =>
    rw [hr] at raw
    exact raw
  | ok results =>
    rw [hr] at raw
    dsimp only
    rw [result_bind, after_bind, result_pure, after_pure, reportOf_map]
    have cooked := raw.after (Calm.silent (Calm.cook d c results) _)
    cases ho : (cook d c results).result ((readRaw driver d c).after s) with
    | error e =>
      rw [reportOf, Kitchen.report?_of_cook ho]
      exact cooked
    | ok event => exact cooked

/-! ## Masked reads and the write -/

theorem mergeMasked_ends (d : Device) (a : Address) (request : Request) (mask : Mask)
    (value : Value) (s : Service σ) :
    let step := mergeMasked driver d a request mask value
    (∃ v, step.result s = .ok v ∧ Silent s (step.after s)) ∨
    ∃ e, step.result s = .error e ∧ Ends d e.report? s (step.after s) := by
  intro step
  have asked := Calm.silent (Calm.read driver d a [request]) s
  unfold step mergeMasked
  rw [result_bind, after_bind]
  match (onSite (Site.read driver d a [request])).result s with
  | .error e => exact .inr ⟨_, rfl, .before asked (driverFailed_ends d e _)⟩
  | .ok [current] =>
    dsimp only
    cases mask.mergeValues current.value value with
    | none =>
      simp only [result_bind, after_bind, result_pure, after_pure]
      exact .inr ⟨_, rfl, .before asked (.failure d _ _)⟩
    | some merged => exact .inl ⟨merged, rfl, asked⟩
  | .ok [] => exact .inr ⟨_, rfl, .before asked (violated_ends d _ _)⟩
  | .ok (_ :: _ :: _) => exact .inr ⟨_, rfl, .before asked (violated_ends d _ _)⟩

theorem merged_ends (d : Device) (a : Address) (pairs : List (Request × Value))
    (s : Service σ) :
    (∃ vs, (merged driver d a pairs).result s = .ok vs ∧
      Silent s ((merged driver d a pairs).after s)) ∨
    ∃ e, (merged driver d a pairs).result s = .error e ∧
      Ends d e.report? s ((merged driver d a pairs).after s) := by
  induction pairs generalizing s with
  | nil => exact .inl ⟨[], rfl, .refl s⟩
  | cons pair rest ih =>
    obtain ⟨request, value⟩ := pair
    have others (v : Value) {t : Service σ} (h : Silent s t) :
        let next : Action σ (Except CommandError (List Value)) := do
          return (← merged driver d a rest).map (v :: ·)
        (∃ vs, next.result t = .ok vs ∧ Silent s (next.after t)) ∨
        ∃ e, next.result t = .error e ∧ Ends d e.report? s (next.after t) := by
      rcases ih t with ⟨vs, hr, silent⟩ | ⟨e, hr, ends⟩
      · exact .inl ⟨v :: vs, by rw [result_bind, hr]; rfl, h.trans silent⟩
      · exact .inr ⟨e, by rw [result_bind, hr]; rfl, .before h ends⟩
    unfold merged
    cases request.mask with
    | none => exact others value (.refl s)
    | some mask =>
      dsimp only
      rw [result_bind, after_bind]
      rcases mergeMasked_ends driver d a request mask value s with
        ⟨v, hr, silent⟩ | ⟨e, hr, ends⟩
      · rw [hr]
        exact others v silent
      · rw [hr]
        exact .inr ⟨e, rfl, ends⟩

theorem write_ends (d : Device) (c : Command) (values : List Value) (s : Service σ) :
    Ends d (reportOf ((write driver d c values).result s)) s
      ((write driver d c values).after s) := by
  unfold write
  rw [result_bind, after_bind]
  rcases address_ends driver d s with ⟨a, hr, found⟩ | ⟨e, hr, ends⟩
  · rw [hr]
    dsimp only
    rw [result_bind, after_bind]
    refine .before found ?_
    rcases merged_ends driver d a (c.requests.zip values)
      ((address driver d).after s) with ⟨vs, hr, silent⟩ | ⟨e, hr, ends⟩
    · rw [hr]
      dsimp only
      rw [result_bind, after_bind]
      refine .before (silent.trans (Calm.silent (Calm.write driver d a c.requests vs) _)) ?_
      cases (onSite (Site.write driver d a c.requests vs)).result _ with
      | error e => exact driverFailed_ends d e _
      | ok _ =>
        simp only [result_bind, after_bind, result_pure, after_pure]
        exact (Ends.success d _).after (Calm.silent (Calm.touch d) _)
    · rw [hr]
      exact ends
  · rw [hr]
    exact ends

/-! ## Errors of the driver

Whatever the work of the driver comes to, an error of it is one that follows on a report. -/

section

variable {driver} {e : CommandError}

theorem isSome_report?_driverFailed (d : Device) (e : DriverError) (s : Service σ) :
    ((driverFailed d e).result s).report?.isSome = true := by
  cases e <;> rfl

theorem isSome_report?_of_address (h : (address driver d).result s = .error e) :
    e.report?.isSome = true := by
  unfold address at h
  rw [result_bind] at h
  split at h
  · cases h
  · cases h
    rfl

theorem isSome_report?_of_mergeMasked {a : Address} {request : Request} {mask : Mask}
    {value : Value} (h : (mergeMasked driver d a request mask value).result s = .error e) :
    e.report?.isSome = true := by
  unfold mergeMasked at h
  rw [result_bind] at h
  split at h
  · cases h
    exact isSome_report?_driverFailed d _ _
  · split at h
    · cases h
    · cases h
      rfl
  · cases h
    rfl

theorem isSome_report?_of_merged {a : Address} {pairs : List (Request × Value)}
    (h : (merged driver d a pairs).result s = .error e) : e.report?.isSome = true := by
  induction pairs generalizing s with
  | nil => cases h
  | cons pair rest ih =>
    obtain ⟨request, value⟩ := pair
    have others {v : Value} {t : Service σ}
        (h : ((merged driver d a rest).result t).map (v :: ·) = .error e) :
        e.report?.isSome = true := by
      cases hr : (merged driver d a rest).result t with
      | error e' =>
        rw [hr] at h
        cases h
        exact ih hr
      | ok values =>
        rw [hr] at h
        cases h
    unfold merged at h
    cases mask : request.mask with
    | none =>
      rw [mask] at h
      exact others h
    | some m =>
      rw [mask] at h
      dsimp only at h
      rw [result_bind] at h
      cases hr : (mergeMasked driver d a request m value).result s with
      | error e' =>
        rw [hr] at h
        cases h
        exact isSome_report?_of_mergeMasked hr
      | ok v =>
        rw [hr] at h
        exact others h

theorem isSome_report?_of_write {c : Command} {values : List Value}
    (h : (write driver d c values).result s = .error e) : e.report?.isSome = true := by
  unfold write at h
  rw [result_bind] at h
  split at h
  · rename_i found
    cases h
    exact isSome_report?_of_address found
  · rw [result_bind] at h
    split at h
    · rename_i merged
      cases h
      exact isSome_report?_of_merged merged
    · rw [result_bind] at h
      split at h
      · cases h
        exact isSome_report?_driverFailed d _ _
      · cases h

end

/-! ## Commands -/

theorem authorize_silent (device command : String) (m : Method) :
    Within Silent (authorize driver device command m) :=
  authorize_within (fun r => Calm.silent (Calm.index driver r)) device command m

theorem reply_silent (w : Surface) (q : Query)
    (outcome : Except CommandError (Option CookedEvent)) :
    Within Silent (reply (σ := σ) w q outcome) :=
  reply_within (fun e => Calm.silent (Calm.publish e)) w q outcome

theorem runCommand_ends {r : CommandRequest} {d : Device} {c : Command}
    (h : Allowed driver s r d c) (readable : r.method = .get → c.unreadable? = none) :
    Ends d (reportOf ((runCommand driver r).result s)) s ((runCommand driver r).after s) := by
  obtain ⟨method, device, command, query, params⟩ := r
  have granted := authorize_silent driver device command method s
  cases method with
  | get =>
    obtain ⟨hr, ha⟩ := runGet_of_allowed driver h (readable rfl)
    rw [result_runCommand_get, after_runCommand_get, hr, ha, reportOf_map, reportOf_map]
    exact .before granted (read_ends driver d c _)
  | put =>
    have hauth : (authorize driver device command .put).result s = .ok (d, c) :=
      h.result_authorize
    rw [result_runCommand_put, after_runCommand_put, reportOf_map]
    unfold runPut
    rw [result_bind, after_bind, hauth]
    dsimp only
    rw [result_get_bind, after_get_bind]
    cases hv : ((authorize driver device command .put).after s).intake.values params c.steps with
    | error e =>
      dsimp only
      rw [result_pure, after_pure, reportOf, Intake.report?_of_values hv]
      exact granted
    | ok values => exact .before granted (write_ends driver d c values _)

/-- Whichever way a command is asked for, what is answered says what became of the health of the
device. After an error about who may run the command, what can be read or written, or what was
given, nothing was said of health and no report was made. After any other outcome exactly one
report was made, on the device that is registered: a failure, if the address could not be made or
the driver failed; a violation, if the driver's answer was none; a success, if the driver answered,
also if no event could be made of that. -/
theorem reported_as_answered (s : Service σ) (r : CommandRequest) (w : Surface) :
    let outcome := (runCommand driver r).result s
    let reply := (answer driver w r).result s
    let t := (answer driver w r).after s
    (∀ e, outcome = .error e → reply = .ofError e) ∧
    (∀ event, outcome = .ok event → reply.status = .ok) ∧
    (reportOf outcome = none → Silent s t ∧ t.reportsMade = s.reportsMade) ∧
    ∀ made, reportOf outcome = some made → ∃ d, s.device? r.device = some d ∧
      Ends d (some made) s t ∧ t.reportsMade = (d, made) :: s.reportsMade := by
  intro outcome reply t
  have finish := reply_silent w r.query outcome ((runCommand driver r).after s)
  have ht : t = (Service.reply w r.query outcome).after ((runCommand driver r).after s) := by
    show (answer driver w r).after s = _
    rw [answer_eq, after_bind]
  refine ⟨fun e he => (answer_of_error driver he w).1,
    fun event he => (answer_of_ok driver he w).1, ?_⟩
  rcases refusal_or_allowed driver s r with ⟨e, he⟩ | ⟨d, c, allowed, readable⟩
  · obtain ⟨hr, ha⟩ := he.refused
    have none : reportOf outcome = none := by
      show reportOf ((runCommand driver r).result s) = _
      rw [hr, reportOf, he.report?]
    have silent : Silent s t := by
      rw [ht]
      rw [ha] at finish ⊢
      exact (authorize_silent driver r.device r.command r.method s).trans finish
    refine ⟨fun _ => ⟨silent, silent.reportsMade⟩, fun made hm => ?_⟩
    rw [none] at hm
    cases hm
  · have ends : Ends d (reportOf outcome) s t := by
      rw [ht]
      exact (runCommand_ends driver allowed readable).after finish
    refine ⟨fun none => ?_, fun made hm => ⟨d, allowed.registered, ?_, ?_⟩⟩
    · have silent : Silent s t := by
        rw [none] at ends
        exact ends
      exact ⟨silent, silent.reportsMade⟩
    · exact hm ▸ ends
    · rw [ends.reportsMade, hm]
      rfl

/-- A driver that finds the answer of a device amiss: the device is down after a single report,
whatever failures it has in hand. -/
theorem violation_of_failed_assertion :
    let driver := Simulation.driver false
    let script : Script := { reads := Dict.insert ∅ "p1" (.assertionFailed "short frame") }
    let s := performAll driver (ofConfig { allowedFails := 3 } 0 { script })
      [.addProfile { name := "pump", resources :=
         [{ name := "level", properties := { type := .scalar (.int .int32) } }] },
        .addDevice { name := "p1", profileName := "pump" }]
    let r : CommandRequest := { method := .get, device := "p1", command := "level" }
    let t := (answer driver .requested r).after s
    (answer driver .requested r).result s = .ofError (.driverViolation "p1" "short frame") ∧
      ∃ d, s.device? "p1" = some d ∧ t.reportsMade = (d, .violation) :: s.reportsMade := by
  intro driver script s r t
  have outcome : (runCommand driver r).result s =
      .error (.driverViolation "p1" "short frame") := by rfl
  obtain ⟨hreply, -, -, hmade⟩ := reported_as_answered driver s r .requested
  obtain ⟨d, hd, -, made⟩ := hmade .violation (by rw [outcome]; rfl)
  exact ⟨hreply _ outcome, d, hd, made⟩

end Service

end FieldGateway
