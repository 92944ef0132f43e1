import FieldGateway.Driver.Simulated
import FieldGateway.Proofs.Service.Noting
import FieldGateway.Proofs.Service.Run

/-
  A command that writes is all or nothing before the driver hears of it. `Fault` says what is
  wrong with a step, one constructor for each check, in their order; `value_error_iff`: the value
  of a step is refused for its fault and for nothing else. `put_all_or_nothing`: a command with a
  faulty step is answered with the fault of the first of them and leaves the service as it was
  authorized; and a command of which a masked read fails writes nothing.
-/

namespace FieldGateway

/-! ## What is wrong with a step -/

namespace Intake

/-- What a value is made of: what was given, else the default of the command, else that of the
resource. -/
def supplied (params : Params) (step : Step) : Option Param :=
  (params.find? step.request.resource).or
    ((step.defaultText.or step.properties.defaultText).map .text)

/-- The presented value that was meant; a text is unmapped first, by the first of the mappings as
they are listed that has it, and bytes are taken as they are. -/
def meant (k : Intake) (step : Step) : Param → Option Value
  | .text raw => Value.decode step.request.type (k.unmapped step raw)
  | .bytes b => Value.decodeBytes step.request.type b

/-- The text that an error shows; bytes are not shown. -/
def shownText : Param → Option String
  | .text raw => some raw
  | .bytes _ => none

/-- What is wrong with a step, and what is answered. No check is made that follows on one that
failed, and no number is looked at unless readings and writes are transformed. -/
inductive Fault (k : Intake) (params : Params) (step : Step) : CommandError → Prop
  | unwritable (h : step.properties.access.writable = false) :
      Fault k params step (.notWritable step.request.resource)
  | missing (hw : step.properties.access.writable = true) (h : supplied params step = none) :
      Fault k params step (.missingValue step.request.resource)
  | undecodable {p : Param} (hw : step.properties.access.writable = true)
      (hp : supplied params step = some p) (h : k.meant step p = none) :
      Fault k params step (.valueDecode step.request.resource (shownText p))
  | outOfRange {p : Param} {v : Value} (hw : step.properties.access.writable = true)
      (hp : supplied params step = some p) (hv : k.meant step p = some v)
      (ht : k.dataTransform = true) (h : k.transforms.inRange step.properties v = false) :
      Fault k params step (.valueOutOfRange step.request.resource v.encode)
  | overflow {p : Param} {v : Value} {e : TransformError}
      (hw : step.properties.access.writable = true)
      (hp : supplied params step = some p) (hv : k.meant step p = some v)
      (ht : k.dataTransform = true) (hr : k.transforms.inRange step.properties v = true)
      (h : k.transforms.incoming step.properties v = .error e) :
      Fault k params step (.valueOverflow step.request.resource)

/-- Something is wrong with a step. -/
def Faulty (k : Intake) (params : Params) (step : Step) : Prop := ∃ e, Fault k params step e

theorem given_eq (k : Intake) (params : Params) (step : Step) :
    k.given step params = match supplied params step with
      | none => .error (.missingValue step.request.resource)
      | some p => match k.meant step p with
        | none => .error (.valueDecode step.request.resource (shownText p))
        | some v => .ok v := by
  unfold given supplied
  cases params.find? step.request.resource with
  | some p =>
    cases p with
    | bytes b => simp only [Option.some_or, meant, shownText]; split <;> simp_all
    | text raw => simp only [Option.some_or, meant, shownText, ofText]; split <;> simp_all
  | none =>
    cases step.defaultText.or step.properties.defaultText with
    | none => rfl
    | some raw =>
      simp only [Option.none_or, Option.map_some, meant, shownText, ofText]
      split <;> simp_all

theorem raw_error_iff {k : Intake} {step : Step} {v : Value} {e : CommandError} :
    k.raw step v = .error e ↔ k.dataTransform = true ∧
      (k.transforms.inRange step.properties v = false ∧
          e = .valueOutOfRange step.request.resource v.encode ∨
        k.transforms.inRange step.properties v = true ∧
          ∃ e', k.transforms.incoming step.properties v = .error e' ∧
            e = .valueOverflow step.request.resource) := by
  unfold raw
  cases k.dataTransform with
  | false => simp
  | true =>
    cases k.transforms.inRange step.properties v with
    | false => simp [eq_comm]
    | true => cases k.transforms.incoming step.properties v <;> simp [eq_comm]

/-- A step is refused for its fault. -/
theorem value_error_iff {k : Intake} {params : Params} {step : Step} {e : CommandError} :
    k.value params step = .error e ↔ Fault k params step e := by
  unfold value
  cases hw : step.properties.access.writable with
  | false =>
    refine ⟨fun h => ?_, fun h => ?_⟩
    · cases h
      exact .unwritable hw
    · cases h <;> simp_all
  | true =>
    rw [if_pos rfl, given_eq]
    cases hp : supplied params step with
    | none =>
      refine ⟨fun h => ?_, fun h => ?_⟩
      · cases h
        exact .missing hw hp
      · cases h <;> simp_all [Except.bind]
    | some p =>
      dsimp only
      cases hv : k.meant step p with
      | none =>
        refine ⟨fun h => ?_, fun h => ?_⟩
        · cases h
          exact .undecodable hw hp hv
        · cases h <;> simp_all [Except.bind]
      | some v =>
        refine raw_error_iff.trans ⟨?_, fun h => ?_⟩
        · rintro ⟨ht, ⟨hr, rfl⟩ | ⟨hr, e', he, rfl⟩⟩
          · exact .outOfRange hw hp hv ht hr
          · exact .overflow hw hp hv ht hr he
        · cases h <;> simp_all

/-- What is wrong with a step, if anything is. -/
def fault? (k : Intake) (params : Params) (step : Step) : Option CommandError :=
  match k.value params step with
  | .error e => some e
  | .ok _ => none

theorem fault?_eq_some_iff {k : Intake} {params : Params} {step : Step} {e : CommandError} :
    k.fault? params step = some e ↔ Fault k params step e := by
  rw [← value_error_iff, fault?]
  cases k.value params step <;> simp

theorem fault?_eq_none_iff {k : Intake} {params : Params} {step : Step} :
    k.fault? params step = none ↔ ¬ Faulty k params step := by
  simp [Faulty, ← fault?_eq_some_iff, Option.eq_none_iff_forall_ne_some]

theorem values_cons_error_iff {k : Intake} {params : Params} {step : Step} {rest : List Step}
    {e : CommandError} : k.values params (step :: rest) = .error e ↔
      k.value params step = .error e ∨
        (∃ v, k.value params step = .ok v) ∧ k.values params rest = .error e := by
  rw [values]
  cases k.value params step with
  | error e' => simp [bind, Except.bind]
  | ok v => cases k.values params rest <;> simp [bind, Except.bind, pure, Except.pure]

/-- Values are refused for the fault of a step. -/
theorem exists_fault_of_values {k : Intake} {params : Params} {steps : List Step}
    {e : CommandError} (h : k.values params steps = .error e) :
    ∃ step ∈ steps, Fault k params step e := by
  induction steps with
  | nil => cases h
  | cons step rest ih =>
    rcases values_cons_error_iff.1 h with hv | ⟨-, hr⟩
    · exact ⟨step, List.mem_cons_self, value_error_iff.1 hv⟩
    · obtain ⟨x, hx, fault⟩ := ih hr
      exact ⟨x, List.mem_cons_of_mem _ hx, fault⟩

/-- Steps without a fault refuse nothing. -/
theorem values_append_error_iff {k : Intake} {params : Params} {before rest : List Step}
    {e : CommandError} (faultless : ∀ x ∈ before, ¬ Faulty k params x) :
    k.values params (before ++ rest) = .error e ↔ k.values params rest = .error e := by
  induction before with
  | nil => rfl
  | cons head tail ih =>
    rw [List.forall_mem_cons] at faultless
    rw [List.cons_append, values_cons_error_iff, ih faultless.2]
    cases hv : k.value params head with
    | error e' => exact absurd ⟨e', value_error_iff.1 hv⟩ faultless.1
    | ok v => simp

/-- The first faulty step decides, whatever follows on it. -/
theorem values_of_first_fault {k : Intake} {params : Params} {before rest : List Step}
    {first : Step} {e : CommandError} (faultless : ∀ x ∈ before, ¬ Faulty k params x)
    (fault : Fault k params first e) : k.values params (before ++ first :: rest) = .error e := by
  rw [values_append_error_iff faultless, values_cons_error_iff]
  exact .inl (value_error_iff.2 fault)

/-- Of steps that are not all sound, one is the first that is not. -/
theorem exists_first_fault {k : Intake} {params : Params} {steps : List Step} {step : Step}
    (hmem : step ∈ steps) (hfault : Faulty k params step) :
    ∃ before first rest e, steps = before ++ first :: rest ∧
      (∀ x ∈ before, ¬ Faulty k params x) ∧ Fault k params first e := by
  induction steps with
  | nil => cases hmem
  | cons head tail ih =>
    by_cases hhead : Faulty k params head
    · obtain ⟨e, he⟩ := hhead
      exact ⟨[], head, tail, e, rfl, by simp, he⟩
    · have htail : step ∈ tail := by
        rcases List.mem_cons.1 hmem with rfl | h
        · exact absurd hfault hhead
        · exact h
      obtain ⟨before, first, rest, e, rfl, hbefore, hfirst⟩ := ih htail
      exact ⟨head :: before, first, rest, e, rfl, by simpa [hhead] using hbefore, hfirst⟩

end Intake

/-! ## What the driver was asked -/

namespace Effect

/-- The driver was asked to write. -/
def IsWrite : Effect → Prop
  | .driver (.write ..) => True
  | _ => False

/-- The driver was asked to read, and the answer is not one whole number. -/
def IsFailedRead : Effect → Prop
  | .driver (.read _ _ _ outcome) =>
    ∀ current, outcome = .ok [current] → current.value.toBits? = none
  | _ => False

instance decidableIsFailedRead : (e : Effect) → Decidable e.IsFailedRead
  | .driver (.read _ _ _ (.ok [current])) =>
    decidable_of_iff (current.value.toBits? = none)
      ⟨by rintro h _ ⟨⟩; exact h, fun h => h current rfl⟩
  | .driver (.read _ _ _ (.ok [])) | .driver (.read _ _ _ (.ok (_ :: _ :: _)))
  | .driver (.read _ _ _ (.error _)) => .isTrue nofun
  | .driver (.prepare _) | .driver (.address ..) | .driver (.parse ..) | .driver (.write ..)
  | .driver (.added _) | .driver (.updated _) | .driver (.removed _) | .driver (.stop _)
  | .driver (.startSampling ..) | .driver (.stopSampling _) | .reported .. | .stateReported ..
  | .connectionReported _ | .announced .. | .handedOver .. => .isFalse id

/-- Nothing that a masked write could fail by, and nothing that it must not come to then. -/
def IsInnocent (e : Effect) : Prop := ¬ e.IsFailedRead ∧ ¬ e.IsWrite

theorem isInnocent_of_isExchange_eq_false {e : Effect} (h : e.isExchange = false) :
    e.IsInnocent := by
  cases e with
  | driver x => cases h
  | _ => exact ⟨nofun, nofun⟩

end Effect

namespace Service

open FieldGateway.Action

variable {σ : Type} (driver : Driver σ)

/-! ## A service as it was -/

/-- Nothing but the commands of profiles became known: attributes were parsed, and that is on
record. -/
def Indexed (s t : Service σ) : Prop :=
  ∃ indexes parses,
    t = { s with site := { s.site with indexes, trace := parses ++ s.site.trace } } ∧
    ∀ x ∈ parses, ∃ r resource, x.2 = .driver (.parse r resource)

theorem Indexed.refl (s : Service σ) : Indexed s s := ⟨_, [], rfl, by simp⟩

theorem index_indexed (r : Registration) : Within Indexed (onSite (Site.index driver r)) := by
  intro s
  rw [after_onSite]
  rcases Site.index_cases driver r s.site with h | ⟨i, h⟩
  · rw [h]
    exact .refl s
  · rw [h]
    refine ⟨_, _, rfl, fun x hx => ?_⟩
    obtain ⟨resource, _, rfl⟩ := List.mem_map.1 (List.mem_reverse.1 hx)
    exact ⟨r, resource, rfl⟩

theorem resolve_indexed (d : Device) (command : String) (m : Method) :
    Within Indexed (resolve driver d command m) := by
  intro s
  have h := index_indexed driver d.registration s
  unfold resolve
  rw [after_bind]
  cases ((onSite (Site.index driver d.registration)).result s).resolve? command m.direction with
  | some c => exact h
  | none =>
    dsimp only
    rw [after_ite]
    split <;> exact h

/-- Whether a command may be run is found out without a call of the driver, parsing apart. -/
theorem authorize_indexed (device command : String) (m : Method) :
    Within Indexed (authorize driver device command m) := by
  intro s
  unfold authorize
  rw [after_get_bind]
  split
  · exact .refl s
  · cases s.device? device with
    | none => exact .refl s
    | some d =>
      have h := resolve_indexed driver d command m s
      dsimp only
      rw [after_bind]
      cases (resolve driver d command m).result s with
      | error e => exact h
      | ok c =>
        dsimp only
        rw [after_get_bind]
        cases ((resolve driver d command m).after s).obstacle? d c <;> exact h

theorem Indexed.intake {s t : Service σ} (h : Indexed s t) : t.intake = s.intake := by
  obtain ⟨_, _, rfl, _⟩ := h
  rfl

/-! ## Masked reads -/

theorem Quiet.innocent {α : Type} {a : Action σ α} (h : Quiet a) :
    Within (Noting Effect.IsInnocent) a :=
  fun s => (h s).mono fun _ => Effect.isInnocent_of_isExchange_eq_false

theorem Quiet.unwriting {α : Type} {a : Action σ α} (h : Quiet a) :
    Within (Noting (¬ ·.IsWrite)) a :=
  fun s => (h.innocent s).mono fun _ he => he.2

/-- An address is no read and no write, whatever comes of it. -/
theorem address_innocent (d : Device) : Within (Noting Effect.IsInnocent) (address driver d) :=
  address_within (makeAddress_noting driver d fun _ => ⟨id, id⟩)
    fun reason => (reportFailure_quiet d reason).innocent

/-- One masked read: it did not fail, or there is no value to go on with. -/
theorem mergeMasked_cases (d : Device) (a : Address) (request : Request) (mask : Mask)
    (value : Value) (s : Service σ) :
    Noting Effect.IsInnocent s ((mergeMasked driver d a request mask value).after s) ∨
    Noting (¬ ·.IsWrite) s ((mergeMasked driver d a request mask value).after s) ∧
      ∃ e, (mergeMasked driver d a request mask value).result s = .error e := by
  have asked : Noting (¬ ·.IsWrite) s ((onSite (Site.read driver d a [request])).after s) :=
    .one rfl nofun
  have quiet {α : Type} {next : Action σ α} (h : Quiet next) :
      Noting (¬ ·.IsWrite) s (next.after ((onSite (Site.read driver d a [request])).after s)) :=
    asked.trans (h.unwriting _)
  unfold mergeMasked
  rw [after_bind, result_bind]
  match ho : (onSite (Site.read driver d a [request])).result s with
  | .error e => exact .inr ⟨quiet (.bind (driverFailed_quiet d e) fun _ => .pure _), _, rfl⟩
  | .ok [current] =>
    dsimp only
    cases hm : mask.mergeValues current.value value with
    | none => exact .inr ⟨quiet (.bind (reportFailure_quiet d _) fun _ => .pure _), _, rfl⟩
    | some merged =>
      refine .inl (.one rfl ⟨fun failed => ?_, nofun⟩)
      have hnone := failed current ho
      simp [Mask.mergeValues, hnone] at hm
  | .ok [] => exact .inr ⟨quiet (.bind (violated_quiet d _) fun _ => .pure _), _, rfl⟩
  | .ok (_ :: _ :: _) =>
    exact .inr ⟨quiet (.bind (violated_quiet d _) fun _ => .pure _), _, rfl⟩

theorem merged_cases (d : Device) (a : Address) (pairs : List (Request × Value))
    (s : Service σ) :
    Noting Effect.IsInnocent s ((merged driver d a pairs).after s) ∨
    Noting (¬ ·.IsWrite) s ((merged driver d a pairs).after s) ∧
      ∃ e, (merged driver d a pairs).result s = .error e := by
  induction pairs generalizing s with
  | nil => exact .inl (.of_eq rfl)
  | cons pair rest ih =>
    obtain ⟨request, value⟩ := pair
    have others (v : Value) (t : Service σ) (h : Noting Effect.IsInnocent s t) :
        let next : Action σ (Except CommandError (List Value)) := do
          return (← merged driver d a rest).map (v :: ·)
        Noting Effect.IsInnocent s (next.after t) ∨
        Noting (¬ ·.IsWrite) s (next.after t) ∧ ∃ e, next.result t = .error e := by
      rcases ih t with hi | ⟨hn, e, he⟩
      · exact .inl (h.trans hi)
      · refine .inr ⟨(h.mono fun _ h => h.2).trans hn, e, ?_⟩
        rw [result_bind, he]
        rfl
    unfold merged
    cases request.mask with
    | none => exact others value s (.of_eq rfl)
    | some mask =>
      have first := mergeMasked_cases driver d a request mask value s
      dsimp only
      rw [after_bind, result_bind]
      cases hr : (mergeMasked driver d a request mask value).result s with
      | error e => exact first.imp id fun h => ⟨h.1, e, rfl⟩
      | ok v =>
        rcases first with hi | ⟨_, e, he⟩
        · exact others v _ hi
        · rw [hr] at he
          cases he

/-- Whatever a write comes to, no read failed, or nothing was written. -/
theorem write_cases (d : Device) (c : Command) (values : List Value) (s : Service σ) :
    Noting (¬ ·.IsFailedRead) s ((write driver d c values).after s) ∨
    Noting (¬ ·.IsWrite) s ((write driver d c values).after s) := by
  have found := address_innocent driver d s
  unfold write
  rw [after_bind]
  cases (address driver d).result s with
  | error e => exact .inl (found.mono fun _ h => h.1)
  | ok a =>
    dsimp only
    rw [after_bind]
    obtain hi | ⟨hn, e, he⟩ := merged_cases driver d a (c.requests.zip values)
      ((address driver d).after s)
    · refine .inl (.trans ((found.trans hi).mono fun _ h => h.1) ?_)
      cases (merged driver d a (c.requests.zip values)).result _ with
      | error e => exact .of_eq rfl
      | ok values =>
        have quiet {α : Type} {next : Action σ α} (h : Quiet next) :
            Within (Noting (¬ ·.IsFailedRead)) next :=
          fun s => (h.innocent s).mono fun _ he => he.1
        have asked : Within (Noting (¬ ·.IsFailedRead))
            (onSite (Site.write driver d a c.requests values)) := fun _ => .one rfl nofun
        refine asked.bind (fun outcome => ?_) _
        cases outcome with
        | error e => exact quiet (.bind (driverFailed_quiet d e) fun _ => .pure _)
        | ok _ =>
          exact quiet (.bind (reportSuccess_quiet d) fun _ => .bind (touch_quiet d) fun _ =>
            .pure _)
    · rw [he]
      exact .inr ((found.mono fun _ h => h.2).trans hn)

/-! ## All or nothing -/

/-- The ways to ask for a command that writes. -/
inductive Puts (device command : String) (params : Params) : Action σ CommandReply → Prop
  | command : Puts device command params (deviceCommand driver device command .put params)
  | request (query : Query) :
      Puts device command params (execute driver { method := .put, device, command, query, params })

theorem Puts.eq {device command : String} {params : Params} {a : Action σ CommandReply}
    (h : Puts driver device command params a) : a = answerPut driver device command params := by
  cases h <;> rfl

/-- An authorized command goes on with its values, or is refused where it stands. -/
theorem runPut_authorized {device command : String} (params : Params) {s : Service σ}
    {d : Device} {c : Command}
    (h : (authorize driver device command .put).result s = .ok (d, c)) :
    let t := (authorize driver device command .put).after s
    (∃ e, s.intake.values params c.steps = .error e ∧
      (runPut driver device command params).result s = .error e ∧
      (runPut driver device command params).after s = t) ∨
    ∃ values, s.intake.values params c.steps = .ok values ∧
      (runPut driver device command params).after s = (write driver d c values).after t := by
  intro t
  have hi : t.intake = s.intake := (authorize_indexed driver device command .put s).intake
  unfold runPut
  rw [result_bind, after_bind, h]
  dsimp only
  rw [result_get_bind, after_get_bind, ← hi]
  cases t.intake.values params c.steps with
  | error e => exact .inl ⟨e, rfl, rfl, rfl⟩
  | ok values => exact .inr ⟨values, rfl, rfl⟩

theorem answerPut_after (device command : String) (params : Params) (s : Service σ) :
    (answerPut driver device command params).after s =
      (runPut driver device command params).after s := by
  unfold answerPut
  rw [after_bind]
  split <;> rfl

/-- A command with a faulty step is answered with the fault of the first one, before any call of
the driver and without a change of health, counters or bus. If a masked read fails, nothing is
written. -/
theorem put_all_or_nothing {device command : String} {params : Params} {s : Service σ}
    {d : Device} {c : Command}
    (h : (authorize driver device command .put).result s = .ok (d, c))
    {put : Action σ CommandReply} (hput : Puts driver device command params put) :
    ((∃ step ∈ c.steps, s.intake.Faulty params step) →
      ∃ before first rest e, c.steps = before ++ first :: rest ∧
        (∀ step ∈ before, ¬ s.intake.Faulty params step) ∧ s.intake.Fault params first e ∧
        put.result s = .ofError e ∧ Indexed s (put.after s)) ∧
    ∃ new, (put.after s).site.trace = new ++ s.site.trace ∧
      ((∃ x ∈ new, x.2.IsFailedRead) → ∀ x ∈ new, ¬ x.2.IsWrite) := by
  have granted := authorize_indexed driver device command .put s
  rw [hput.eq, answerPut_after]
  refine ⟨?_, ?_⟩
  · rintro ⟨step, hmem, hfault⟩
    obtain ⟨before, first, rest, e, hc, hbefore, hfirst⟩ := Intake.exists_first_fault hmem hfault
    have he : s.intake.values params c.steps = .error e := by
      rw [hc]
      exact Intake.values_of_first_fault hbefore hfirst
    refine ⟨before, first, rest, e, hc, hbefore, hfirst, ?_⟩
    rcases runPut_authorized driver params h with ⟨e', he', hr, ha⟩ | ⟨values, hv, _⟩
    · cases he.symm.trans he'
      refine ⟨?_, ha ▸ granted⟩
      unfold answerPut
      rw [result_bind, hr]
      rfl
    · cases he.symm.trans hv
  · have hnew : Noting (¬ ·.IsFailedRead) s ((runPut driver device command params).after s) ∨
        Noting (¬ ·.IsWrite) s ((runPut driver device command params).after s) := by
      have parsed (p : Effect → Prop) (hp : ∀ r resource, p (.driver (.parse r resource))) :
          Noting p s ((authorize driver device command .put).after s) := by
        obtain ⟨_, parses, ht, hall⟩ := granted
        refine ⟨parses, by rw [ht], fun x hx => ?_⟩
        obtain ⟨r, resource, hx⟩ := hall x hx
        exact hx ▸ hp r resource
      rcases runPut_authorized driver params h with ⟨_, _, _, ha⟩ | ⟨values, _, ha⟩
      · exact .inl (ha ▸ parsed _ fun _ _ => nofun)
      · rw [ha]
        exact (write_cases driver d c values _).imp (parsed _ fun _ _ => nofun).trans
          (parsed _ fun _ _ => nofun).trans
    rcases hnew with ⟨new, ht, hn⟩ | ⟨new, ht, hn⟩
    · exact ⟨new, ht, fun ⟨x, hx, hf⟩ => absurd hf (hn x hx)⟩
    · exact ⟨new, ht, fun _ => hn⟩

/-- A limit out of range, behind a level that is sound and before flags that are no number: the
command is refused for the limit. With all three in order, the read for the mask of the flags fails,
and nothing is written. -/
theorem put_all_or_nothing_setup :
    let driver := Simulation.driver false
    let p : Profile :=
      { name := "pump"
        resources := [{ name := "level", properties := { type := .scalar (.int .int16) } },
          { name := "limit", properties :=
              { type := .scalar (.int .uint8), maximum := some (Floating.Number.ofInt _ 100) } },
          { name := "flags", properties :=
              { type := .scalar (.int .uint16), mask := some 0xff } }]
        commands := [{ name := "setup", operations :=
          [{ resource := "level" }, { resource := "limit" }, { resource := "flags" }] }] }
    let s := performAll driver (ofConfig {} 0 {})
      [.addProfile p, .addDevice { name := "p1", profileName := "pump" },
        .change fun _ => { script := { reads := Dict.ofList [("p1", .communication "line")] } }]
    let given (limit flags : String) : Params :=
      Dict.ofList [("level", .text "7"), ("limit", .text limit), ("flags", .text flags)]
    let put (params : Params) := deviceCommand driver "p1" "setup" .put params
    ((put (given "200" "x")).result s = .ofError (.valueOutOfRange "limit" "200") ∧
      Indexed s ((put (given "200" "x")).after s)) ∧
    ∃ new, ((put (given "50" "3")).after s).site.trace = new ++ s.site.trace ∧
      (∃ x ∈ new, x.2.IsFailedRead) ∧ ∀ x ∈ new, ¬ x.2.IsWrite := by
  intro driver p s given put
  obtain ⟨⟨d, c⟩, authorized, faults⟩ :
      ∃ p ∈ ((authorize driver "p1" "setup" .put).result s).toOption,
        p.2.steps.map (s.intake.fault? (given "200" "x")) =
          [none, some (.valueOutOfRange "limit" "200"), some (.valueDecode "flags" (some "x"))] := by
    decide +kernel
  have granted : (authorize driver "p1" "setup" .put).result s = .ok (d, c) := by
    cases found : (authorize driver "p1" "setup" .put).result s with
    | error e => rw [found] at authorized; cases authorized
    | ok found => rw [found] at authorized; exact congrArg _ (Option.some.inj authorized)
  have whole (params : Params) :=
    put_all_or_nothing driver granted (.command : Puts driver "p1" "setup" params _)
  refine ⟨?_, ?_⟩
  · simp only [List.map_eq_cons_iff] at faults
    obtain ⟨sound, _, steps, harmless, faulty, others, rfl, outside, -⟩ := faults
    rw [Intake.fault?_eq_none_iff] at harmless
    have fault := Intake.fault?_eq_some_iff.1 outside
    obtain ⟨before, first, rest, e, split, faultless, firstFault, reply, left⟩ :=
      (whole _).1 ⟨faulty, by simp [steps], _, fault⟩
    have refused : s.intake.values (given "200" "x") ([sound] ++ faulty :: others) = _ :=
      Intake.values_of_first_fault (by simpa using harmless) fault
    rw [List.singleton_append, ← steps, split,
      Intake.values_of_first_fault faultless firstFault] at refused
    cases refused
    exact ⟨reply, left⟩
  · obtain ⟨new, noted, unwritten⟩ := (whole (given "50" "3")).2
    -- three parses, the address, the read, and the report on it
    have count : ((put (given "50" "3")).after s).site.trace.length =
        6 + s.site.trace.length := by decide +kernel
    have asked : ∃ x ∈ ((put (given "50" "3")).after s).site.trace.take 6, x.2.IsFailedRead := by
      decide +kernel
    have six : new.length = 6 := by
      rw [noted, List.length_append] at count
      omega
    rw [noted, List.take_left' six] at asked
    exact ⟨new, noted, asked, unwritten asked⟩

end Service

end FieldGateway
