import FieldGateway.Proofs.Commands.Queries
import FieldGateway.Proofs.Event.Faithful
import FieldGateway.Proofs.Sampling.Gate

/-
  Where results are cooked: for a command that reads, for a sampler whose time has come, and for
  results that the driver posts. Cooking issues identifiers and nothing else does, so from what was
  issued between two services one sees whether anything was cooked (`Uncooked`). On each of the
  three ways there is a check before it that there is a result for each step (`Cooks`); what was
  cooked then says what the results come to, and what could not be cooked is not published
  (`cooked_faithfully`).
-/

namespace FieldGateway

/-- Something is put on the bus. -/
def Effect.isAnnounced : Effect → Bool
  | .announced .. => true
  | _ => false

namespace Service

open FieldGateway.Action

variable {σ : Type}

/-! ## Identifiers -/

/-- So many identifiers were issued, besides one for each announcement. -/
def Issues (n : Nat) (s t : Service σ) : Prop :=
  ∃ new, t.site.trace = new ++ s.site.trace ∧
    t.site.issued = s.site.issued + new.countP (·.2.isAnnounced) + n

namespace Issues

variable {s t u : Service σ} {m n : Nat}

theorem of_eq (trace : t.site.trace = s.site.trace) (issued : t.site.issued = s.site.issued + n) :
    Issues n s t :=
  ⟨[], trace, issued⟩

theorem noting {now : Nat} {e : Effect} (silent : e.isAnnounced = false)
    (trace : t.site.trace = (now, e) :: s.site.trace) (issued : t.site.issued = s.site.issued) :
    Issues 0 s t :=
  ⟨[(now, e)], trace, by simp [silent, issued]⟩

theorem trans (h : Issues m s t) (h' : Issues n t u) : Issues (m + n) s u := by
  obtain ⟨new, ht, issued⟩ := h
  obtain ⟨newer, hu, more⟩ := h'
  refine ⟨newer ++ new, by rw [hu, ht, List.append_assoc], ?_⟩
  rw [more, issued, List.countP_append]
  omega

theorem announce (source : String) (a : Int64 → Announcement) (s : Service σ) :
    Issues 0 s ((announce source a).after s) :=
  ⟨[(s.site.now, .announced source (a s.site.seconds))], rfl, rfl⟩

end Issues

/-- Nothing was cooked. -/
abbrev Uncooked (s t : Service σ) : Prop := Issues 0 s t

namespace Uncooked

instance : Std.Refl (Uncooked (σ := σ)) := ⟨fun _ => .of_eq rfl rfl⟩

instance : IsTrans (Service σ) Uncooked := ⟨fun _ _ _ h h' => h.trans h'⟩

theorem reporting (d : Device) : Reporting d (Uncooked (σ := σ)) where
  enter _ _ := .noting rfl rfl rfl
  sayUp := .announce _ _
  sayDown _ := .announce _ _
  report _ := report_within fun _ => .noting rfl rfl rfl
  arm := armProbe_within d.name (fun _ _ => .of_eq rfl rfl) fun _ _ => .of_eq rfl rfl
  cancel := cancelProbe_within d.name (fun _ => .of_eq rfl rfl) fun _ _ => .of_eq rfl rfl

variable (driver : Driver σ)

theorem index (r : Registration) : Within Uncooked (onSite (Site.index driver r)) := by
  intro s
  rw [after_onSite]
  rcases Site.index_cases driver r s.site with h | ⟨i, h⟩
  · rw [h]
    exact .of_eq rfl rfl
  · rw [h]
    refine ⟨_, rfl, ?_⟩
    have none : ((i.parsed.map fun resource =>
        (s.site.now, Effect.driver (.parse r resource))).reverse).countP
          (·.2.isAnnounced) = 0 := by
      simp [List.countP_eq_zero, Effect.isAnnounced]
    rw [none]
    rfl

theorem makeAddress (d : Device) : Within Uncooked (onSite (Site.address driver d)) := by
  intro s
  rw [after_onSite]
  rcases Site.address_cases driver d s.site with ⟨_, _, h⟩ | ⟨_, outcome, _, _, h⟩
  · rw [h]
    exact .of_eq rfl rfl
  · rw [h]
    cases outcome <;> exact .noting rfl rfl rfl

theorem asking (d : Device) : Asking driver d Uncooked where
  address := makeAddress driver d
  read _ _ _ := .noting rfl rfl rfl
  success := (reporting d).success
  failure := (reporting d).failure
  violation := (reporting d).violation
  touch := touch_within fun _ => .noting rfl rfl rfl

theorem readRaw (d : Device) (c : Command) : Within Uncooked (readRaw driver d c) :=
  (asking driver d).readRaw (fun _ => .of_eq rfl rfl) c

theorem violated (d : Device) (reason : String) : Within Uncooked (violated (σ := σ) d reason) :=
  violated_within ((reporting d).violation reason)

theorem publish (e : CookedEvent) : Within Uncooked (publish (σ := σ) e) :=
  publish_within e (fun _ => .announce _ _) (fun _ => .of_eq rfl rfl) fun _ => .noting rfl rfl rfl

theorem pushed (outcome : Except CommandError CookedEvent) :
    Within Uncooked (pushed (σ := σ) outcome) := by
  cases outcome with
  | error e => exact .pure _
  | ok event => exact publish event

theorem reply (w : Surface) (q : Query) (outcome : Except CommandError (Option CookedEvent)) :
    Within Uncooked (reply (σ := σ) w q outcome) :=
  reply_within publish w q outcome

theorem authorize (device command : String) (m : Method) :
    Within Uncooked (authorize driver device command m) :=
  authorize_within (index driver) device command m

end Uncooked

/-- Results of a command were cooked, once, with one for each of its steps, and this is what came of
it. -/
structure Cooks (s t : Service σ) (d : Device) (c : Command) (results : List Result)
    (outcome : Except CommandError CookedEvent) : Prop where
  complete : results.length = c.size
  /-- No step is missing. -/
  cooked : s.kitchen.cookByPlace d.name c results = some outcome
  once : Issues (c.size + 1) s t
  event {e : CookedEvent} (h : outcome = .ok e) : e.Of s.kitchen d.name c results

variable {s t u v : Service σ} {d : Device} {c : Command} {results : List Result}

theorem Cooks.cook (complete : results.length = c.size) (s : Service σ) :
    Cooks s ((cook d c results).after s) d c results (s.kitchen.cook d.name c results) where
  complete := complete
  cooked := Kitchen.cookByPlace_eq complete
  once := complete ▸ .of_eq rfl rfl
  event := Kitchen.cook_of complete

/-- What is done before, in the same kitchen, and after makes no difference. -/
theorem Cooks.between {outcome : Except CommandError CookedEvent}
    (h : Cooks t u d c results outcome) (kitchen : SameKitchen s t) (before : Uncooked s t)
    (after : Uncooked u v) : Cooks s v d c results outcome where
  complete := h.complete
  cooked := kitchen.kitchen ▸ h.cooked
  once := by
    have whole := (before.trans h.once).trans after
    rwa [Nat.zero_add, Nat.add_zero] at whole
  event ok := kitchen.kitchen ▸ h.event ok

variable {driver : Driver σ}

/-! ## What the driver answered -/

theorem results?_read {a : Address} (complete : results.length = c.size) :
    (Effect.driver (.read d a c.requests (.ok results))).results? = some results := by
  have size : c.requests.length = c.size := List.length_map _
  simp [Effect.results?, complete, size]

/-- The answers with a result for each request are told. -/
theorem Tells.records {told : List Effect} {reads : Nat} (h : Tells told reads s t) :
    Records (·.results?) (told.filterMap (·.results?)) s t := by
  obtain ⟨⟨new, ht, rfl⟩, -⟩ := h
  have silent (e : Effect) (he : e.tellsOfReading = false) : e.results? = none := by
    simp only [Effect.tellsOfReading, Bool.or_eq_false_iff] at he
    exact Option.not_isSome_iff_eq_none.1 (by simp [he.1.1])
  refine ⟨new, ht, ?_⟩
  rw [List.filterMap_filter, List.filterMap_map]
  congr 1
  funext x
  cases told : x.2.tellsOfReading with
  | true => simp [told]
  | false => simp [told, silent _ told]

/-- An answer with a result for each request is the only one on record. -/
theorem Tells.records_read {a : Address} {events : List Effect} {reads : Nat}
    (h : Tells ([.driver (.read d a c.requests (.ok results)), .reported d .success] ++ events)
      reads s t) (complete : results.length = c.size)
    (others : events.filterMap (·.results?) = []) : Records (·.results?) [results] s t := by
  have records := h.records
  rwa [List.filterMap_append, List.filterMap_cons_some (results?_read complete), others] at records

theorem results?_publications (outcome : Except CommandError CookedEvent) (s : Service σ) :
    (outcome.toOption.toList.map s.publication).filterMap (·.results?) = [] := by
  refine List.filterMap_eq_nil_iff.2 fun e he => ?_
  obtain ⟨event, -, rfl⟩ := List.mem_map.1 he
  unfold publication
  split <;> rfl

/-! ## Commands that read -/

variable (driver) in
/-- A device that is up is read: it does not answer as it should, or its answer is cooked. -/
theorem read_cooks (c : Command) (up : s.site.isDown d = false) :
    let outcome := ((read driver d c).result s).map (·.2)
    let t := (read driver d c).after s
    (Uncooked s t ∧ ∃ e, outcome = .error e) ∨
      ∃ results, Records (·.results?) [results] s t ∧ Cooks s t d c results outcome := by
  intro outcome t
  have raw := readRaw_cases driver c up
  have uncooked := Uncooked.readRaw driver d c s
  unfold outcome t read
  simp only [result_bind, after_bind]
  generalize (readRaw driver d c).after s = u at raw uncooked ⊢
  rcases raw with ⟨a, results, hr, length, told, kitchen⟩ | ⟨e, _, hr, -, -⟩
  · have complete : results.length = c.size := length.trans (List.length_map _)
    rw [hr]
    refine .inr ⟨results, ?_, ?_⟩
    · rw [← List.append_nil [Effect.driver _, _]] at told
      exact (told.records_read complete rfl).after (.of_eq rfl)
    · have cooks := Cooks.cook (d := d) complete u
      have same : ((Except.map (fun event => (results, event))
          (u.kitchen.cook d.name c results)).map (·.2)) = u.kitchen.cook d.name c results := by
        cases u.kitchen.cook d.name c results <;> rfl
      show Cooks s ((cook d c results).after u) d c results
        ((Except.map (fun event => (results, event)) (u.kitchen.cook d.name c results)).map (·.2))
      rw [same]
      exact cooks.between kitchen uncooked (.of_eq rfl rfl)
  · rw [hr]
    exact .inl ⟨uncooked, e, rfl⟩

variable (driver) in
/-- A command that reads is refused, does not get an answer, or its answer is cooked. -/
theorem runGet_cooks (device command : String) (s : Service σ) :
    let outcome := (runGet driver device command).result s
    let t := (runGet driver device command).after s
    (Uncooked s t ∧ ∃ e, outcome = .error e) ∨
      ∃ d c results, s.device? device = some d ∧
        (commandsOf driver s d).resolve? command .get = some c ∧
        Records (·.results?) [results] s t ∧ Cooks s t d c results outcome := by
  intro outcome t
  rcases refusal_or_allowed driver s ⟨.get, device, command, {}, ∅⟩ with
    ⟨e, refusal⟩ | ⟨d, c, allowed, readable⟩
  · obtain ⟨refused, left⟩ := refusal.refused
    rw [result_runCommand_get] at refused
    rw [after_runCommand_get] at left
    refine .inl ⟨?_, e, ?_⟩
    · rw [show t = _ from left]
      exact Uncooked.authorize driver device command .get s
    · unfold outcome
      cases h : (runGet driver device command).result s with
      | error e' =>
        rw [h] at refused
        cases refused
        rfl
      | ok event =>
        rw [h] at refused
        cases refused
  · obtain ⟨got, left⟩ := runGet_of_allowed driver allowed (readable rfl)
    have looked : (authorize driver device command .get).after s =
        (onSite (Site.index driver d.registration)).after s := allowed.after_authorize
    rw [looked] at got left
    have kitchen := SameKitchen.index driver d.registration s
    have before := Uncooked.index driver d.registration s
    have noted : Noting (·.results? = none) s
        ((onSite (Site.index driver d.registration)).after s) :=
      index_noting driver d.registration (fun _ => rfl) s
    have up := (Calm.index driver d.registration s).toSilent.isDown d
    rw [allowed.up] at up
    unfold outcome t
    rw [got, left]
    rcases read_cooks driver c up with ⟨uncooked, failed⟩ | ⟨results, records, cooks⟩
    · exact .inl ⟨before.trans uncooked, failed⟩
    · exact .inr ⟨d, c, results, allowed.registered, allowed.resolved, .before noted records,
        cooks.between kitchen before (.of_eq rfl rfl)⟩

/-! ## Samplers -/

/-- What is published of results is cooked before. -/
theorem publishResults_cooks (complete : results.length = c.size) (s : Service σ) :
    Cooks s ((publishResults d c results).after s) d c results
      (s.kitchen.cook d.name c results) := by
  rw [after_publishResults]
  exact (Cooks.cook complete s).between ⟨rfl, fun _ => rfl⟩ (.of_eq rfl rfl) (Uncooked.pushed _ _)

/-- Nothing was cooked, and nothing that is told of it is an event. -/
structure Nothing (s t : Service σ) : Prop where
  uncooked : Uncooked s t
  told : ∃ told reads, Tells told reads s t ∧ told.filter (·.isEvent) = []

/-- What was cooked of the answer of a device was published, if it was an event. -/
structure Serving (s t : Service σ) (d : Device) (c : Command) (results : List Result)
    (outcome : Except CommandError CookedEvent) : Prop where
  cooks : Cooks s t d c results outcome
  told : ∃ a, Tells ([.driver (.read d a c.requests (.ok results)), .reported d .success] ++
    outcome.toOption.toList.map s.publication) 1 s t

theorem Nothing.between (h : Nothing t u) (before : Uncooked s t) (silent : Tells [] 0 s t)
    (after : Uncooked u v) (silent' : Tells [] 0 u v) : Nothing s v :=
  let ⟨_, _, told, eventless⟩ := h.told
  ⟨(before.trans h.uncooked).trans after, _, _, (silent.before told).after silent', eventless⟩

theorem Serving.between {outcome : Except CommandError CookedEvent}
    (h : Serving t u d c results outcome) (kitchen : SameKitchen s t) (before : Uncooked s t)
    (silent : Tells [] 0 s t) (after : Uncooked u v) (silent' : Tells [] 0 u v) :
    Serving s v d c results outcome := by
  obtain ⟨a, told⟩ := h.told
  refine ⟨h.cooks.between kitchen before after, a, (silent.before ?_).after silent'⟩
  rwa [show t.publication = s.publication from funext kitchen.publication] at told

variable (driver) in
/-- A device that is up is read for a sampler. -/
theorem sampleNow_cooks {k : Nat} {r : Sampler} (up : s.site.isDown d = false) :
    let t := (sampleNow driver k r d c).after s
    Nothing s t ∨ ∃ results outcome, Serving s t d c results outcome := by
  intro t
  have raw := readRaw_cases driver c up
  have uncooked := Uncooked.readRaw driver d c s
  unfold t sampleNow
  rw [after_bind]
  generalize (readRaw driver d c).after s = u at raw uncooked ⊢
  rcases raw with ⟨a, results, hr, length, told, kitchen⟩ | ⟨e, _, hr, -, told⟩
  · have complete : results.length = c.size := length.trans (List.length_map _)
    have dish {v : Service σ} (same : SameKitchen u v) (still : Uncooked u v)
        (silent : Tells [] 0 u v) :
        ∃ outcome, Serving s ((publishResults d c results).after v) d c results outcome := by
      have kitchen := kitchen.trans same
      refine ⟨s.kitchen.cook d.name c results, ?_, a,
        told.trans (silent.before (kitchen.published d c results))⟩
      have cooks := publishResults_cooks (d := d) complete v
      rw [kitchen.kitchen] at cooks
      exact cooks.between kitchen (uncooked.trans still) (.of_eq rfl rfl)
    rw [hr]
    dsimp only
    rw [after_ite, after_ite]
    split
    · split
      · exact .inr ⟨results, dish (remember_sameKitchen k results u) (.of_eq rfl rfl)
          (remember_tells k results u)⟩
      · exact .inl ⟨uncooked, _, _, told, rfl⟩
    · exact .inr ⟨results, dish ⟨rfl, fun _ => rfl⟩ (.of_eq rfl rfl) (.of_eq rfl rfl)⟩
  · rw [hr]
    exact .inl ⟨uncooked, _, _, told, rfl⟩

variable (driver) in
theorem sample_cooks (k : Nat) (s : Service σ) :
    let t := (sample driver k).after s
    Nothing s t ∨ ∃ d c results outcome, s.target? driver k = some (d, c) ∧
      Serving s t d c results outcome := by
  intro t
  have stays : Nothing s s := ⟨.of_eq rfl rfl, [], 0, .of_eq rfl rfl, rfl⟩
  unfold t sample
  rw [after_get_bind]
  cases hr : s.controller.samplers.get? k with
  | none => exact .inl stays
  | some r =>
    dsimp only
    cases hd : s.device? r.device with
    | none => exact .inl stays
    | some d =>
      dsimp only
      rw [after_ite, after_bind]
      split
      · exact .inl stays
      · rename_i ready
        simp only [Bool.or_eq_true, not_or, Bool.not_eq_true] at ready
        have silent := Tells.index driver d.registration s
        have kitchen := SameKitchen.index driver d.registration s
        have uncooked := Uncooked.index driver d.registration s
        have up := (Calm.index driver d.registration s).toSilent.isDown d
        rw [ready.2] at up
        -- from here on the service is one that knows the commands of the device
        generalize (onSite (Site.index driver d.registration)).after s = u at *
        generalize hi : (onSite (Site.index driver d.registration)).result s = i at *
        cases hc : i.resolve? r.source .get with
        | none => exact .inl ⟨uncooked, [], 0, silent, rfl⟩
        | some c =>
          subst hi
          dsimp only
          rw [after_bind, after_pure]
          rcases sampleNow_cooks driver (c := c) (k := k) (r := r) up with
            nothing | ⟨results, outcome, served⟩
          · exact .inl (nothing.between uncooked silent (.of_eq rfl rfl) (.of_eq rfl rfl))
          · exact .inr ⟨d, c, results, outcome, target?_eq_some driver hr hd hc,
              served.between kitchen uncooked silent (.of_eq rfl rfl) (.of_eq rfl rfl)⟩

theorem settleTimer_uncooked (timer fired : Nat) (control : Timer.Control) :
    Within Uncooked (settleTimer (σ := σ) timer fired control) :=
  settleTimer_within timer fired control (fun _ => .of_eq rfl rfl) fun _ _ => .of_eq rfl rfl

/-- A timer fires for a sampler: nothing is cooked and nothing published, or what was cooked of the
answer of its device is published. -/
theorem fireTimer_cooks {timer k : Nat} (h : s.taskOf timer = some (.sample k)) :
    let t := (fireTimer driver timer).after s
    (Uncooked s t ∧ Tick.published ⟨s, t⟩ = []) ∨
      ∃ d c results outcome, s.target? driver k = some (d, c) ∧
        Records (·.results?) [results] s t ∧ Cooks s t d c results outcome ∧
        Tick.published ⟨s, t⟩ = outcome.toOption.toList.map s.publication := by
  intro t
  have fired : Nothing s t ∨ ∃ d c results outcome, s.target? driver k = some (d, c) ∧
      Serving s t d c results outcome := by
    obtain ⟨x, hx, task⟩ := Option.map_eq_some_iff.1 h
    unfold t fireTimer
    rw [after_get_bind, hx]
    dsimp only
    rw [after_ite, after_pure]
    split
    · rw [after_bind, after_bind, task]
      have settled := settleTimer_uncooked (σ := σ) timer (s.site.now * Timer.nanosPerMilli)
      have silent := settleTimer_tells (σ := σ) timer (s.site.now * Timer.nanosPerMilli)
      have begun : Tells [] 0 s ((changeLifecycle timer x.lifecycle.beginFire.2).after s) :=
        changeLifecycle_tells timer _ s
      rcases sample_cooks driver k ((changeLifecycle timer x.lifecycle.beginFire.2).after s) with
        nothing | ⟨d, c, results, outcome, target, served⟩
      · exact .inl (nothing.between (.of_eq rfl rfl) begun (settled _ _) (silent _ _))
      · exact .inr ⟨d, c, results, outcome, target,
          served.between ⟨rfl, fun _ => rfl⟩ (.of_eq rfl rfl) begun (settled _ _) (silent _ _)⟩
    · exact .inl ⟨.of_eq rfl rfl, [], 0, .of_eq rfl rfl, rfl⟩
  rcases fired with nothing | ⟨d, c, results, outcome, target, served⟩
  · obtain ⟨_, _, told, eventless⟩ := nothing.told
    exact .inl ⟨nothing.uncooked, (Tick.published_eq (x := ⟨s, t⟩) told).trans eventless⟩
  · obtain ⟨a, told⟩ := served.told
    have events : (outcome.toOption.toList.map s.publication).filter (·.isEvent) =
        outcome.toOption.toList.map s.publication := by
      refine List.filter_eq_self.2 fun e he => ?_
      obtain ⟨event, -, rfl⟩ := List.mem_map.1 he
      exact isEvent_publication s event
    refine .inr ⟨d, c, results, outcome, target,
      told.records_read served.cooks.complete (results?_publications outcome s), served.cooks, ?_⟩
    rw [Tick.published_eq (x := ⟨s, t⟩) told, List.filter_append, events]
    rfl

/-! ## Posted results -/

variable (driver) in
/-- Posted results are refused, or cooked. -/
theorem postReadings_cooks (device source : String) (results : List Result) (s : Service σ) :
    let outcome := (postReadings driver device source results).result s
    let t := (postReadings driver device source results).after s
    (Uncooked s t ∧ ∃ e, outcome = .error e) ∨
      ∃ d c, s.device? device = some d ∧ (commandsOf driver s d).resolve? source .get = some c ∧
        Cooks s t d c results outcome := by
  intro outcome t
  unfold outcome t postReadings
  rw [result_get_bind, after_get_bind]
  cases registered : s.device? device with
  | none => exact .inl ⟨.of_eq rfl rfl, _, rfl⟩
  | some d =>
  dsimp only
  rw [result_ite, after_ite]
  split
  · exact .inl ⟨.of_eq rfl rfl, _, rfl⟩
  rw [result_bind, after_bind]
  have before := Uncooked.index driver d.registration s
  have kitchen := SameKitchen.index driver d.registration s
  cases resolved : ((onSite (Site.index driver d.registration)).result s).resolve? source .get with
  | none => exact .inl ⟨before, _, rfl⟩
  | some c =>
  dsimp only
  generalize (onSite (Site.index driver d.registration)).after s = u at before kitchen ⊢
  rw [result_ite, after_ite]
  split
  · rename_i complete
    rw [result_bind, after_bind]
    have cooks := Cooks.cook (d := d) complete u
    have cooked : (cook d c results).result u = u.kitchen.cook d.name c results := rfl
    rw [cooked]
    cases made : u.kitchen.cook d.name c results with
    | error e =>
      rw [made] at cooks
      exact .inr ⟨d, c, rfl, resolved, cooks.between kitchen before (.of_eq rfl rfl)⟩
    | ok event =>
      rw [made] at cooks
      exact .inr ⟨d, c, rfl, resolved, cooks.between kitchen before (Uncooked.publish event _)⟩
  · exact .inl ⟨before.trans (Uncooked.violated d _ u), _, rfl⟩

/-! ## All three -/

variable (driver) in
/-- Whether a command is read, a timer fires for a sampler, or the driver posts results: either no
results are cooked, and what is asked for is answered with an error, or they are cooked once, with
one for each step of the command, so that every step is found by its place; they are the ones that
the driver answered or posted. If an event comes of it, it has a reading for each step in order, of
the result at the same place, and is no larger than events may be. What goes out is that event, as
far as it is to go out, and nothing where none was cooked. -/
theorem cooked_faithfully (s : Service σ) :
    (∀ device command w q params,
      let outcome := (runGet driver device command).result s
      let t := (answer driver w ⟨.get, device, command, q, params⟩).after s
      ((Uncooked s t ∧ ∃ e, outcome = .error e) ∨
        ∃ d c results, s.device? device = some d ∧
          (commandsOf driver s d).resolve? command .get = some c ∧
          Records (·.results?) [results] s t ∧ Cooks s t d c results outcome) ∧
      Tick.published ⟨s, t⟩ =
        (if w.publishes q then outcome.toOption.toList.map s.publication else [])) ∧
    (∀ timer k, s.taskOf timer = some (.sample k) →
      let t := (fireTimer driver timer).after s
      (Uncooked s t ∧ Tick.published ⟨s, t⟩ = []) ∨
        ∃ d c results outcome, s.target? driver k = some (d, c) ∧
          Records (·.results?) [results] s t ∧ Cooks s t d c results outcome ∧
          Tick.published ⟨s, t⟩ = outcome.toOption.toList.map s.publication) ∧
    ∀ device source results,
      let outcome := (postReadings driver device source results).result s
      let t := (postReadings driver device source results).after s
      ((Uncooked s t ∧ ∃ e, outcome = .error e) ∨
        ∃ d c, s.device? device = some d ∧
          (commandsOf driver s d).resolve? source .get = some c ∧
          Cooks s t d c results outcome) ∧
      Tick.published ⟨s, t⟩ = outcome.toOption.toList.map s.publication := by
  refine ⟨fun device command w q params => ⟨?_, ?_⟩, fun timer k => fireTimer_cooks,
    fun device source results => ⟨postReadings_cooks driver device source results s,
      published_post driver device source results s⟩⟩
  · rw [answer_eq, after_bind, after_runCommand_get]
    have after := Uncooked.reply (σ := σ) w q
      ((runCommand driver ⟨.get, device, command, q, params⟩).result s)
    have silent : Within (Noting (·.results? = none)) (reply (σ := σ) w q
        ((runCommand driver ⟨.get, device, command, q, params⟩).result s)) :=
      reply_within (fun e => publish_within e (fun _ _ => .one rfl rfl) (fun _ => .of_eq rfl)
        fun _ => .one rfl rfl) w q _
    rcases runGet_cooks driver device command s with
      ⟨uncooked, failed⟩ | ⟨d, c, results, registered, resolved, records, cooks⟩
    · exact .inl ⟨uncooked.trans (after _), failed⟩
    · exact .inr ⟨d, c, results, registered, resolved, records.after (silent _),
        cooks.between ⟨rfl, fun _ => rfl⟩ (.of_eq rfl rfl) (after _)⟩
  · exact published_answer_get driver device command w q params s

/-- A pump with a register of which the low four bits are shown, and a service that sends no events
of more than four kibibytes. A timer fires for its sampler, and the event goes out. -/
theorem cooked_faithfully_pump :
    let driver := Simulation.driver false
    let level : Resource :=
      { name := "level", properties := { type := .scalar (.int .uint16), mask := some 15 } }
    let s := performAll driver (ofConfig { maxEventSizeKib := 4 } 0 {})
      [.addProfile { name := "pump", resources := [level] },
        .addDevice { name := "p1", profileName := "pump",
                     autoEvents := [{ source := "level", interval := "10s" }] },
        .startAutoEvents "p1"]
    let t := (fireTimer driver 0).after s
    s.taskOf 0 = some (.sample 0) ∧
      ∃ d c results e, s.target? driver 0 = some (d, c) ∧ Cooks s t d c results (.ok e) ∧
        Tick.published ⟨s, t⟩ = [s.publication e] := by
  intro driver level s t
  have task : s.taskOf 0 = some (.sample 0) := by decide
  have one : (Tick.published ⟨s, t⟩).length = 1 := by decide +kernel
  refine ⟨task, ?_⟩
  rcases (cooked_faithfully driver s).2.1 0 0 task with
    ⟨-, unpublished⟩ | ⟨d, c, results, outcome, target, -, cooks, published⟩
  · rw [unpublished] at one
    cases one
  · cases outcome with
    | error e =>
      rw [published] at one
      cases one
    | ok e => exact ⟨d, c, results, e, target, cooks, published⟩

end Service

end FieldGateway
