import FieldGateway.Proofs.Sampling.Pushed

/-
  Results that the driver came by on its own, and the gate before a sampler. A sampler leaves a
  device alone unless the service is open and the device neither locked nor down (`Admitted`);
  results that are posted for the device are published if nobody locked it (`Postable`). The two
  part where the service is locked or the device is down: there an event goes out that no sampler
  would have read (`posted_past_gate_iff`).
-/

namespace FieldGateway.Service

open FieldGateway.Action

variable {σ : Type} {driver : Driver σ} {s : Service σ} {device source : String}
  {results : List Result} {d : Device} {c : Command} {e : CookedEvent}

/-! ## The gate before a sampler -/

/-- A sampler that may not read its device does nothing. -/
theorem after_sample_of_closed {k : Nat} {r : Sampler}
    (hr : s.controller.samplers.get? k = some r) (closed : ∀ d, ¬ Admitted s r.device d) :
    (sample driver k).after s = s := by
  unfold sample
  rw [after_get_bind, hr]
  dsimp only
  cases registered : s.device? r.device with
  | none => rfl
  | some d =>
    dsimp only
    rw [after_ite, if_pos, after_pure]
    refine Bool.of_not_eq_false fun admitted => ?_
    simp only [Bool.or_eq_false_iff] at admitted
    obtain ⟨⟨opened, unlocked⟩, up⟩ := admitted
    exact closed d ⟨opened, registered, unlocked, up⟩

theorem sampleNow_asks (k : Nat) (r : Sampler) (d : Device) (c : Command) (s : Service σ) :
    AskedToRead d c s ((sampleNow driver k r d c).after s) := by
  have publish (results) : Quiet (publishResults (σ := σ) d c results) :=
    publishResults_within (fun _ => .of_eq rfl) publish_quiet
  unfold sampleNow
  rw [after_bind]
  refine (readRaw_asks driver d c s).trans ?_
  cases (readRaw driver d c).result s with
  | error e => exact .of_eq rfl
  | ok results =>
    exact Within.ite (.ite (.bind (changeController_quiet _) fun _ => publish results) (.pure _))
      (publish results) _

/-- A sampler that may read its device asks for its command. -/
theorem sample_asks {k : Nat} {r : Sampler} (hr : s.controller.samplers.get? k = some r)
    (admitted : Admitted s r.device d)
    (resolved : (commandsOf driver s d).resolve? r.source .get = some c) :
    ∃ t, Indexed s t ∧ AskedToRead d c t ((sample driver k).after s) := by
  obtain ⟨-, h⟩ := after_sample_of_admitted hr admitted resolved
  refine ⟨_, index_indexed driver d.registration s, ?_⟩
  rw [h]
  exact sampleNow_asks k r d c _

/-! ## Posting -/

variable (driver s device source results) in
/-- Results that make this event for this command of the device, which nobody locked. -/
structure Postable (d : Device) (c : Command) (e : CookedEvent) : Prop where
  registered : s.device? device = some d
  unlocked : s.site.isLocked d = false
  resolved : (commandsOf driver s d).resolve? source .get = some c
  length : results.length = c.size
  cooked : s.kitchen.cook d.name c results = .ok e

theorem postReadings_of_postable (h : Postable driver s device source results d c e) :
    (postReadings driver device source results).result s = .ok e ∧
      Tells [s.publication e] 0 s ((postReadings driver device source results).after s) := by
  have found : ((onSite (Site.index driver d.registration)).result s).resolve? source .get =
      some c := h.resolved
  have kitchen := SameKitchen.index driver d.registration s
  have told := Tells.index driver d.registration s
  unfold postReadings
  rw [result_get_bind, after_get_bind, h.registered]
  dsimp only
  rw [h.unlocked, if_neg Bool.false_ne_true, result_bind, after_bind, found]
  generalize (onSite (Site.index driver d.registration)).after s = u at kitchen told
  have cooked : (cook d c results).result u = .ok e := by
    show u.kitchen.cook d.name c results = _
    rw [kitchen.kitchen, h.cooked]
  have published := kitchen.published d c results
  rw [after_publishResults, cooked, h.cooked] at published
  dsimp only
  rw [if_pos h.length, result_bind, after_bind, cooked]
  exact ⟨rfl, told.before published⟩

variable (driver) in
/-- What is refused is not published. -/
theorem postReadings_of_not_postable
    (h : ∀ d c e, ¬ Postable driver s device source results d c e) :
    (∃ e, (postReadings driver device source results).result s = .error e) ∧
      Unpublished s ((postReadings driver device source results).after s) := by
  unfold postReadings
  rw [result_get_bind, after_get_bind]
  cases registered : s.device? device with
  | none => exact ⟨⟨_, rfl⟩, .of_eq rfl⟩
  | some d =>
  dsimp only
  cases unlocked : s.site.isLocked d with
  | true => exact ⟨⟨_, rfl⟩, .of_eq rfl⟩
  | false =>
  rw [if_neg Bool.false_ne_true, result_bind, after_bind]
  have indexed := (Idle.index driver d.registration s).unsent.noting
  have kitchen := (SameKitchen.index driver d.registration s).kitchen
  cases resolved : ((onSite (Site.index driver d.registration)).result s).resolve? source .get with
  | none => exact ⟨⟨_, rfl⟩, indexed⟩
  | some c =>
  dsimp only
  generalize (onSite (Site.index driver d.registration)).after s = u at indexed kitchen ⊢
  by_cases length : results.length = c.size
  · rw [if_pos length, result_bind, after_bind]
    cases cooked : (cook d c results).result u with
    | error e => exact ⟨⟨_, rfl⟩, indexed.trans (Unpublished.of_still (Still.cook d c results) u)⟩
    | ok e =>
      have cooked : s.kitchen.cook d.name c results = .ok e := by
        rw [← kitchen]
        exact cooked
      exact absurd ⟨registered, unlocked, resolved, length, cooked⟩ (h d c e)
  · rw [if_neg length]
    exact ⟨⟨_, rfl⟩, indexed.trans (Unpublished.of_still (Still.violated d _) u)⟩

/-- What is published of posted results is the event that answers. -/
theorem published_post (driver : Driver σ) (device source : String) (results : List Result)
    (s : Service σ) :
    let post := postReadings driver device source results
    Tick.published ⟨s, post.after s⟩ = (post.result s).toOption.toList.map s.publication := by
  intro post
  by_cases h : ∃ d c e, Postable driver s device source results d c e
  · obtain ⟨d, c, e, h⟩ := h
    obtain ⟨answer, told⟩ := postReadings_of_postable h
    rw [Tick.published_eq (x := ⟨s, post.after s⟩) told, answer,
      List.filter_cons_of_pos (isEvent_publication s e)]
    rfl
  · obtain ⟨⟨e, answer⟩, unpublished⟩ := postReadings_of_not_postable driver
      fun d c e hp => h ⟨d, c, e, hp⟩
    rw [answer]
    exact Tick.published_eq_nil (x := ⟨s, _⟩) unpublished

theorem published_post_ne_nil_iff (driver : Driver σ) (device source : String)
    (results : List Result) (s : Service σ) :
    Tick.published ⟨s, (postReadings driver device source results).after s⟩ ≠ [] ↔
      ∃ d c e, Postable driver s device source results d c e := by
  refine ⟨fun published => ?_, fun ⟨d, c, e, h⟩ => ?_⟩
  · by_cases h : ∃ d c e, Postable driver s device source results d c e
    · exact h
    · have refused := postReadings_of_not_postable driver fun d c e hp => h ⟨d, c, e, hp⟩
      exact absurd (Tick.published_eq_nil (x := ⟨s, _⟩) refused.2) published
  · rw [published_post, (postReadings_of_postable h).1]
    exact List.cons_ne_nil _ _

/-- A device that nobody locked is kept from samplers by the service or by its health. -/
theorem closed_iff (registered : s.device? device = some d)
    (unlocked : s.site.isLocked d = false) :
    (∀ d, ¬ Admitted s device d) ↔ s.controller.locked = true ∨ s.site.isDown d = true := by
  constructor
  · intro closed
    cases opened : s.controller.locked with
    | true => exact .inl rfl
    | false =>
      cases up : s.site.isDown d with
      | true => exact .inr rfl
      | false => exact absurd ⟨opened, registered, unlocked, up⟩ (closed d)
  · intro shut d' admitted
    obtain rfl := Option.some.inj (registered.symm.trans admitted.registered)
    rw [admitted.opened, admitted.up] at shut
    simp at shut

/-! ## Both gates -/

/-- A sampler does nothing unless the service is open and its device is neither locked nor down, and
then it asks the driver. Posted results go out as the event that answers them, if there is one. They
pass where no sampler of that device would read just when the service is locked or the device is
down, and all else is in order: the device is registered and not locked, its profile has the command,
there is a result for each step, and they can be cooked. -/
theorem posted_past_gate_iff (driver : Driver σ) (device source : String) (results : List Result)
    (s : Service σ) :
    let post := postReadings driver device source results
    let published := Tick.published ⟨s, post.after s⟩
    (∀ k r, s.controller.samplers.get? k = some r → r.device = device → r.source = source →
      ((∀ d, ¬ Admitted s device d) → (sample driver k).after s = s) ∧
      ∀ d c, Admitted s device d → (commandsOf driver s d).resolve? source .get = some c →
        ∃ t, Indexed s t ∧ AskedToRead d c t ((sample driver k).after s)) ∧
    published = (post.result s).toOption.toList.map s.publication ∧
    ((published ≠ [] ∧ ∀ d, ¬ Admitted s device d) ↔
      ∃ d c e, Postable driver s device source results d c e ∧
        (s.controller.locked = true ∨ s.site.isDown d = true)) := by
  intro post published
  refine ⟨?_, published_post driver device source results s, ?_⟩
  · rintro k r hr rfl rfl
    exact ⟨after_sample_of_closed hr, fun d c => sample_asks hr⟩
  · rw [published_post_ne_nil_iff]
    constructor
    · rintro ⟨⟨d, c, e, h⟩, closed⟩
      exact ⟨d, c, e, h, (closed_iff h.registered h.unlocked).1 closed⟩
    · rintro ⟨d, c, e, h, shut⟩
      exact ⟨⟨d, c, e, h⟩, (closed_iff h.registered h.unlocked).2 shut⟩

/-- The service is locked and the pump is down, so its sampler does nothing; what the driver posts
for the same source goes out all the same. -/
theorem posted_past_gate_pump :
    let driver := Simulation.driver false
    let s := performAll driver (ofConfig { allowedFails := 1 } 0 {})
      [.addProfile { name := "pump",
                     resources := [{ name := "on", properties := { type := .scalar .bool } }] },
        .addDevice { name := "p1", profileName := "pump",
                     autoEvents := [{ source := "on", interval := "10s" }] },
        .startAutoEvents "p1", .noteFailure "p1" "no answer", .setServiceAdminState .locked]
    let posted : List Result := [{ value := .scalar .bool true }]
    (∀ d, ¬ Admitted s "p1" d) ∧ (sample driver 0).after s = s ∧
      (Tick.published ⟨s, (postReadings driver "p1" "on" posted).after s⟩).length = 1 ∧
      ∃ d c e, Postable driver s "p1" "on" posted d c e ∧ s.site.isDown d = true := by
  intro driver s posted
  obtain ⟨gate, -, past⟩ := posted_past_gate_iff driver "p1" "on" posted s
  have locked : s.controller.locked = true := by decide
  have closed (d) : ¬ Admitted s "p1" d := fun admitted => by
    rw [admitted.opened] at locked
    cases locked
  obtain ⟨r, known⟩ :=
    Option.isSome_iff_exists.1 (by decide : (s.controller.samplers.get? 0).isSome = true)
  have fields : (s.controller.samplers.get? 0).all (fun r =>
      r.device == "p1" && r.source == "on") = true := by decide
  rw [known, Option.all_some, Bool.and_eq_true] at fields
  have silent := (gate 0 r known (eq_of_beq fields.1) (eq_of_beq fields.2)).1 closed
  have one : (Tick.published ⟨s, (postReadings driver "p1" "on" posted).after s⟩).length = 1 := by
    decide +kernel
  have published := List.ne_nil_of_length_pos (Nat.lt_of_lt_of_eq Nat.one_pos one.symm)
  obtain ⟨d, c, e, postable, -⟩ := past.1 ⟨published, closed⟩
  have down : (s.device? "p1").all s.site.isDown = true := by decide
  rw [postable.registered, Option.all_some] at down
  exact ⟨closed, silent, one, d, c, e, postable, down⟩

end FieldGateway.Service
