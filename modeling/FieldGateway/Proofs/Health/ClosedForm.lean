import FieldGateway.Driver.Simulated
import FieldGateway.Proofs.Health.Untouched
import FieldGateway.Proofs.Service.Management

/-
  The health of devices in closed form. A service is `Accounted` if the condition of every device
  agrees with the reports on it; every operation keeps that (`perform_accounted`), whatever it
  does before, between, and after its reports. `health_closed_form` reads it off at the end of a
  run: how many failures a device has in hand, and whether it is down, are functions of the
  failures and the violations since its last success.
-/

namespace FieldGateway.Service

open FieldGateway.Action

variable {σ : Type} {allowed : Nat} {s t : Service σ}

/-- The condition of every device that is registered agrees with the reports on it. -/
structure Accounted (allowed : Nat) (s : Service σ) : Prop where
  config : s.controller.config.allowedFails = allowed
  named {name : String} {d : Device} : s.device? name = some d → d.name = name
  known {name : String} {d : Device} : s.device? name = some d → s.site.Knows d
  /-- No two devices share a condition. -/
  apart {m n : String} {d e : Device} :
    s.device? m = some d → s.device? n = some e → d.serial = e.serial → m = n
  agrees {name : String} {d : Device} : s.device? name = some d →
    (s.site.condition d).Agrees allowed (reportsOf name s.site.trace)

namespace Accounted

theorem ofFresh (h : Fresh s) : Accounted s.controller.config.allowedFails s := by
  have none (name : String) : s.device? name = none := by
    rw [device?, Registry.device?, h.registry]
    rfl
  constructor
  · rfl
  all_goals simp [none]

/-! ## Changes -/

theorem sameHealth (h : Accounted allowed s) (same : SameHealth s t) : Accounted allowed t := by
  have devices (name : String) : t.device? name = s.device? name := by
    rw [device?, Registry.device?, same.devices]
    rfl
  refine ⟨by rw [same.config]; exact h.config, ?_, ?_, ?_, ?_⟩
  · intro name d hd
    exact h.named (devices name ▸ hd)
  · intro name d hd
    rw [Site.Knows, same.next]
    exact h.known (devices name ▸ hd)
  · intro m n d e hd he
    exact h.apart (devices m ▸ hd) (devices n ▸ he)
  · intro name d hd
    rw [same.reports]
    exact (h.agrees (devices name ▸ hd)).of_eq (same.operating d) (same.remaining d)

/-- A report on a device that is registered. -/
theorem enter (h : Accounted allowed s) {d : Device} (hd : s.device? d.name = some d)
    (r : Report) : Accounted allowed ((Service.enter d r).after s) := by
  refine ⟨h.config, h.named, ?_, h.apart, ?_⟩
  · intro name e he
    have hk : e.serial < s.site.conditions.next := h.known he
    exact Nat.lt_of_lt_of_eq hk (Numbered.next_modify _ _ _).symm
  · intro name e he
    show ((s.site.setCondition d _).condition e).Agrees _ (reportsOf name ((_, _) :: _))
    rw [Site.condition_setCondition (h.known hd), h.config]
    by_cases hn : d.name = name
    · subst hn
      cases hd.symm.trans he
      rw [if_pos rfl, reportsOf_cons_reported]
      exact (h.agrees hd).following r
    · rw [if_neg fun hs => hn (h.apart hd he hs), reportsOf_cons_reported_ne hn]
      exact h.agrees he

theorem install (h : Accounted allowed s) {d : Device} {c : Condition} (i : Installed d c s t)
    (others : ∀ name, d.name ≠ name →
      reportsOf name t.site.trace = reportsOf name s.site.trace)
    (agrees : c.Agrees allowed (reportsOf d.name t.site.trace)) : Accounted allowed t := by
  have found {name : String} {e : Device} (he : t.device? name = some e) :
      d.name = name ∧ d = e ∨ d.name ≠ name ∧ s.device? name = some e := by
    rw [i.device?] at he
    split at he
    · rename_i hn
      exact .inl ⟨hn, Option.some.inj he⟩
    · rename_i hn
      exact .inr ⟨hn, he⟩
  have older {name : String} {e : Device} (he : s.device? name = some e) :
      e.serial < d.serial := i.serial ▸ h.known he
  refine ⟨by rw [i.controller]; exact h.config, ?_, ?_, ?_, ?_⟩
  · intro name e he
    rcases found he with ⟨hn, rfl⟩ | ⟨-, he⟩
    · exact hn
    · exact h.named he
  · intro name e he
    rw [Site.Knows, i.conditions, Numbered.next_add, ← i.serial]
    rcases found he with ⟨-, rfl⟩ | ⟨-, he⟩
    · exact Nat.lt_succ_self _
    · exact Nat.lt_succ_of_lt (older he)
  · intro m n e e' he he' hs
    rcases found he with ⟨hm, rfl⟩ | ⟨-, he⟩ <;> rcases found he' with ⟨hn, rfl⟩ | ⟨-, he'⟩
    · exact hm.symm.trans hn
    · exact absurd hs (Nat.ne_of_gt (older he'))
    · exact absurd hs (Nat.ne_of_lt (older he))
    · exact h.apart he he' hs
  · intro name e he
    rw [i.condition]
    rcases found he with ⟨rfl, rfl⟩ | ⟨hn, he⟩
    · rw [if_pos rfl]
      exact agrees
    · rw [if_neg (Nat.ne_of_lt (older he)), others name hn]
      exact h.agrees he

theorem erase (h : Accounted allowed s) {name : String}
    (devices : t.site.registry.devices = s.site.registry.devices.erase name)
    (conditions : t.site.conditions = s.site.conditions)
    (controller : t.controller = s.controller)
    (reports : ∀ n, reportsOf n t.site.trace = reportsOf n s.site.trace) :
    Accounted allowed t := by
  have found {n : String} {e : Device} (he : t.device? n = some e) : s.device? n = some e := by
    rw [device?, Registry.device?, devices, Dict.find?_erase] at he
    split at he
    · cases he
    · exact he
  refine ⟨by rw [controller]; exact h.config, fun hd => h.named (found hd), ?_,
    fun hd he => h.apart (found hd) (found he), ?_⟩
  · intro n e he
    rw [Site.Knows, conditions]
    exact h.known (found he)
  · intro n e he
    rw [Site.condition, conditions, reports]
    exact h.agrees (found he)

end Accounted

theorem accounted_of_sameHealth {α : Type} {a : Action σ α} (h : Within SameHealth a) :
    Keeps (Accounted allowed) a :=
  fun s hs => hs.sameHealth (h s)

/-! ## Work -/

variable (driver : Driver σ)

/-- A report, and whatever follows from it that is none. -/
theorem reported_accounted {α : Type} (d : Device) (r : Report)
    {next : OperatingState × OperatingState → Action σ α}
    (hnext : ∀ p, Within SameHealth (next p)) (h : Accounted allowed s)
    (hd : s.device? d.name = some d) :
    Accounted allowed ((enter d r >>= next).after s) ∧
      ((enter d r >>= next).after s).device? d.name = some d := by
  have same := hnext ((enter d r).result s) ((enter d r).after s)
  refine ⟨(h.enter hd r).sameHealth same, ?_⟩
  rw [after_bind, device?, Registry.device?, same.devices]
  exact hd

theorem workStep_accounted {d : Device} (h : WorkStep driver d s t)
    (hs : Accounted allowed s ∧ s.device? d.name = some d) :
    Accounted allowed t ∧ t.device? d.name = some d := by
  have silent {α : Type} {a : Action σ α} (ha : Within SameHealth a) (s : Service σ)
      (hs : Accounted allowed s ∧ s.device? d.name = some d) :
      Accounted allowed (a.after s) ∧ (a.after s).device? d.name = some d := by
    refine ⟨hs.1.sameHealth (ha s), ?_⟩
    rw [device?, Registry.device?, (ha s).devices]
    exact hs.2
  cases h with
  | index => exact silent (SameHealth.index driver _) s hs
  | address => exact silent (SameHealth.address driver d) s hs
  | read a requests => exact silent (SameHealth.read driver d a requests) s hs
  | write a requests values => exact silent (SameHealth.write driver d a requests values) s hs
  | success =>
    exact reported_accounted d .success (fun _ => .ite
      (.bind (SameHealth.cancelProbe _) fun _ => .bind (SameHealth.announce _ _) fun _ =>
        SameHealth.report rfl) (.pure _)) hs.1 hs.2
  | failure reason =>
    exact reported_accounted d .failure
      (fun _ => .ite (SameHealth.wentDown d reason) (.pure _)) hs.1 hs.2
  | violation reason =>
    exact reported_accounted d .violation
      (fun _ => .ite (SameHealth.wentDown d reason) (.pure _)) hs.1 hs.2
  | countRead => exact silent SameHealth.countRead s hs
  | touch => exact silent (SameHealth.touch d) s hs
  | cook c results => exact silent (SameHealth.cook d c results) s hs
  | publish e => exact silent (SameHealth.publish e) s hs
  | remember number results => exact silent (SameHealth.changeSampler number _) s hs

theorem workOn_accounted {name : String} (h : WorkOn driver name s t)
    (hs : Accounted allowed s) : Accounted allowed t := by
  rcases h with rfl | ⟨d, hd, hw⟩
  · exact hs
  · have hn : s.device? d.name = some d := by rw [hs.named hd]; exact hd
    exact (hw.keeps (workStep_accounted driver) ⟨hs, hn⟩).1

/-! ## Operations -/

theorem run_accounted (task : Task) : Keeps (Accounted allowed) (run driver task) :=
  run_within driver (workOn_accounted driver)
    (fun name => accounted_of_sameHealth (SameHealth.forgetProbe name))
    (accounted_of_sameHealth SameHealth.announceCounters) task

theorem fireTimer_accounted (number : Nat) :
    Keeps (Accounted allowed) (fireTimer driver number) := fun _ =>
  fireTimer_within (fun _ => accounted_of_sameHealth (SameHealth.changeLifecycle _ _))
    (fun _ _ => accounted_of_sameHealth (SameHealth.settleTimer _ _ _))
    fun x _ => run_accounted driver x.task

theorem insertDevice_accounted (config : DeviceConfig) :
    Keeps (Accounted allowed) (insertDevice driver config) := fun s hs => by
  rcases insertDevice_cases driver config s with ⟨e, _, ha⟩ | ⟨d, _, _, _, i, ht⟩
  · rw [ha]
    exact hs
  · refine hs.install i (fun name hn => ?_) ?_
    · rw [ht, reportsOf_cons_added_ne hn, reportsOf_cons_silent rfl]
    · rw [ht, reportsOf_cons_added, hs.config]
      exact .added _ _

/-- The reports on a device are those on the one before it. -/
theorem replaceDevice_reports (config : DeviceConfig) (s : Service σ) (name : String) :
    reportsOf name ((replaceDevice driver config).after s).site.trace =
      reportsOf name s.site.trace := by
  rcases replaceDevice_cases driver config s with ⟨e, _, ha⟩ | ⟨d, old, _, _, _, _, ht⟩
  · rw [ha]
  · rw [ht, reportsOf_cons_silent rfl]

theorem replaceDevice_accounted (config : DeviceConfig) :
    Keeps (Accounted allowed) (replaceDevice driver config) := fun s hs => by
  have hr := replaceDevice_reports driver config s
  rcases replaceDevice_cases driver config s with ⟨e, _, ha⟩ | ⟨d, old, _, _, hold, i, ht⟩
  · rw [ha]
    exact hs
  · refine hs.install i (fun name _ => hr name) ?_
    rw [hr]
    exact (hs.agrees hold).of_eq rfl rfl

theorem dropDevice_accounted (name : String) :
    Keeps (Accounted allowed) (dropDevice driver name) := fun s hs => by
  rcases dropDevice_cases driver name s with ⟨_, _, h⟩ | ⟨_, hd, hc, hk, hr⟩
  · rw [h]
    exact hs
  · refine hs.erase hd hc hk fun n => ?_
    rw [hr, reportsOf_cons_silent rfl, reportsOf_cons_silent rfl]

theorem removeDevice_accounted (name : String) :
    Keeps (Accounted allowed) (removeDevice driver name) :=
  .bind (accounted_of_sameHealth (SameHealth.stopAutoEvents driver name)) fun _ =>
    .bind (accounted_of_sameHealth (SameHealth.cancelProbe name)) fun _ =>
      dropDevice_accounted driver name

theorem setAdminState_sameHealth (name : String) (state : AdminState) :
    Within SameHealth (setAdminState (σ := σ) name state) := by
  refine withDevice_within (fun d s => ?_) name
  rw [after_changeSite]
  exact SameHealth.setCondition rfl rfl

theorem perform_accounted (s : Service σ) (op : Operation σ) (h : Accounted allowed s) :
    Accounted allowed (perform driver s op) := by
  cases op with
  | addProfile p => exact h.sameHealth (SameHealth.addProfile p s)
  | removeProfile name => exact h.sameHealth (SameHealth.removeProfile name s)
  | addDevice config =>
    exact Within.bind (insertDevice_accounted driver config)
      (fun d => accounted_of_sameHealth (SameHealth.sampleRegistered driver d)) s h
  | updateDevice config =>
    exact Within.bind (replaceDevice_accounted driver config)
      (fun d => accounted_of_sameHealth (SameHealth.sampleRegistered driver d)) s h
  | removeDevice name => exact removeDevice_accounted driver name s h
  | setAdminState name state => exact h.sameHealth (setAdminState_sameHealth name state s)
  | setServiceAdminState state => exact h.sameHealth { SameHealth.refl s with }
  | deviceCommand | execute | postReadings | noteSuccess | noteFailure =>
    exact workOn_accounted driver (perform_chores driver rfl s).workOn h
  | startAutoEvents name => exact h.sameHealth (SameHealth.startAutoEvents driver name s)
  | stopAutoEvents name => exact h.sameHealth (SameHealth.stopAutoEvents driver name s)
  | start => exact h.sameHealth (SameHealth.start driver s)
  | stop force => exact h.sameHealth (SameHealth.stop driver force s)
  | fire timer => exact fireTimer_accounted driver timer s h
  | pass millis timeOfDay => exact h.sameHealth { SameHealth.refl s with }
  | change f => exact h.sameHealth { SameHealth.refl s with }

theorem performAll_accounted (h : Fresh s) (ops : List (Operation σ)) :
    Accounted s.controller.config.allowedFails (performAll driver s ops) :=
  performAll_keeps (perform_accounted driver) s ops (.ofFresh h)

/-! ## The closed form -/

/-- A device that is registered under the name stays so, perhaps in a new incarnation, and in the
health it is in, on the same account. -/
def Undisturbed (name : String) (s t : Service σ) : Prop :=
  ∀ d, s.device? name = some d → ∃ e, t.device? name = some e ∧
    (t.site.condition e).operating = (s.site.condition d).operating ∧
    (t.site.condition e).remainingFails = (s.site.condition d).remainingFails ∧
    reportsOf name t.site.trace = reportsOf name s.site.trace

theorem SameHealth.undisturbed (h : SameHealth s t) (name : String) : Undisturbed name s t := by
  intro d hd
  refine ⟨d, ?_, h.operating d, h.remaining d, h.reports name⟩
  rw [device?, Registry.device?, h.devices]
  exact hd

theorem Undisturbed.sameHealth {u : Service σ} {name : String} (h : Undisturbed name s t)
    (same : SameHealth t u) : Undisturbed name s u := by
  intro d hd
  obtain ⟨e, he, ho, hr, ha⟩ := h d hd
  obtain ⟨e', he', ho', hr', ha'⟩ := same.undisturbed name e he
  exact ⟨e', he', ho'.trans ho, hr'.trans hr, ha'.trans ha⟩

/-- An update hands the health of a device on to its next incarnation. -/
theorem updateDevice_undisturbed (config : DeviceConfig) (s : Service σ) :
    Undisturbed config.name s ((updateDevice driver config).after s) := by
  have replaced : Undisturbed config.name s ((replaceDevice driver config).after s) := by
    intro d hd
    have hr := replaceDevice_reports driver config s config.name
    rcases replaceDevice_cases driver config s with ⟨e, _, ha⟩ | ⟨e, old, _, hn, hold, i, _⟩
    · rw [ha]
      exact ⟨d, hd, rfl, rfl, rfl⟩
    · cases (hn ▸ hold).symm.trans hd
      refine ⟨e, by rw [i.device?, if_pos hn], ?_, ?_, hr⟩ <;> rw [i.condition, if_pos rfl]
  exact replaced.sameHealth (SameHealth.sampleRegistered driver _ _)

theorem reported_condition {α : Type} {d : Device} (hk : s.site.Knows d) (r : Report)
    {next : OperatingState × OperatingState → Action σ α}
    (hnext : ∀ p, Within SameHealth (next p)) :
    let c := (s.site.condition d).following s.controller.config.allowedFails r
    let t := (enter d r >>= next).after s
    (t.site.condition d).operating = c.operating ∧
      (t.site.condition d).remainingFails = c.remainingFails := by
  intro c t
  have same : SameHealth ((enter d r).after s) t := hnext _ _
  have entered : ((enter d r).after s).site.condition d = c := by
    show (s.site.setCondition d c).condition d = c
    rw [Site.condition_setCondition hk, if_pos rfl]
  exact ⟨entered ▸ same.operating d, entered ▸ same.remaining d⟩

theorem reportFailure_operating {d : Device} (hk : s.site.Knows d) (reason : String) :
    (((reportFailure d reason).after s).site.condition d).operating =
      ((s.site.condition d).following s.controller.config.allowedFails .failure).operating :=
  (reported_condition hk .failure fun _ => .ite (SameHealth.wentDown d reason) (.pure _)).1

theorem forceDown_condition {d : Device} (hk : s.site.Knows d) (reason : String) :
    (((forceDown d reason).after s).site.condition d).operating = .down ∧
      (((forceDown d reason).after s).site.condition d).remainingFails =
        (s.site.condition d).remainingFails :=
  reported_condition hk .violation fun _ => .ite (SameHealth.wentDown d reason) (.pure _)

/-- The failures in hand and the operating state of every device are functions of the failures
and the violations since its last success. So the failure that brings a device down is the last
one that is allowed for, a device that is up has one in hand, a violation takes none, and neither
a lock nor an update disturbs any of this. -/
theorem health_closed_form {s₀ : Service σ} (h₀ : Fresh s₀) (ops : List (Operation σ))
    {name : String} {d : Device} (hd : (performAll driver s₀ ops).device? name = some d) :
    let allowed := s₀.controller.config.allowedFails
    let s := performAll driver s₀ ops
    let c := s.site.condition d
    let f := failures (reportsOf name s.site.trace)
    let v := violations (reportsOf name s.site.trace)
    c.remainingFails = allowed - min allowed f ∧
    (c.operating = .down ↔ 0 < v ∨ 0 < allowed ∧ allowed ≤ f) ∧
    (c.operating = .up → 0 < allowed → 0 < c.remainingFails) ∧
    (∀ reason, c.operating = .up →
      ((((reportFailure d reason).after s).site.condition d).operating = .down ↔
        f + 1 = allowed)) ∧
    (∀ reason, let c' := ((forceDown d reason).after s).site.condition d
      c'.operating = .down ∧ c'.remainingFails = c.remainingFails) ∧
    (∀ state, Undisturbed name s (perform driver s (.setAdminState name state))) ∧
    ∀ config : DeviceConfig, config.name = name →
      Undisturbed name s (perform driver s (.updateDevice config)) := by
  intro allowed s c f v
  have hs : Accounted allowed s := performAll_accounted driver h₀ ops
  have hc : c.Agrees allowed (reportsOf name s.site.trace) := hs.agrees hd
  refine ⟨hc.remaining, hc.down, hc.inHand, ?_, ?_, ?_, ?_⟩
  · intro reason hup
    have hnow : ¬ (0 < v ∨ 0 < allowed ∧ allowed ≤ f) := by
      rw [← hc.down, hup]
      exact nofun
    have hnext := (hc.following .failure).down
    rw [failures_failure, violations_failure] at hnext
    rw [reportFailure_operating (hs.known hd), hs.config]
    refine hnext.trans ?_
    show 0 < v ∨ 0 < allowed ∧ allowed ≤ f + 1 ↔ f + 1 = allowed
    omega
  · exact forceDown_condition (hs.known hd)
  · intro state
    exact (setAdminState_sameHealth name state s).undisturbed name
  · rintro config rfl
    exact updateDevice_undisturbed driver config s

/-- A device that two failures are allowed for and that failed once: one is in hand, and the next
one brings the device down. -/
theorem second_failure_of_two :
    let s := performAll (Simulation.driver false) (ofConfig { allowedFails := 2 } 0 {})
      [.addProfile { name := "pump" }, .addDevice { name := "p1", profileName := "pump" },
        .noteFailure "p1" "no answer"]
    ∃ d, s.device? "p1" = some d ∧ (s.site.condition d).remainingFails = 1 ∧
      ∀ reason, (((reportFailure d reason).after s).site.condition d).operating = .down := by
  intro s
  obtain ⟨d, hd⟩ := Option.isSome_iff_exists.1 (by decide : (s.device? "p1").isSome = true)
  obtain ⟨hr, hdown, -, hnext, -⟩ :=
    health_closed_form (Simulation.driver false) (ofConfig_fresh _ _ _) _ hd
  have hf : failures (reportsOf "p1" s.site.trace) = 1 := by decide
  have hv : violations (reportsOf "p1" s.site.trace) = 0 := by decide
  have hup : (s.site.condition d).operating = .up := by
    cases h : (s.site.condition d).operating with
    | up => rfl
    | down =>
      have := hdown.1 h
      rw [hf, hv] at this
      exact absurd this (by decide)
  refine ⟨d, hd, by rw [hr, hf]; rfl, fun reason => (hnext reason hup).2 ?_⟩
  rw [hf]
  rfl

end FieldGateway.Service
