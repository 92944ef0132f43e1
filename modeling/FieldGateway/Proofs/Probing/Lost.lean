import FieldGateway.Driver.Simulated
import FieldGateway.Proofs.Probing.Run
import Mathlib.Tactic.ByContra

/-
  Devices that nobody probes. A device is `Probed` if, when it is down, a probe of it may still
  fire or its commands are known and none of them can probe it. Every turn keeps that where probes
  are set at all; only the stop of the service, which ends all probes, and an update that gives
  a device other commands when its probe gave up, may not (`Loses`). A run without the two keeps
  every device probed, and the first of the two leaves a device down without a probe, which no
  start brings back (`unprobed_iff_loses`).
-/

namespace FieldGateway.Service

open FieldGateway.Action

variable {σ : Type} (driver : Driver σ) {s t : Service σ} {allowed : Nat} {name : String}

/-- The command that a probe of a device reads. -/
def probeCommand? (s : Service σ) (d : Device) : Option Command :=
  (s.site.index driver d.registration).1.probe?

/-- A device that is down is probed, unless its commands are known and none can probe it. -/
def Probed (name : String) (s : Service σ) : Prop :=
  ∀ d, s.device? name = some d → s.site.isDown d = true → s.hasProbe name = true ∨ Barren s d

/-- A device is left down without a probe: the service stops, or the device is updated after its
probe gave up. -/
inductive Loses (name : String) (s : Service σ) : Operation σ → Prop
  | stop (force : Bool) {d : Device} (registered : s.device? name = some d)
      (down : s.site.isDown d = true) (fertile : ¬ Barren s d) : Loses name s (.stop force)
  | update {config : DeviceConfig} {d e : Device} (named : config.name = name)
      (registered : s.device? name = some d) (down : s.site.isDown d = true)
      (unprobed : s.hasProbe name = false)
      (updated : (perform driver s (.updateDevice config)).device? name = some e)
      (fertile : ¬ Barren (perform driver s (.updateDevice config)) e) :
      Loses name s (.updateDevice config)

/-- No operation of a run loses the device. -/
def LossFree (name : String) (s : Service σ) : List (Operation σ) → Prop
  | [] => True
  | op :: ops => ¬ Loses driver name s op ∧ LossFree name (perform driver s op) ops

theorem Barren.probeCommand? {d : Device} (h : Barren s d) : probeCommand? driver s d = none := by
  obtain ⟨i, made, none⟩ := h
  rcases Site.index_learns driver d.registration s.site with ⟨known, _⟩ | ⟨unknown, _⟩
  · cases made.symm.trans known
    exact none
  · cases made.symm.trans unknown

theorem Barren.congr {d : Device} (h : Barren s d) (indexes : t.site.indexes = s.site.indexes) :
    Barren t d := by
  obtain ⟨i, made, none⟩ := h
  exact ⟨i, by rw [made?, indexes]; exact made, none⟩

theorem Barren.calm {d : Device} (h : Barren s d) (calm : Calm s t) (hs : Catalogued s) :
    Barren t d := by
  obtain ⟨i, made, none⟩ := h
  exact ⟨i, (calm.learning hs).2 _ i made, none⟩

/-! ## Turns -/

theorem Probed.calm (h : Probed name s) (hs : Tidy allowed s) (calm : Calm s t) :
    Probed name t := by
  intro d hd hdown
  rw [calm.device?] at hd
  rw [calm.isDown] at hdown
  refine (h d hd hdown).imp (fun hp => ?_) fun hb => hb.calm calm hs.catalogued
  rw [(calm.probing hs.assigned).2]
  exact hp

/-- A device goes down, and a probe is armed; or it comes up, and needs none. -/
theorem Probed.concluded (h : Probed name s) (hs : Tidy allowed s)
    (timeout : s.controller.config.downTimeout?.isSome = true) {d : Device}
    (hd : s.device? d.name = some d) (r : Report) (reason : String) :
    Probed name ((conclude d r reason).after s) := by
  intro e he hdown
  rw [device?_conclude] at he
  have barren (hb : Barren s e) : Barren ((conclude d r reason).after s) e :=
    hb.congr (conclude_catalogue d r reason s).2
  have entered : Assigned ((enter d r).after s) := hs.assigned.of_controller rfl
  rw [Site.isDown, operating_conclude (hs.accounted.known hd)] at hdown
  by_cases hn : d.name = name
  · subst hn
    cases hd.symm.trans he
    rw [if_pos rfl] at hdown
    rcases conclude_cases d r reason s with ⟨same, ht⟩ | ⟨hup, _⟩ | ⟨_, ht⟩
    · have before : s.site.isDown d = true := by
        rw [← same] at hdown
        exact hdown
      refine (h d hd before).imp (fun hp => ?_) barren
      rw [ht]
      exact hp
    · rw [hup] at hdown
      cases hdown
    · left
      rw [ht, (wentDown_assigned entered d reason).2]
      simp only [decide_true, Bool.true_and]
      rw [show ((enter d r).after s).controller = s.controller from rfl, timeout, Bool.or_true]
  · rw [if_neg fun hserial => hn (hs.accounted.apart hd he hserial)] at hdown
    refine (h e he hdown).imp (fun hp => ?_) barren
    rcases conclude_cases d r reason s with ⟨_, ht⟩ | ⟨_, ht⟩ | ⟨_, ht⟩
    · rw [ht]
      exact hp
    · rw [ht, (cameUp_assigned entered d).2, decide_eq_true hn, Bool.and_true]
      exact hp
    · rw [ht, (wentDown_assigned entered d reason).2, Bool.or_eq_true]
      exact .inl hp

theorem Probed.insertDevice (h : Probed name s) (hs : Tidy allowed s) (config : DeviceConfig) :
    Probed name ((insertDevice driver config).after s) := by
  have placed := insertDevice_placed driver config s
  rcases insertDevice_cases driver config s with ⟨_, _, ha⟩ | ⟨d, _, _, _, i, _⟩
  · rw [ha]
    exact h
  intro e he hdown
  rw [i.device?] at he
  rw [Site.isDown, i.condition] at hdown
  split at he
  · cases he
    rw [if_pos rfl] at hdown
    cases hdown
  · have older : e.serial < d.serial := i.serial ▸ hs.accounted.known he
    rw [if_neg (Nat.ne_of_lt older)] at hdown
    refine (h e he hdown).imp (fun hp => ?_) fun hb => hb.congr placed.indexes
    rw [hasProbe_of_controller placed.controller]
    exact hp

theorem Probed.removed (h : Probed name s) (hs : Tidy allowed s) (n : String) :
    Probed name ((dropDevice driver n).after ((cancelProbe n).after s)) := by
  let u := (cancelProbe n).after s
  have placed := dropDevice_placed driver n u
  intro d hd hdown
  have hne : n ≠ name := by
    rintro rfl
    cases (device?_dropDevice driver n u).symm.trans hd
  have kept : s.device? name = some d ∧ s.site.isDown d = true := by
    have site : u.site = s.site := site_cancelProbe n s
    rw [device?, Site.isDown, ← site]
    rcases dropDevice_cases driver n u with ⟨_, _, ha⟩ | ⟨_, devices, conditions, _⟩
    · rw [ha] at hd hdown
      exact ⟨hd, hdown⟩
    · rw [device?, Registry.device?, devices, Dict.find?_erase, if_neg hne] at hd
      rw [Site.isDown, Site.condition, conditions] at hdown
      exact ⟨hd, hdown⟩
  refine (h d kept.1 kept.2).imp (fun hp => ?_) fun hb => ?_
  · rw [hasProbe_of_controller placed.controller, (cancelProbe_assigned hs.assigned n).2, hp,
      decide_eq_true hne]
    rfl
  · exact hb.congr (placed.indexes.trans (by rw [site_cancelProbe]))

theorem Probed.forgotten (h : Probed name s) {n : String} (hn : s.device? n = none) :
    Probed name ((forgetProbe n).after s) := by
  intro d hd hdown
  have hne : n ≠ name := by
    rintro rfl
    cases hn.symm.trans hd
  refine (h d hd hdown).imp (fun hp => ?_) id
  rw [hasProbe_forgetProbe, hp, decide_eq_true hne]
  rfl

theorem Probed.gaveUp (h : Probed name s) (hs : Tidy allowed s) {n : String} {i : Nat}
    (off : Calm.Retires i s t) (hi : s.taskOf i = some (.probe n))
    (hn : ∀ d, s.device? n = some d → s.site.isDown d = true → Barren s d) : Probed name t := by
  have silent : Silent s t := ⟨off.health, off.plain.noting, off.plain.metadata⟩
  intro d hd hdown
  rw [silent.device?] at hd
  rw [silent.isDown] at hdown
  by_cases hname : n = name
  · exact .inr ((hn d (hname ▸ hd) hdown).congr off.plain.indexes)
  · refine (h d hd hdown).imp (fun hp => ?_) fun hb => hb.congr off.plain.indexes
    have live (j : Nat) (hj : s.controller.probes.find? name = some j) :
        t.isLive j = s.isLive j := by
      rw [off.live, decide_eq_true, Bool.and_true]
      rintro rfl
      cases hi.symm.trans (hs.assigned.probes hj)
      exact hname rfl
    exact (hasProbe_congr (by rw [off.plain.probes]) live).trans hp

variable {driver}

theorem Turn.config (turn : Turn driver s t) : t.controller.config = s.controller.config := by
  cases turn with
  | calm calm => exact calm.health.config
  | report r reason hd => exact (conclude_sameHealth _ r reason s).config
  | insert config => rw [(insertDevice_placed driver config s).controller]
  | remove n =>
    rw [(dropDevice_placed driver n _).controller]
    exact (SameHealth.cancelProbe n s).config
  | forget hd => rfl
  | giveUp off hi hd => exact off.health.config

theorem Turns.probed (turns : Turns driver s t) (hs : Tidy allowed s)
    (timeout : s.controller.config.downTimeout?.isSome = true) (h : Probed name s) :
    Probed name t ∧ t.controller.config.downTimeout?.isSome = true := by
  induction turns with
  | refl => exact ⟨h, timeout⟩
  | @tail u v before turn ih =>
    obtain ⟨hu, timeout⟩ := ih
    have tidy : Tidy allowed u := Turns.tidy driver before hs
    refine ⟨?_, turn.config ▸ timeout⟩
    cases turn with
    | calm calm => exact hu.calm tidy calm
    | report r reason hd => exact hu.concluded tidy timeout hd r reason
    | insert config => exact hu.insertDevice driver tidy config
    | remove n => exact hu.removed driver tidy n
    | forget hd => exact hu.forgotten hd
    | giveUp off hi hd => exact hu.gaveUp tidy off hi hd

/-! ## The two operations that lose a device -/

variable (driver)

theorem stopSampling_plain : Within Plain (stopSampling driver) :=
  .bind (fun _ => ⟨.of_eq rfl, rfl, rfl, rfl, rfl⟩) fun _ => .bind .get fun _ => .forM fun _ =>
    .bind (fun _ => ⟨.of_eq rfl, rfl, rfl, rfl, rfl⟩) fun _ =>
      .forM (Calm.stopSampler_plain driver)

theorem stopRest_indexes (force : Bool) (s : Service σ) :
    ((stopRest driver force).after s).site.indexes = s.site.indexes := by
  unfold stopRest
  rw [after_get_bind]
  cases s.controller.countersTimer <;> rfl

/-- A service that is stopped has its devices as they were, and no probe. -/
theorem stop_unprobed (hs : Tidy allowed s) (force : Bool) :
    let t := (stop driver force).after s
    Silent s t ∧ t.site.indexes = s.site.indexes ∧ ∀ name, t.hasProbe name = false := by
  rw [after_stop]
  intro t
  let u := (stopSampling driver).after s
  have stopped := stopSampling_calm driver s
  have tidy := cancelAllProbes_tidy (hs.calm stopped)
  have rest := stopRest_calm driver force ((cancelAllProbes (σ := σ)).after u)
  obtain ⟨timers, ended⟩ := after_cancelAllProbes u
  refine ⟨(stopped.toSilent.trans (cancelAllProbes_silent u)).trans rest.toSilent, ?_,
    fun name => ?_⟩
  · have hu := stopRest_indexes driver force ((cancelAllProbes (σ := σ)).after u)
    exact hu.trans ((congrArg (·.site.indexes) ended).trans (stopSampling_plain driver s).indexes)
  · exact ((rest.probing tidy.assigned).2 name).trans (hasProbe_cancelAllProbes name u)

/-- An update arms no probe and ends none. -/
theorem updateDevice_hasProbe (hs : Tidy allowed s) (config : DeviceConfig) (name : String) :
    ((updateDevice driver config).after s).hasProbe name = s.hasProbe name := by
  have placed := replaceDevice_placed driver config s
  have sampled := updateDevice_calm driver config s
  have assigned := hs.assigned.of_controller placed.controller
  exact ((sampled.probing assigned).2 name).trans (hasProbe_of_controller placed.controller name)

theorem Loses.not_probed {op : Operation σ} (hs : Tidy allowed s)
    (h : Loses driver name s op) : ¬ Probed name (perform driver s op) := by
  intro probed
  cases h with
  | stop force registered down fertile =>
    obtain ⟨silent, indexes, off⟩ := stop_unprobed driver hs force
    rcases probed _ ((silent.device? name).trans registered) ((silent.isDown _).trans down) with
      hp | hb
    · cases (off name).symm.trans hp
    · exact fertile (hb.congr indexes.symm)
  | @update config d e named registered down unprobed updated fertile =>
    subst named
    obtain ⟨e', he, operating, -⟩ := updateDevice_undisturbed driver config s d registered
    cases updated.symm.trans he
    have hdown : (perform driver s (.updateDevice config)).site.isDown e = true :=
      (congrArg (decide <| · = OperatingState.down) operating).trans down
    rcases probed e he hdown with hp | hb
    · cases unprobed.symm.trans ((updateDevice_hasProbe driver hs config _).symm.trans hp)
    · exact fertile hb

/-- The other devices are as they were, and the one that is updated is in the health it was in. -/
theorem Probed.updateDevice (h : Probed name s) (hs : Tidy allowed s) {config : DeviceConfig}
    (kept : ¬ Loses driver name s (.updateDevice config)) :
    Probed name ((updateDevice driver config).after s) := by
  let t := perform driver s (.updateDevice config)
  have sampled := updateDevice_calm driver config s
  have placed := replaceDevice_placed driver config s
  have tidy : Tidy allowed ((replaceDevice driver config).after s) :=
    placed.tidy hs (replaceDevice_accounted driver config s hs.accounted)
  rcases replaceDevice_cases driver config s with ⟨_, _, ha⟩ | ⟨d, old, _, hn, hold, i, _⟩
  · rw [ha] at sampled
    exact h.calm hs sampled
  by_cases hname : d.name = name
  · intro e he hdown
    by_cases hb : Barren t e
    · exact .inr hb
    left
    rw [updateDevice_hasProbe driver hs]
    by_contra unprobed
    have hd : e = d := by
      rw [sampled.device?, i.device?, if_pos hname] at he
      exact (Option.some.inj he).symm
    rw [hd, sampled.isDown, Site.isDown, i.condition, if_pos rfl] at hdown
    exact kept (.update (hn.symm.trans hname) (hname ▸ hold) hdown
      (Bool.eq_false_iff.2 unprobed) he hb)
  · refine Probed.calm (fun e he hdown => ?_) tidy sampled
    rw [i.device?, if_neg hname] at he
    have older : e.serial < d.serial := i.serial ▸ hs.accounted.known he
    rw [Site.isDown, i.condition, if_neg (Nat.ne_of_lt older)] at hdown
    refine (h e he hdown).imp (fun hp => ?_) fun hb => hb.congr placed.indexes
    rw [hasProbe_of_controller placed.controller]
    exact hp

theorem perform_probed (hs : Tidy allowed s)
    (timeout : s.controller.config.downTimeout?.isSome = true) (h : Probed name s)
    {op : Operation σ} (kept : ¬ Loses driver name s op) :
    Probed name (perform driver s op) ∧
      (perform driver s op).controller.config.downTimeout?.isSome = true := by
  rcases perform_turns driver hs op with ⟨config, rfl⟩ | ⟨force, rfl⟩ | turns
  · refine ⟨h.updateDevice driver hs kept, ?_⟩
    have kept := (updateDevice_calm driver config s).health.config
    rw [(replaceDevice_placed driver config s).controller] at kept
    exact (congrArg (·.downTimeout?.isSome) kept).trans timeout
  · obtain ⟨silent, indexes, -⟩ := stop_unprobed driver hs force
    refine ⟨fun d hd hdown => .inr ?_, ?_⟩
    · by_contra hb
      refine kept (.stop force (silent.device? name ▸ hd) (silent.isDown d ▸ hdown) fun hb' => ?_)
      exact hb (hb'.congr indexes)
    · rw [← timeout]
      exact congrArg (·.downTimeout?.isSome) silent.health.config
  · exact turns.probed hs timeout h

theorem start_running (h : (start driver).result s = .ok ()) :
    ((start driver).after s).controller.running = true := by
  unfold start at h ⊢
  rw [result_bind] at h
  rw [after_bind]
  cases hp : (onSite (Site.prepare driver)).result s with
  | error e =>
    rw [hp] at h
    cases h
  | ok _ =>
    dsimp only
    rw [after_get_bind, after_bind, after_bind, after_bind, after_pure, after_changeController]

/-! ## Runs -/

/-- A run that does not lose the device keeps it probed. -/
theorem performAll_probed (hs : Tidy allowed s)
    (timeout : s.controller.config.downTimeout?.isSome = true) (h : Probed name s)
    (ops : List (Operation σ)) (kept : LossFree driver name s ops) :
    let t := performAll driver s ops
    Tidy allowed t ∧ t.controller.config.downTimeout?.isSome = true ∧ Probed name t := by
  induction ops generalizing s with
  | nil => exact ⟨hs, timeout, h⟩
  | cons op ops ih =>
    obtain ⟨next, timeout⟩ := perform_probed driver hs timeout h kept.1
    exact ih (perform_tidy driver hs op) timeout next kept.2

/-- A device that is down when the service stops is down when it runs again, without a probe. -/
theorem restart_unprobed (hs : Tidy allowed s) (force : Bool) {d : Device}
    (hd : s.device? name = some d) (down : s.site.isDown d = true) :
    let stopped := perform driver s (.stop force)
    let t := perform driver stopped .start
    t.device? name = some d ∧ t.site.isDown d = true ∧ t.hasProbe name = false := by
  intro stopped t
  obtain ⟨silent, -, off⟩ := stop_unprobed driver hs force
  have tidy : Tidy allowed stopped := perform_tidy driver hs (.stop force)
  have started : Calm stopped t := Calm.start driver stopped
  have same : t.device? name = s.device? name :=
    (started.device? name).trans (silent.device? name)
  have health : t.site.isDown d = s.site.isDown d := (started.isDown d).trans (silent.isDown d)
  have probes : t.hasProbe name = stopped.hasProbe name := (started.probing tidy.assigned).2 name
  exact ⟨same.trans hd, health.trans down, probes.trans (off name)⟩

/-- Where probes are set, a device that is down and can be probed has a probe, in every state to
which a run without a loss leads; the first loss, and no other operation, ends that. One such loss
is the stop of the service: when it runs again, what was down is down without a probe. -/
theorem unprobed_iff_loses {s₀ : Service σ} (h₀ : Fresh s₀)
    (timeout : s₀.controller.config.downTimeout?.isSome = true) (name : String)
    (ops : List (Operation σ)) (kept : LossFree driver name s₀ ops) :
    let s := performAll driver s₀ ops
    (∀ d, s.device? name = some d → s.site.isDown d = true →
      (probeCommand? driver s d).isSome = true → s.hasProbe name = true) ∧
    (∀ op, ¬ Probed name (perform driver s op) ↔ Loses driver name s op) ∧
    ∀ d force, s.device? name = some d → s.site.isDown d = true →
      let stopped := perform driver s (.stop force)
      let t := perform driver stopped .start
      (t.device? name = some d ∧ t.site.isDown d = true ∧ t.hasProbe name = false) ∧
        ((start driver).result stopped = .ok () → t.controller.running = true) := by
  intro s
  have fresh : Probed name s₀ := fun d hd => by
    rw [device?, h₀.registry] at hd
    cases hd
  obtain ⟨tidy, timeout, probed⟩ :=
    performAll_probed driver (tidy_of_fresh h₀) timeout fresh ops kept
  refine ⟨fun d hd down command => ?_, fun op => ⟨fun lost => ?_, Loses.not_probed driver tidy⟩,
    fun d force hd down => ⟨restart_unprobed driver tidy force hd down, start_running driver⟩⟩
  · rcases probed d hd down with hp | hb
    · exact hp
    · rw [hb.probeCommand? driver] at command
      cases command
  · by_contra hop
    exact lost (perform_probed driver tidy timeout probed hop).1

/-- A device that fails once too often is probed. The service stops and starts: it runs, the device
is down, and there is a command to probe it, but no probe. -/
theorem unprobed_after_restart :
    let driver := Simulation.driver false
    let s₀ := ofConfig { allowedFails := 1, downTimeoutSecs := 1 } 0 {}
    let ops : List (Operation Simulation) :=
      [.addProfile { name := "pump", resources :=
         [{ name := "level", properties := { type := .scalar (.int .int32) } }] },
       .addDevice { name := "p1", profileName := "pump" }, .start, .noteFailure "p1" "no answer"]
    let s := performAll driver s₀ ops
    let t := perform driver (perform driver s (.stop false)) .start
    LossFree driver "p1" s₀ ops ∧ s.hasProbe "p1" = true ∧
      t.controller.running = true ∧ t.hasProbe "p1" = false ∧
      (t.device? "p1").any (fun d => t.site.isDown d && (probeCommand? driver t d).isSome) := by
  intro driver s₀ ops s t
  have kept : LossFree driver "p1" s₀ ops := by
    refine ⟨?_, ?_, ?_, ?_, trivial⟩ <;> intro lost <;> cases lost
  obtain ⟨d, hd⟩ := Option.isSome_iff_exists.1 (by decide : (s.device? "p1").isSome = true)
  have able : (s.device? "p1").all
      (fun d => s.site.isDown d && (probeCommand? driver s d).isSome) = true := by decide
  rw [hd, Option.all_some, Bool.and_eq_true] at able
  have started : (t.device? "p1").any
      (fun d => t.site.isDown d && (probeCommand? driver t d).isSome) = true := by decide
  have running : t.controller.running = true := by decide
  obtain ⟨probed, -, lost⟩ := unprobed_iff_loses driver (ofConfig_fresh _ _ _) rfl "p1" ops kept
  exact ⟨kept, probed d hd able.1 able.2, running, (lost d false hd able.1).1.2.2, started⟩

end FieldGateway.Service
