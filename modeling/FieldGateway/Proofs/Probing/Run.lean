import FieldGateway.Proofs.Probing.Turn

/-
  Operations as chains of turns. Work on a device that is registered is turns (`work_turns`), and
  so is what timers run (`fireTimer_turns`), the timer that ends then being one more; so are all
  operations but an update of a device and the stop of the service (`perform_turns`).
-/

namespace FieldGateway.Service

open FieldGateway.Action

variable {σ : Type} (driver : Driver σ) {s t u : Service σ} {allowed : Nat}

theorem Calm.turns (h : Calm s t) : Turns driver s t := .single (.calm h)

/-! ## Work -/

/-- A step of work is calm, or it is a report. -/
theorem workStep_cases {d : Device} (h : WorkStep driver d s t) :
    Calm s t ∨ ∃ r reason, t = (conclude d r reason).after s := by
  cases h with
  | index => exact .inl (Calm.index driver _ s)
  | address => exact .inl (Calm.address driver d s)
  | read a requests => exact .inl (Calm.read driver d a requests s)
  | write a requests values => exact .inl (Calm.write driver d a requests values s)
  | success => exact .inr ⟨.success, "", rfl⟩
  | failure reason => exact .inr ⟨.failure, reason, rfl⟩
  | violation reason => exact .inr ⟨.violation, reason, rfl⟩
  | countRead => exact .inl (Calm.countRead s)
  | touch => exact .inl (Calm.touch d s)
  | cook c results => exact .inl (Calm.cook d c results s)
  | publish e => exact .inl (Calm.publish e s)
  | remember number results => exact .inl (Calm.remember number results s)

theorem workStep_turn {d : Device} (h : WorkStep driver d s t) (hd : s.device? d.name = some d) :
    Turn driver s t ∧ t.device? d.name = some d := by
  rcases workStep_cases driver h with calm | ⟨r, reason, rfl⟩
  · exact ⟨.calm calm, (calm.device? d.name).trans hd⟩
  · exact ⟨.report r reason hd, (device?_conclude d r reason d.name s).trans hd⟩

theorem work_turns {d : Device} (h : Work driver d s t) (hd : s.device? d.name = some d) :
    Turns driver s t :=
  (h.keeps (P := fun u => Turns driver s u ∧ u.device? d.name = some d)
    (fun step hs => (workStep_turn driver step hs.2).imp_left hs.1.tail) ⟨.refl, hd⟩).1

theorem workOn_turns {name : String} (h : WorkOn driver name s t) (hs : Tidy allowed s) :
    Turns driver s t := by
  rcases h with rfl | ⟨d, hd, hw⟩
  · exact .refl
  · exact work_turns driver hw (by rw [hs.accounted.named hd]; exact hd)

/-! ## Timers -/

/-- A change of one timer that leaves it its task. -/
structure Modified (number : Nat) (f : Timer → Timer) (s t : Service σ) : Prop where
  health : SameHealth s t
  plain : Plain s t
  timers : t.controller.timers = s.controller.timers.modify number f
  samplers : t.controller.samplers = s.controller.samplers
  counters : t.controller.countersTimer = s.controller.countersTimer
  task : ∀ x, s.controller.timers.get? number = some x → (f x).task = x.task

variable {number : Nat} {f : Timer → Timer}

theorem Modified.taskOf (h : Modified number f s t) (i : Nat) : t.taskOf i = s.taskOf i := by
  rw [Service.taskOf, h.timers, Numbered.get?_modify]
  split
  · rename_i hi
    subst hi
    rw [Service.taskOf]
    cases hx : s.controller.timers.get? number with
    | none => rfl
    | some x => simp [h.task x hx]
  · rfl

theorem Modified.isLive (h : Modified number f s t) (i : Nat) :
    t.isLive i = if number = i
      then (s.controller.timers.get? i).any fun x => !(f x).lifecycle.isRetired
      else s.isLive i := by
  rw [Service.isLive, h.timers, Numbered.get?_modify]
  split
  · exact Option.any_map ..
  · rfl

/-- A timer that is not retired stays so. -/
theorem Modified.calm (h : Modified number f s t)
    (live : ∀ x, s.controller.timers.get? number = some x →
      (f x).lifecycle.isRetired = x.lifecycle.isRetired) : Calm s t :=
  Calm.of_plain h.health h.plain fun hs =>
    ⟨hs.congr h.taskOf (scheduleOf_congr h.samplers) h.counters h.plain.probes, fun _ i _ => by
      rw [h.isLive, Service.isLive]
      split
      · rename_i hi
        subst hi
        cases hx : s.controller.timers.get? number with
        | none => rfl
        | some x => simp [live x hx]
      · rfl⟩

theorem Modified.retires (h : Modified number f s t)
    (ends : ∀ x, s.controller.timers.get? number = some x →
      (f x).lifecycle.isRetired = true) : Calm.Retires number s t where
  health := h.health
  plain := h.plain
  task := h.taskOf
  live i := by
    rw [h.isLive, Service.isLive]
    split
    · rename_i hi
      subst hi
      cases hx : s.controller.timers.get? number with
      | none => rfl
      | some x => simp [ends x hx]
    · rename_i hi
      simp [hi]
  schedule := scheduleOf_congr h.samplers
  counters := h.counters

theorem Modified.silent (h : Modified number f s t) : Silent s t :=
  ⟨h.health, h.plain.noting, h.plain.metadata⟩

theorem changeLifecycle_modified (number : Nat) (l : Timer.Lifecycle) (s : Service σ) :
    Modified number (fun t => { t with lifecycle := l }) s
      ((changeLifecycle number l).after s) :=
  ⟨SameHealth.changeLifecycle number _ s, ⟨.of_eq rfl, rfl, rfl, rfl, rfl⟩, rfl, rfl, rfl,
    fun _ _ => rfl⟩

theorem beginTimer_calm {x : Timer} (hx : s.controller.timers.get? number = some x)
    (hb : x.lifecycle.beginFire.1 = true) :
    Calm s ((changeLifecycle number x.lifecycle.beginFire.2).after s) := by
  refine (changeLifecycle_modified number _ s).calm fun y hy => ?_
  cases hx.symm.trans hy
  unfold Timer.Lifecycle.beginFire at hb ⊢
  split at hb
  · rename_i hp
    rw [Timer.Lifecycle.isRetired, Timer.Lifecycle.isRetired, hp]
    rfl
  · cases hb

/-- The end of the work of a timer. -/
theorem settleTimer_modified {x : Timer} (hx : s.controller.timers.get? number = some x)
    (fired : Nat) (control : Timer.Control) :
    ∃ waiting, Modified number
      (fun t => { t with lifecycle := (x.lifecycle.settle control).2, waiting }) s
      ((settleTimer number fired control).after s) := by
  have health := SameHealth.settleTimer number fired control s
  unfold settleTimer at health ⊢
  rw [after_get_bind, hx] at health ⊢
  exact ⟨_, health, ⟨.of_eq rfl, rfl, rfl, rfl, rfl⟩, rfl, rfl, rfl, fun _ _ => rfl⟩

theorem settleTimer_of_none (hx : s.controller.timers.get? number = none) (fired : Nat)
    (control : Timer.Control) : (settleTimer number fired control).after s = s := by
  unfold settleTimer
  rw [after_get_bind, hx]
  rfl

theorem settleTimer_silent (number fired : Nat) (control : Timer.Control) :
    Within Silent (settleTimer (σ := σ) number fired control) := fun s => by
  cases hx : s.controller.timers.get? number with
  | none =>
    rw [settleTimer_of_none hx]
    exact .refl s
  | some x =>
    obtain ⟨waiting, h⟩ := settleTimer_modified hx fired control
    exact h.silent

theorem settleTimer_again (number fired : Nat) :
    Within Calm (settleTimer (σ := σ) number fired .again) := fun s => by
  cases hx : s.controller.timers.get? number with
  | none =>
    rw [settleTimer_of_none hx]
    exact .refl s
  | some x =>
    obtain ⟨waiting, h⟩ := settleTimer_modified hx fired .again
    refine h.calm fun y hy => ?_
    cases hx.symm.trans hy
    simp only [Timer.Lifecycle.settle, Timer.Lifecycle.rearm]
    split
    · rename_i hp
      rw [Timer.Lifecycle.isRetired, Timer.Lifecycle.isRetired, hp]
      rfl
    · rfl

theorem settleTimer_retire (number fired : Nat) (s : Service σ) :
    Calm.Retires number s ((settleTimer number fired .retire).after s) := by
  cases hx : s.controller.timers.get? number with
  | none =>
    rw [settleTimer_of_none hx]
    refine ⟨.refl s, .refl s, fun _ => rfl, fun i => ?_, fun _ => rfl, rfl⟩
    by_cases hi : number = i
    · simp [isLive, ← hi, hx]
    · simp [hi]
  | some x =>
    obtain ⟨waiting, h⟩ := settleTimer_modified hx fired .retire
    exact h.retires fun _ _ => rfl

/-! ## Probes -/

theorem reportSuccess_up (h : Tidy allowed s) {d : Device} (hd : s.device? d.name = some d) :
    ((reportSuccess d).after s).site.isDown d = false := by
  rw [Site.isDown]
  have up := operating_conclude (h.accounted.known hd) .success "" d
  rw [if_pos rfl] at up
  rw [show (((reportSuccess d).after s).site.condition d).operating = .up from up]
  rfl

theorem ask_calm (d : Device) (requests : List Request) :
    Within Calm (ask driver d requests) :=
  ask_within (Calm.address driver d) (Calm.read driver d) requests

/-- A probe has a command to read, or nothing left to find out. -/
theorem beginProbe_cases (h : Tidy allowed s) (name : String) :
    let begun := beginProbe driver name
    (begun.result s = none ∧ Turns driver s (begun.after s) ∧
      ∀ d, (begun.after s).device? name = some d → (begun.after s).site.isDown d = true →
        Barren (begun.after s) d) ∨
    ∃ d c, begun.result s = some (d, c) ∧ s.device? name = some d ∧ Calm s (begun.after s) := by
  intro begun
  unfold begun beginProbe
  rw [result_get_bind, after_get_bind]
  cases hd : s.device? name with
  | none =>
    refine .inl ⟨rfl, .single (.forget hd), fun d hd' => ?_⟩
    cases hd.symm.trans hd'
  | some d =>
    dsimp only
    rw [result_ite, after_ite]
    by_cases hdown : s.site.isDown d = true
    · have made := made?_index driver (h.catalogued.devices hd)
      have indexed := Calm.index driver d.registration s
      rw [if_pos hdown, if_pos hdown, result_bind, after_bind, result_pure, after_pure]
      cases hp : ((onSite (Site.index driver d.registration)).result s).probe? with
      | none =>
        refine .inl ⟨rfl, indexed.turns driver, fun d' hd' _ => ?_⟩
        cases hd.symm.trans ((indexed.device? name).symm.trans hd')
        exact ⟨_, made, hp⟩
      | some c => exact .inr ⟨d, c, rfl, rfl, indexed⟩
    · rw [if_neg hdown, if_neg hdown]
      refine .inl ⟨rfl, .refl, fun d' hd' hdown' => ?_⟩
      cases hd.symm.trans hd'
      exact absurd hdown' hdown

/-- A device that answered is up. -/
theorem endProbe_turns (h : Tidy allowed s) {d : Device} (hd : s.device? d.name = some d)
    (answer : Except DriverError (List Result)) :
    let ended := endProbe d answer
    Turns driver s (ended.after s) ∧ (ended.result s = .retire →
      (ended.after s).device? d.name = some d ∧ (ended.after s).site.isDown d = false) := by
  intro ended
  cases answer with
  | error e => exact ⟨.refl, nofun⟩
  | ok results =>
    have reported : ended.after s = (reportSuccess d).after s := by
      show Action.after (endProbe d (.ok results)) s = _
      rw [endProbe, after_bind, after_pure]
    have turn : Turn driver s ((reportSuccess d).after s) := .report .success "" hd
    have same : ((reportSuccess d).after s).device? d.name = some d :=
      (device?_conclude d .success "" d.name s).trans hd
    rw [reported]
    exact ⟨.single turn, fun _ => ⟨same, reportSuccess_up h hd⟩⟩

/-- A probe that is done finds its device gone, or up, or without a command to probe it. -/
theorem probe_turns (h : Tidy allowed s) (name : String) :
    let t := (probe driver name).after s
    Turns driver s t ∧ ((probe driver name).result s = .retire →
      ∀ d, t.device? name = some d → t.site.isDown d = true → Barren t d) := by
  unfold probe
  simp only [after_bind, result_bind]
  rcases beginProbe_cases driver h name with ⟨hr, turns, done⟩ | ⟨d, c, hr, hd, begun⟩
  · rw [hr]
    exact ⟨turns, fun _ => done⟩
  · let v := (ask driver d c.requests).after ((beginProbe driver name).after s)
    let ended : Action σ Timer.Control :=
      endProbe d ((ask driver d c.requests).result ((beginProbe driver name).after s))
    obtain rfl : d.name = name := h.accounted.named hd
    have asked : Calm s v := begun.trans (ask_calm driver d c.requests _)
    have hv : v.device? d.name = some d := (asked.device? d.name).trans hd
    obtain ⟨turns, up⟩ := endProbe_turns driver (h.calm asked) hv
      ((ask driver d c.requests).result ((beginProbe driver d.name).after s))
    rw [hr]
    show Turns driver s (ended.after v) ∧ (ended.result v = .retire →
      ∀ d', (ended.after v).device? d.name = some d' → (ended.after v).site.isDown d' = true →
        Barren (ended.after v) d')
    refine ⟨(asked.turns driver).trans turns, fun retire d' hd' hdown => ?_⟩
    obtain ⟨same, hup⟩ := up retire
    cases same.symm.trans hd'
    cases hup.symm.trans hdown

/-- What timers run is turns, and only a probe without anything left to find out is done. -/
theorem run_turns (h : Tidy allowed s) (task : Task) :
    let t := (run driver task).after s
    Turns driver s t ∧ (∀ name, task = .probe name → (run driver task).result s = .retire →
      ∀ d, t.device? name = some d → t.site.isDown d = true → Barren t d) := by
  cases task with
  | probe name =>
    obtain ⟨turns, done⟩ := probe_turns driver h name
    refine ⟨turns, fun n hn => ?_⟩
    cases hn
    exact done
  | sample number =>
    obtain ⟨name, work⟩ := sample_work driver number s
    exact ⟨workOn_turns driver work h, nofun⟩
  | counters => exact ⟨(Calm.announceCounters s).turns driver, nofun⟩

/-- A timer whose work is done waits again, or ends; a probe only if there is nothing left to find
out. -/
theorem settleTimer_turn {task : Task} (ht : s.taskOf number = some task) (fired : Nat)
    (control : Timer.Control)
    (done : ∀ name, task = .probe name → control = .retire →
      ∀ d, s.device? name = some d → s.site.isDown d = true → Barren s d) :
    Turn driver s ((settleTimer number fired control).after s) := by
  cases control with
  | again => exact .calm (settleTimer_again number fired s)
  | retire =>
    have ends := settleTimer_retire number fired s
    cases task with
    | probe name => exact .giveUp ends ht (done name rfl rfl)
    | sample k =>
      exact .calm (Calm.trans_retires (.refl s) ends fun _ name => by rw [ht]; nofun)
    | counters =>
      exact .calm (Calm.trans_retires (.refl s) ends fun _ name => by rw [ht]; nofun)

theorem fireTimer_turns (h : Tidy allowed s) (number : Nat) :
    Turns driver s ((fireTimer driver number).after s) := by
  unfold fireTimer
  rw [after_get_bind]
  cases hx : s.controller.timers.get? number with
  | none => exact .refl
  | some x =>
    dsimp only
    rw [after_ite]
    split
    · rename_i hb
      let u := (changeLifecycle number x.lifecycle.beginFire.2).after s
      have begun : Calm s u := beginTimer_calm hx hb
      obtain ⟨turns, done⟩ := run_turns driver (h.calm begun) x.task
      refine ((begun.turns driver).trans turns).tail (settleTimer_turn driver ?_ _ _ done)
      refine (SameSampling.run driver x.task u).task ?_
      show ((s.controller.timers.modify number _).get? number).map _ = _
      rw [Numbered.get?_modify, if_pos rfl, hx]
      rfl
    · exact .refl

/-! ## Operations -/

/-- The samplers of a service that does not run any more are stopped. -/
def stopSampling : Action σ Unit := do
  changeController fun c => { c with running := false }
  stopAllAutoEvents driver

/-- The timer of the counters ends, then the driver is told to stop. -/
def stopRest (force : Bool) : Action σ Unit := do
  match (← get).controller.countersTimer with
  | some number =>
    changeController fun c => { c with countersTimer := none }
    retireTimer number
  | none => pure ()
  changeSite (Site.shutDown driver force)

/-- A service stops its samplers, then all probes, then the rest. -/
theorem after_stop (force : Bool) (s : Service σ) :
    (stop driver force).after s = (stopRest driver force).after
      ((cancelAllProbes (σ := σ)).after ((stopSampling driver).after s)) :=
  rfl

theorem stopSampling_calm : Within Calm (stopSampling driver) :=
  .bind (Calm.besides fun _ => rfl) fun _ => Calm.stopAllAutoEvents driver

theorem stopRest_calm (force : Bool) : Within Calm (stopRest driver force) := fun s => by
  unfold stopRest
  rw [after_get_bind]
  cases hc : s.controller.countersTimer with
  | none => exact Calm.shutDown driver force s
  | some number =>
    let drop (c : Controller) : Controller := { c with countersTimer := none }
    let u := (changeController (σ := σ) drop).after s
    have dropped : Calm s u := Calm.of_plain
      (SameHealth.changeController (f := drop) (fun _ => rfl) s)
      ⟨.of_eq rfl, rfl, rfl, rfl, rfl⟩ fun hs => ⟨⟨hs.samplers, nofun, hs.probes⟩, fun _ _ _ => rfl⟩
    have ended : Calm s ((retireTimer number).after u) :=
      Calm.trans_retires dropped (Calm.retireTimer_retires number u) fun hs name hp => by
        cases (hs.counters hc).symm.trans hp
    exact ended.trans (Calm.shutDown driver force _)

/-- Timers end, and nothing else happens. -/
theorem after_cancelAllProbes (s : Service σ) : ∃ timers, (cancelAllProbes (σ := σ)).after s =
    { s with controller := { s.controller with timers, probes := ∅ } } := by
  have ended (numbers : List Nat) (s : Service σ) : ∃ timers, (numbers.forM retireTimer).after s =
      { s with controller := { s.controller with timers } } := by
    induction numbers generalizing s with
    | nil => exact ⟨_, rfl⟩
    | cons number rest ih =>
      obtain ⟨timers, h⟩ := ih ((retireTimer number).after s)
      exact ⟨timers, h⟩
  obtain ⟨timers, h⟩ := ended s.controller.probes.values s
  refine ⟨timers, ?_⟩
  unfold cancelAllProbes
  rw [after_get_bind, after_bind, h]
  rfl

theorem cancelAllProbes_silent : Within Silent (cancelAllProbes (σ := σ)) := fun s => by
  have health := SameHealth.cancelAllProbes s
  obtain ⟨timers, h⟩ := after_cancelAllProbes s
  rw [h] at health ⊢
  exact ⟨health, .of_eq rfl, rfl⟩

theorem cancelAllProbes_tidy (h : Tidy allowed s) :
    Tidy allowed ((cancelAllProbes (σ := σ)).after s) := by
  have same := SameSampling.cancelAllProbes s
  have silent := cancelAllProbes_silent s
  obtain ⟨timers, ht⟩ := after_cancelAllProbes s
  rw [ht] at same silent ⊢
  refine ⟨h.accounted.sameHealth silent.health, ⟨fun hk => ?_, fun hi => ?_, fun hi => ?_⟩,
    h.catalogued.of_site rfl rfl⟩
  · exact same.task (h.assigned.samplers (same.scheduleOf _ ▸ hk))
  · exact same.task (h.assigned.counters hi)
  · cases hi

theorem updateDevice_calm (config : DeviceConfig) (s : Service σ) :
    Calm ((replaceDevice driver config).after s) ((updateDevice driver config).after s) :=
  Calm.sampleRegistered driver _ _

/-- Every operation is a chain of turns, but for the two that end probes or give a device other
commands. -/
theorem perform_turns (h : Tidy allowed s) (op : Operation σ) :
    (∃ config, op = .updateDevice config) ∨ (∃ force, op = .stop force) ∨
      Turns driver s (perform driver s op) := by
  have calm {α : Type} {a : Action σ α} (ha : Within Calm a) : Turns driver s (a.after s) :=
    (ha s).turns driver
  have work {name : String} {t : Service σ} (ht : WorkOn driver name s t) : Turns driver s t :=
    workOn_turns driver ht h
  cases op with
  | updateDevice config => exact .inl ⟨config, rfl⟩
  | stop force => exact .inr (.inl ⟨force, rfl⟩)
  | addProfile p => exact .inr (.inr (calm (Calm.addProfile p)))
  | removeProfile name => exact .inr (.inr (calm (Calm.removeProfile name)))
  | addDevice config =>
    have sampled := Calm.sampleRegistered driver ((insertDevice driver config).result s)
      ((insertDevice driver config).after s)
    rw [perform, addDevice, after_bind]
    exact .inr (.inr (.tail (.single (.insert config s)) (.calm sampled)))
  | removeDevice name =>
    have stopped := Calm.stopAutoEvents driver name s
    rw [perform, removeDevice, after_bind, after_bind]
    exact .inr (.inr (.tail (stopped.turns driver) (.remove name _)))
  | setAdminState name state => exact .inr (.inr (calm (Calm.setAdminState name state)))
  | setServiceAdminState state => exact .inr (.inr (calm (Calm.setServiceAdminState state)))
  | deviceCommand | execute | postReadings | noteSuccess | noteFailure =>
    exact .inr (.inr (work (perform_chores driver rfl s).workOn))
  | startAutoEvents name => exact .inr (.inr (calm (Calm.startAutoEvents driver name)))
  | stopAutoEvents name => exact .inr (.inr (calm (Calm.stopAutoEvents driver name)))
  | start => exact .inr (.inr (calm (Calm.start driver)))
  | fire timer => exact .inr (.inr (fireTimer_turns driver h timer))
  | pass millis timeOfDay =>
    exact .inr (.inr (.single (.calm
      (.of_controller { SameHealth.refl s with } (.of_eq rfl) rfl rfl rfl))))
  | change f =>
    exact .inr (.inr (.single (.calm
      (.of_controller { SameHealth.refl s with } (.of_eq rfl) rfl rfl rfl))))

/-! ## Runs -/

theorem tidy_of_fresh (h : Fresh s) : Tidy s.controller.config.allowedFails s := by
  refine ⟨.ofFresh h, ⟨fun {k i} hk => ?_, fun hi => ?_, fun hi => ?_⟩,
    ⟨fun hr => ?_, fun hd => ?_⟩⟩
  · rw [Service.scheduleOf, sampler?, h.samplers] at hk
    cases hk
  · rw [h.countersTimer] at hi
    cases hi
  · rw [h.probes] at hi
    cases hi
  · rw [h.registry] at hr
    cases hr
  · rw [device?, h.registry] at hd
    cases hd

/-- Every operation leaves things tidy. -/
theorem perform_tidy (h : Tidy allowed s) (op : Operation σ) :
    Tidy allowed (perform driver s op) := by
  rcases perform_turns driver h op with ⟨config, rfl⟩ | ⟨force, rfl⟩ | turns
  · have replaced : Tidy allowed ((replaceDevice driver config).after s) :=
      (replaceDevice_placed driver config s).tidy h
        (replaceDevice_accounted driver config s h.accounted)
    exact replaced.calm (updateDevice_calm driver config s)
  · rw [perform, after_stop]
    exact (cancelAllProbes_tidy (h.calm (stopSampling_calm driver s))).calm
      (stopRest_calm driver force _)
  · exact turns.tidy driver h

theorem performAll_tidy (h : Fresh s) (ops : List (Operation σ)) :
    Tidy s.controller.config.allowedFails (performAll driver s ops) :=
  performAll_keeps (P := Tidy s.controller.config.allowedFails)
    (fun _ op hs => perform_tidy driver hs op) s ops (tidy_of_fresh h)

end FieldGateway.Service
