import FieldGateway.Proofs.Sampling.Ledger
import FieldGateway.Proofs.Service.Management
import FieldGateway.Proofs.Service.Run

/-
  What leaves the schedules of samplers alone: all work with devices (`SameSampling.workOn`),
  probes, the counters, and every change of the registry. `SameSampling.modifyTimer` is what the
  life of timers comes to: a timer keeps its task, and one that is retired stays so.
-/

namespace FieldGateway.Service

open FieldGateway.Action

variable {σ : Type} {s t : Service σ}

theorem Noting.started (h : Noting Effect.IsNoSampling s t) (handle : Handle) :
    t.started handle = s.started handle := by
  obtain ⟨new, ht, hnew⟩ := h
  have hz : new.countP (·.2.starts handle) = 0 :=
    List.countP_eq_zero.2 fun x hx => by simp [(hnew x hx handle).1]
  rw [Service.started, ht, List.countP_append, hz, Nat.zero_add]
  rfl

theorem Noting.stopped (h : Noting Effect.IsNoSampling s t) (handle : Handle) :
    t.stopped handle = s.stopped handle := by
  obtain ⟨new, ht, hnew⟩ := h
  have hz : new.countP (·.2.stops handle) = 0 :=
    List.countP_eq_zero.2 fun x hx => by simp [(hnew x hx handle).2]
  rw [Service.stopped, ht, List.countP_append, hz, Nat.zero_add]
  rfl

theorem index_aside (driver : Driver σ) (r : Registration) :
    Within Aside (onSite (Site.index driver r)) :=
  fun s => ⟨rfl, index_noting driver r (fun _ _ => ⟨rfl, rfl⟩) s⟩

namespace SameSampling

/-! ## Building blocks -/

theorem ofAside (h : Aside s t) : SameSampling s t := by
  obtain ⟨controller, noting⟩ := h
  have task (i : Nat) : t.taskOf i = s.taskOf i := by rw [taskOf, controller]; rfl
  refine ⟨by rw [controller], fun k => by rw [sampler?, controller]; rfl, ?_, ?_, ?_,
    noting.started, noting.stopped, fun h => by rw [Service.holders, controller]; rfl, ?_⟩
  · intro i x hx
    rw [task]
    exact hx
  · intro i k hx
    rw [← task]
    exact hx
  · intro i k _ hl
    rw [isLive, ← controller]
    exact hl
  · intro i hi
    rw [← controller]
    exact .inl hi

/-- What the controller changes besides. -/
theorem changeController {f : Controller → Controller}
    (sampling : ∀ c, (f c).sampling = c.sampling) (samplers : ∀ c, (f c).samplers = c.samplers)
    (timers : ∀ c, (f c).timers = c.timers)
    (counters : ∀ c i, (f c).countersTimer = some i → c.countersTimer = some i) :
    Within SameSampling (changeController f : Action σ Unit) := fun s => by
  have task (i : Nat) :
      ((Service.changeController f : Action σ Unit).after s).taskOf i = s.taskOf i := by
    simp [taskOf, timers]
  refine ⟨sampling _, fun k => by simp [sampler?, samplers], fun {i x} hx => ?_,
    fun {i k} hx => ?_, fun {i k} _ hl => ?_, fun _ => rfl, fun _ => rfl,
    fun h => by simp [Service.holders, samplers], fun hi => .inl (counters _ _ hi)⟩
  · rw [task]
    exact hx
  · rw [← task]
    exact hx
  · simpa [isLive, timers] using hl

theorem quiet {f : Site σ → Site σ} (h : Quiet (changeSite f)) :
    Within SameSampling (changeSite f) :=
  fun s => ofAside ⟨rfl, (h s).mono fun _ => Effect.isNoSampling_of_isExchange_eq_false⟩

/-- A timer keeps its task, and one that is retired stays so. -/
theorem modifyTimer {number : Nat} {f : Timer → Timer}
    (h : ∀ x, s.controller.timers.get? number = some x → (f x).task = x.task ∧
      (x.lifecycle.isRetired = true → (f x).lifecycle.isRetired = true)) :
    SameSampling s { s with controller :=
      { s.controller with timers := s.controller.timers.modify number f } } := by
  have get (i : Nat) : (s.controller.timers.modify number f).get? i =
      if number = i then (s.controller.timers.get? i).map f else s.controller.timers.get? i :=
    Numbered.get?_modify ..
  have task (i : Nat) : ((s.controller.timers.modify number f).get? i).map (·.task) =
      (s.controller.timers.get? i).map (·.task) := by
    rw [get]
    split
    · rename_i hi
      subst hi
      cases hx : s.controller.timers.get? number with
      | none => rfl
      | some x => simp [(h x hx).1]
    · rfl
  refine { refl s with
    task := fun {i x} hx => (task i).trans hx, fresh := fun {i k} hx => (task i).symm.trans hx,
    live := fun {i k} _ hl => ?_, counters := .inl }
  simp only [isLive] at hl ⊢
  rw [get] at hl
  split at hl
  · rename_i hi
    subst hi
    cases hx : s.controller.timers.get? number with
    | none => rw [hx] at hl; exact hl
    | some x =>
      rw [hx] at hl
      have := (h x hx).2
      simp_all
  · exact hl

theorem retireTimer (number : Nat) : Within SameSampling (retireTimer (σ := σ) number) :=
  fun _ => modifyTimer fun _ _ => ⟨rfl, fun _ => rfl⟩

/-- A new timer that samples nothing. -/
theorem setTimer (rhythm : Timer.Rhythm) (task : Task) (h : ∀ k, task ≠ .sample k) :
    Within SameSampling (setTimer (σ := σ) rhythm task) := fun s => by
  let timer : FieldGateway.Timer :=
    { rhythm, task, waiting := ⟨rhythm.first (s.site.now * Timer.nanosPerMilli), s.site.now,
      true, s.site.waits⟩ }
  have get (i : Nat) : (s.controller.timers.add timer).get? i =
      if i = s.controller.timers.next then some timer else s.controller.timers.get? i :=
    Numbered.get?_add ..
  have known {i : Nat} {x : Task} (hx : s.taskOf i = some x) : i ≠ s.controller.timers.next := by
    rintro rfl
    rw [taskOf, (Site.get?_eq_none_iff _ _).2 (Nat.le_refl _)] at hx
    cases hx
  refine { refl s with task := ?_, fresh := ?_, live := ?_, counters := .inl }
  · intro i x hx
    show ((s.controller.timers.add timer).get? i).map (·.task) = _
    rw [get, if_neg (known hx)]
    exact hx
  · intro i k hx
    change ((s.controller.timers.add timer).get? i).map (·.task) = _ at hx
    rw [get] at hx
    split at hx
    · exact absurd (Option.some.inj hx) (h k)
    · exact hx
  · intro i k hx hl
    change ((s.controller.timers.add timer).get? i).any _ = _ at hl
    rw [get, if_neg (known hx)] at hl
    exact hl

/-! ## Probes -/

theorem enter (d : Device) (r : Report) : Within SameSampling (enter (σ := σ) d r) :=
  fun _ => ofAside ⟨rfl, .one rfl fun _ => ⟨rfl, rfl⟩⟩

theorem announce (source : String) (a : Int64 → Announcement) :
    Within SameSampling (announce (σ := σ) source a) :=
  quiet (announce_quiet source a)

theorem note {e : Effect} (h : e.isExchange = false) :
    Within SameSampling (changeSite (σ := σ) (Site.note e)) :=
  quiet (note_quiet h)

theorem report {e : Effect} (h : e.isExchange = false) :
    Within SameSampling (report (σ := σ) e) :=
  report_within (note h)

/-- Something that no schedule, no sampler and no timer is part of. -/
theorem besides {f : Controller → Controller} (h : ∀ c, ((f c).sampling, (f c).samplers,
      (f c).timers, (f c).countersTimer) = (c.sampling, c.samplers, c.timers, c.countersTimer)) :
    Within SameSampling (Service.changeController f : Action σ Unit) := by
  simp only [Prod.mk.injEq] at h
  exact changeController (fun c => (h c).1) (fun c => (h c).2.1) (fun c => (h c).2.2.1)
    fun c i hi => (h c).2.2.2 ▸ hi

theorem forgetProbe (name : String) : Within SameSampling (forgetProbe (σ := σ) name) :=
  besides fun _ => rfl

theorem cancelProbe (name : String) : Within SameSampling (cancelProbe (σ := σ) name) :=
  cancelProbe_within name (forgetProbe name) retireTimer

theorem cancelAllProbes : Within SameSampling (cancelAllProbes (σ := σ)) :=
  cancelAllProbes_within retireTimer (besides fun _ => rfl)

theorem reporting (d : Device) : Reporting d (SameSampling (σ := σ)) where
  enter := enter d
  sayUp := announce _ _
  sayDown _ := announce _ _
  report _ := report rfl
  arm := armProbe_within d.name (fun _ => setTimer _ _ nofun) fun _ => besides fun _ => rfl
  cancel := cancelProbe d.name

/-! ## Work -/

variable (driver : Driver σ)

theorem index (r : Registration) : Within SameSampling (onSite (Site.index driver r)) :=
  fun s => ofAside (index_aside driver r s)

theorem address (d : Device) : Within SameSampling (onSite (Site.address driver d)) :=
  fun s => ofAside ⟨rfl, makeAddress_noting driver d (fun _ _ => ⟨rfl, rfl⟩) s⟩

theorem publish (e : CookedEvent) : Within SameSampling (publish (σ := σ) e) :=
  publish_within e (fun _ => announce _ _) (besides fun _ => rfl) (note rfl)

/-- What a sampler remembers is no part of its schedule. -/
theorem remember (number : Nat) (results : List Result) :
    Within SameSampling (changeSampler (σ := σ) number fun r =>
      { r with snapshot := some results }) := fun s => by
  let f (r : Sampler) : Sampler := { r with snapshot := some results }
  have get (k : Nat) : (s.controller.samplers.modify number f).get? k =
      if number = k then (s.controller.samplers.get? k).map f else s.controller.samplers.get? k :=
    Numbered.get?_modify ..
  refine { refl s with sampler := fun k => ?_, holders := fun h => ?_, counters := .inl }
  · show ((s.controller.samplers.modify number f).get? k).map _ = _
    rw [get, sampler?]
    split
    · cases s.controller.samplers.get? k <;> rfl
    · rfl
  · show (s.controller.samplers.modify number f).count _ = s.controller.samplers.count _
    cases hr : s.controller.samplers.get? number with
    | none => rw [Numbered.modify_of_get?_eq_none _ _ _ hr]
    | some r => exact Nat.add_right_cancel (Numbered.count_modify _ _ f number hr)

theorem countRead : Within SameSampling (countRead (σ := σ)) := besides fun _ => rfl

theorem workStep {d : Device} (h : WorkStep driver d s t) : SameSampling s t := by
  cases h with
  | index => exact index driver _ s
  | address => exact address driver d s
  | read => exact ofAside ⟨rfl, .one rfl fun _ => ⟨rfl, rfl⟩⟩
  | write => exact ofAside ⟨rfl, .one rfl fun _ => ⟨rfl, rfl⟩⟩
  | success => exact (reporting d).success s
  | failure reason => exact (reporting d).failure reason s
  | violation reason => exact (reporting d).violation reason s
  | countRead => exact countRead s
  | touch => exact touch_within (note rfl) s
  | cook => exact ofAside ⟨rfl, .of_eq rfl⟩
  | publish e => exact publish e s
  | remember number results => exact remember number results s

theorem workOn {name : String} (h : WorkOn driver name s t) : SameSampling s t := by
  rcases h with rfl | ⟨d, _, hw⟩
  · exact refl _
  · exact hw.keeps (fun h hs => hs.trans (workStep driver h)) (refl s)

/-! ## Profiles and devices -/

theorem addProfile (p : Profile) : Within SameSampling (addProfile (σ := σ) p) :=
  addProfile_within p fun _ _ => ofAside ⟨rfl, .of_eq rfl⟩

theorem removeProfile (name : String) : Within SameSampling (removeProfile (σ := σ) name) :=
  removeProfile_within name fun _ _ => ofAside ⟨rfl, .of_eq rfl⟩

theorem insertDevice (config : DeviceConfig) : Within SameSampling (insertDevice driver config) :=
  fun s => by
    rcases insertDevice_cases driver config s with ⟨e, _, ha⟩ | ⟨d, _, _, _, i, ht⟩
    · rw [ha]
      exact refl s
    · exact ofAside ⟨i.controller, .two ht (fun _ => ⟨rfl, rfl⟩) fun _ => ⟨rfl, rfl⟩⟩

theorem replaceDevice (config : DeviceConfig) :
    Within SameSampling (replaceDevice driver config) := fun s => by
  rcases replaceDevice_cases driver config s with ⟨e, _, ha⟩ | ⟨d, old, _, _, _, i, ht⟩
  · rw [ha]
    exact refl s
  · exact ofAside ⟨i.controller, .one ht fun _ => ⟨rfl, rfl⟩⟩

theorem dropDevice (name : String) : Within SameSampling (dropDevice driver name) := fun s => by
  rcases dropDevice_cases driver name s with ⟨_, _, h⟩ | ⟨_, _, _, hk, ht⟩
  · rw [h]
    exact refl _
  · exact ofAside ⟨hk, .two ht (fun _ => ⟨rfl, rfl⟩) fun _ => ⟨rfl, rfl⟩⟩

theorem setAdminState (name : String) (state : AdminState) :
    Within SameSampling (setAdminState (σ := σ) name state) := by
  refine withDevice_within (fun d s => ?_) name
  exact ofAside ⟨rfl, .of_eq rfl⟩

/-! ## Counters and timers -/

theorem announceCounters : Within SameSampling (announceCounters (σ := σ)) :=
  announceCounters_within fun _ _ => announce _ _

theorem setServiceAdminState (state : AdminState) :
    Within SameSampling (setServiceAdminState (σ := σ) state) :=
  besides fun _ => rfl

theorem setRunning (b : Bool) :
    Within SameSampling (Service.changeController (σ := σ) fun c => { c with running := b }) :=
  besides fun _ => rfl

theorem clearCounters :
    Within SameSampling (Service.changeController (σ := σ) fun c =>
      { c with countersTimer := none }) :=
  changeController (fun _ => rfl) (fun _ => rfl) (fun _ => rfl) nofun

theorem prepare : Within SameSampling (onSite (Site.prepare driver)) :=
  fun _ => ofAside ⟨rfl, .one rfl fun _ => ⟨rfl, rfl⟩⟩

theorem shutDown (force : Bool) : Within SameSampling (changeSite (Site.shutDown driver force)) :=
  fun _ => ofAside ⟨rfl, .one rfl fun _ => ⟨rfl, rfl⟩⟩

theorem taskOf_setTimer (rhythm : Timer.Rhythm) (task : Task) (s : Service σ) :
    ((Service.setTimer rhythm task).after s).taskOf ((Service.setTimer rhythm task).result s) =
      some task := by
  show ((s.controller.timers.add _).get? s.controller.timers.next).map (·.task) = _
  rw [Numbered.get?_add, if_pos rfl]
  rfl

theorem startCounters : Within SameSampling (startCounters (σ := σ)) := fun s => by
  unfold Service.startCounters
  rw [after_get_bind]
  dsimp only
  cases s.controller.config.metricsInterval? with
  | none => exact refl s
  | some interval =>
    have set := setTimer (.periodic interval) .counters nofun s
    have task := taskOf_setTimer (.periodic interval) .counters s
    have changed (number : Nat) (s : Service σ) (h : s.taskOf number = some .counters) :
        SameSampling s ((Service.changeController (σ := σ) fun c =>
          { c with countersTimer := some number }).after s) :=
      { refl s with counters := fun hi => .inr (Option.some.inj hi ▸ h) }
    refine set.trans ((changed _ _ task).trans ?_)
    cases s.controller.countersTimer with
    | none => exact refl _
    | some previous => exact retireTimer previous _

theorem isRetired_of_beginFire {l : Timer.Lifecycle} (h : l.beginFire.1 = true) :
    l.isRetired = false := by
  unfold Timer.Lifecycle.beginFire at h
  split at h
  · rename_i hp
    simp [Timer.Lifecycle.isRetired, hp]
  · cases h

theorem isRetired_settle (l : Timer.Lifecycle) (control : Timer.Control)
    (h : l.isRetired = true) : (l.settle control).2.isRetired = true := by
  cases control with
  | retire => rfl
  | again =>
    have hp : ¬ l.phase = .firing := by
      simp only [Timer.Lifecycle.isRetired, beq_iff_eq] at h
      simp [h]
    simp only [Timer.Lifecycle.settle, Timer.Lifecycle.rearm, if_neg hp]
    exact h

theorem settleTimer (number fired : Nat) (control : Timer.Control) :
    Within SameSampling (settleTimer (σ := σ) number fired control) := fun s => by
  unfold Service.settleTimer
  rw [after_get_bind]
  cases hx : s.controller.timers.get? number with
  | none => exact refl s
  | some x =>
    have waited : SameSampling s
        { s with site := { s.site with waits := s.site.waits + 1 } } := ofAside ⟨rfl, .of_eq rfl⟩
    refine waited.trans (modifyTimer fun y hy => ⟨rfl, fun hr => ?_⟩)
    cases hx.symm.trans hy
    exact isRetired_settle x.lifecycle control hr

theorem run (task : Task) : Within SameSampling (run driver task) :=
  run_within driver (workOn driver) forgetProbe announceCounters task

theorem fireTimer (number : Nat) : Within SameSampling (fireTimer driver number) := fun s => by
  unfold Service.fireTimer
  rw [after_get_bind]
  cases hx : s.controller.timers.get? number with
  | none => exact refl s
  | some x =>
    have begun (hb : x.lifecycle.beginFire.1 = true) :
        SameSampling s ((changeLifecycle number x.lifecycle.beginFire.2).after s) :=
      modifyTimer fun y hy => by
        cases hx.symm.trans hy
        refine ⟨rfl, fun hr => ?_⟩
        rw [isRetired_of_beginFire hb] at hr
        cases hr
    have fired : Within SameSampling (do
        let control ← Service.run driver x.task
        Service.settleTimer number (s.site.now * Timer.nanosPerMilli) control) :=
      .bind (run driver x.task) fun control => settleTimer _ _ control
    dsimp only
    split
    · rename_i hb
      rw [after_bind]
      exact (begun hb).trans (fired _)
    · exact refl s

end SameSampling

end FieldGateway.Service
