import FieldGateway.Proofs.Flight.Run
import FieldGateway.Proofs.Probing.Run

/-
  A device has one recovery probe that may still fire, at most, and then it is the one on record
  for its name (`sole_probe`). This goes for every run, also while probes wait for their driver:
  what they held for is cancelled, forgotten, or armed anew meanwhile, and they end later.

  `Spares`: no timer of a probe is set and none is put down or forgotten, one lemma for each action
  of which this is true. What is left are the steps that arm, cancel and forget probes, each of
  which leaves them `Sole` (`armProbe_sole`, `cancelProbe_sole`, `cancelAllProbes_sole`,
  `Sole.forgotten`).
-/

namespace FieldGateway.Service

open FieldGateway.Action

variable {σ : Type} {s t u : Service σ} {number : Nat}

/-- A timer that probes the device of a name, and may still fire. -/
def Probes (s : Service σ) (name : String) (i : Nat) : Prop :=
  s.taskOf i = some (.probe name) ∧ s.isLive i = true

/-- Whatever probes a device is on record for it. -/
def Sole (s : Service σ) : Prop :=
  ∀ name i, s.Probes name i → s.controller.probes.find? name = some i

/-- No probe is new, and the record of them is the same. -/
structure Spares (s t : Service σ) : Prop where
  probes : t.controller.probes = s.controller.probes
  live {name : String} {i : Nat} : t.Probes name i → s.Probes name i

theorem Sole.spared (h : Sole s) (spares : Spares s t) : Sole t := fun name i hi => by
  rw [spares.probes]
  exact h name i (spares.live hi)

namespace Spares

theorem refl (s : Service σ) : Spares s s := ⟨rfl, id⟩

theorem trans (h : Spares s t) (h' : Spares t u) : Spares s u :=
  ⟨h'.probes.trans h.probes, fun hi => h.live (h'.live hi)⟩

instance : Std.Refl (Spares (σ := σ)) := ⟨refl⟩

instance : IsTrans (Service σ) Spares := ⟨fun _ _ _ => trans⟩

theorem keeps {α : Type} {a : Action σ α} (h : Within Spares a) : Keeps Sole a :=
  fun s hs => hs.spared (h s)

/-! ## Building blocks -/

theorem of_timers (timers : t.controller.timers = s.controller.timers)
    (probes : t.controller.probes = s.controller.probes) : Spares s t :=
  ⟨probes, fun ⟨task, live⟩ => by
    rw [Probes, taskOf, isLive, ← timers]
    exact ⟨task, live⟩⟩

theorem of_controller (controller : t.controller = s.controller) : Spares s t :=
  of_timers (by rw [controller]) (by rw [controller])

/-- What the controller changes besides. -/
theorem besides {f : Controller → Controller}
    (h : ∀ c, ((f c).timers, (f c).probes) = (c.timers, c.probes)) :
    Within Spares (changeController f : Action σ Unit) := fun s =>
  of_timers (Prod.mk.inj (h s.controller)).1 (Prod.mk.inj (h s.controller)).2

theorem site (f : Site σ → Site σ) : Within Spares (changeSite f) := fun _ => of_controller rfl

theorem onSite {α : Type} (step : Site σ → α × Site σ) : Within Spares (onSite step) :=
  fun _ => of_controller rfl

theorem report (e : Effect) : Within Spares (report (σ := σ) e) := report_within (site _)

theorem of_retires (h : Calm.Retires number s t) : Spares s t :=
  ⟨h.plain.probes, fun {name i} ⟨task, live⟩ => by
    rw [h.live, Bool.and_eq_true] at live
    exact ⟨h.task i ▸ task, live.1⟩⟩

theorem retireTimer (number : Nat) : Within Spares (retireTimer (σ := σ) number) :=
  fun s => of_retires (Calm.retireTimer_retires number s)

/-- A timer keeps its task, and one that is retired stays so. -/
theorem of_modified {f : Timer → Timer} (h : Modified number f s t)
    (live : ∀ x, s.controller.timers.get? number = some x →
      x.lifecycle.isRetired = true → (f x).lifecycle.isRetired = true) : Spares s t := by
  refine ⟨h.plain.probes, fun {name i} ⟨task, fires⟩ => ⟨h.taskOf i ▸ task, ?_⟩⟩
  rw [h.isLive] at fires
  split at fires
  · rename_i hi
    subst hi
    rw [isLive]
    cases hx : s.controller.timers.get? number with
    | none =>
      rw [hx] at fires
      exact fires
    | some x =>
      rw [hx, Option.any_some, Bool.not_eq_true'] at fires
      cases ended : x.lifecycle.isRetired with
      | false => simp [ended]
      | true => rw [live x hx ended] at fires; cases fires
  · exact fires

end Spares

/-- A new timer probes what it was set for, and nothing else is new. -/
theorem probes_setTimer {rhythm : Timer.Rhythm} {task : Task} {name : String} {i : Nat}
    (h : ((setTimer rhythm task).after s).Probes name i) :
    i = s.controller.timers.next ∧ task = .probe name ∨ s.Probes name i := by
  obtain ⟨hi, live⟩ := h
  change ((s.controller.timers.add _).get? i).map _ = _ at hi
  change ((s.controller.timers.add _).get? i).any _ = _ at live
  rw [Numbered.get?_add] at hi live
  split at hi
  · rename_i new
    exact .inl ⟨new, Option.some.inj hi⟩
  · rename_i old
    rw [if_neg old] at live
    exact .inr ⟨hi, live⟩

namespace Spares

theorem setTimer (rhythm : Timer.Rhythm) {task : Task} (h : ∀ name, task ≠ .probe name) :
    Within Spares (setTimer (σ := σ) rhythm task) := fun _ =>
  ⟨rfl, fun hi => (probes_setTimer hi).resolve_left fun new => h _ new.2⟩

/-! ## Reading, publishing, sampling -/

theorem announce (source : String) (a : Int64 → Announcement) :
    Within Spares (announce (σ := σ) source a) :=
  site _

theorem touch (d : Device) : Within Spares (touch (σ := σ) d) := touch_within (site _)

theorem publish (e : CookedEvent) : Within Spares (publish (σ := σ) e) :=
  publish_within e (fun _ => announce _ _) (besides fun _ => rfl) (site _)

theorem changeSampler (number : Nat) (f : Sampler → Sampler) :
    Within Spares (changeSampler (σ := σ) number f) :=
  besides fun _ => rfl

variable (driver : Driver σ)

theorem scheduling : Scheduling driver (Spares (σ := σ)) where
  take _ := .bind .get fun _ => .bind (besides fun _ => rfl) fun _ => .pure _
  stop number := stopSampler_within number (changeSampler _ _) retireTimer fun _ _ => site _
  add _ _ _ := .bind .get fun _ => .bind (besides fun _ => rfl) fun _ => .pure _
  launched d c number := launched_within d c number fun r =>
    launch_within d c number r (setTimer _ nofun) (fun _ => onSite _) fun _ => changeSampler _ _
  hold _ _ := besides fun _ => rfl

theorem startAutoEvents (device : String) : Within Spares (startAutoEvents driver device) :=
  (scheduling driver).startAutoEvents (fun _ => onSite _) device

theorem stopAutoEvents (device : String) : Within Spares (stopAutoEvents driver device) :=
  (scheduling driver).stopAutoEvents device

theorem sampleRegistered (registered : Except DeviceError Device) :
    Within Spares (sampleRegistered driver registered) :=
  sampleRegistered_within (startAutoEvents driver) registered

/-! ## The service -/

theorem announceCounters : Within Spares (announceCounters (σ := σ)) :=
  announceCounters_within fun _ _ => announce _ _

theorem start : Within Spares (start driver) :=
  start_within (onSite _) (startAutoEvents driver)
    (startCounters_within (fun _ => setTimer _ nofun) (fun _ => besides fun _ => rfl) retireTimer)
    (besides fun _ => rfl)

theorem stopSampling : Within Spares (stopSampling driver) :=
  .bind (besides fun _ => rfl) fun _ => (scheduling driver).stopAllAutoEvents

theorem stopRest (force : Bool) : Within Spares (stopRest driver force) := by
  refine .bind .get fun s => ?_
  cases s.controller.countersTimer with
  | none => exact site _
  | some number =>
    exact .bind (besides fun _ => rfl) fun _ => .bind (retireTimer number) fun _ => site _

theorem addProfile (p : Profile) : Within Spares (addProfile (σ := σ) p) :=
  addProfile_within p fun _ => site _

theorem removeProfile (name : String) : Within Spares (removeProfile (σ := σ) name) :=
  removeProfile_within name fun _ => site _

theorem setAdminState (name : String) (state : AdminState) :
    Within Spares (setAdminState (σ := σ) name state) :=
  withDevice_within (fun _ => site _) name

theorem beginTimer {x : Timer} (hx : s.controller.timers.get? number = some x)
    (hb : x.lifecycle.beginFire.1 = true) :
    Spares s ((changeLifecycle number x.lifecycle.beginFire.2).after s) := by
  refine of_modified (changeLifecycle_modified number _ s) fun y hy ended => ?_
  cases hx.symm.trans hy
  rw [SameSampling.isRetired_of_beginFire hb] at ended
  cases ended

theorem settleTimer (number fired : Nat) (control : Timer.Control) :
    Within Spares (settleTimer (σ := σ) number fired control) := fun s => by
  cases hx : s.controller.timers.get? number with
  | none =>
    rw [settleTimer_of_none hx]
    exact refl s
  | some x =>
    obtain ⟨waiting, h⟩ := settleTimer_modified hx fired control
    refine of_modified h fun y hy ended => ?_
    cases hx.symm.trans hy
    exact SameSampling.isRetired_settle x.lifecycle control ended

end Spares

/-! ## Arming, cancelling, forgetting -/

theorem armProbe_sole (name : String) : Keeps Sole (armProbe (σ := σ) name) := fun s hs => by
  unfold armProbe
  rw [after_get_bind]
  cases s.controller.config.downTimeout? with
  | none => exact hs
  | some delay =>
    dsimp only
    rw [after_ite]
    split
    · exact hs
    · rename_i unprobed
      intro n i hi
      show (s.controller.probes.insert name s.controller.timers.next).find? n = some i
      rw [Dict.find?_insert]
      rcases probes_setTimer (s := s) hi with ⟨rfl, task⟩ | old
      · cases task
        rw [if_pos rfl]
      · rw [if_neg, hs n i old]
        rintro rfl
        rw [hasProbe, hs name i old, Option.any_some] at unprobed
        exact unprobed old.2

/-- A probe that is forgotten has to end. -/
theorem Sole.forgotten (h : Sole s) {name : String} {i : Nat}
    (recorded : s.controller.probes.find? name = some i)
    (ends : Calm.Retires i ((forgetProbe name).after s) t) : Sole t := fun n j ⟨task, live⟩ => by
  rw [ends.live, Bool.and_eq_true, decide_eq_true_iff] at live
  have old : s.controller.probes.find? n = some j := h n j ⟨ends.task j ▸ task, live.1⟩
  rw [ends.plain.probes]
  show (s.controller.probes.erase name).find? n = some j
  rw [Dict.find?_erase, if_neg]
  · exact old
  · rintro rfl
    exact live.2 (Option.some.inj (recorded.symm.trans old))

theorem cancelProbe_sole (name : String) : Keeps Sole (cancelProbe (σ := σ) name) := fun s hs => by
  unfold cancelProbe
  rw [after_get_bind]
  cases recorded : s.controller.probes.find? name with
  | none => exact hs
  | some i => exact hs.forgotten recorded (Calm.retireTimer_retires i _)

theorem probes_retireTimers (numbers : List Nat) {name : String} {i : Nat}
    (h : ((numbers.forM retireTimer).after s).Probes name i) : s.Probes name i ∧ i ∉ numbers := by
  induction numbers generalizing s with
  | nil => exact ⟨h, List.not_mem_nil⟩
  | cons number rest ih =>
    obtain ⟨⟨task, live⟩, new⟩ := ih (s := (retireTimer number).after s) h
    rw [isLive_retireTimer, Bool.and_eq_true, decide_eq_true_iff] at live
    rw [taskOf_retireTimer] at task
    exact ⟨⟨task, live.1⟩, List.not_mem_cons_of_ne_of_not_mem (Ne.symm live.2) new⟩

theorem cancelAllProbes_sole : Keeps Sole (cancelAllProbes (σ := σ)) := fun s hs name i hi => by
  obtain ⟨old, ended⟩ := probes_retireTimers (s := s) s.controller.probes.values hi
  exact absurd (Dict.mem_values_of_find? (hs name i old)) ended

/-! ## Work -/

theorem reporting_sole (d : Device) : Reporting d (Onward (Sole (σ := σ))) where
  enter _ := Spares.keeps fun _ => .of_controller rfl
  sayUp := Spares.keeps (.announce _ _)
  sayDown _ := Spares.keeps (.announce _ _)
  report _ := Spares.keeps (.report _)
  arm := armProbe_sole d.name
  cancel := cancelProbe_sole d.name

/-- Work on any incarnation, whether or not it is registered. -/
theorem workStep_sole {driver : Driver σ} {d : Device} (h : WorkStep driver d s t) (hs : Sole s) :
    Sole t := by
  cases h with
  | index => exact hs.spared (Spares.onSite _ s)
  | address => exact hs.spared (Spares.onSite _ s)
  | read => exact hs.spared (Spares.onSite _ s)
  | write => exact hs.spared (Spares.onSite _ s)
  | success => exact (reporting_sole d).success s hs
  | failure reason => exact (reporting_sole d).failure reason s hs
  | violation reason => exact (reporting_sole d).violation reason s hs
  | countRead => exact hs.spared (.of_timers rfl rfl)
  | touch => exact hs.spared (Spares.touch d s)
  | cook => exact hs.spared (.of_controller rfl)
  | publish e => exact hs.spared (Spares.publish e s)
  | remember number results => exact hs.spared (Spares.changeSampler number _ s)

variable (driver : Driver σ)

theorem work_sole {d : Device} (h : Work driver d s t) (hs : Sole s) : Sole t :=
  h.keeps workStep_sole hs

theorem workOn_sole {name : String} (h : WorkOn driver name s t) (hs : Sole s) : Sole t := by
  rcases h with rfl | ⟨d, -, work⟩
  · exact hs
  · exact work_sole driver work hs

theorem authorize_sole (device command : String) (m : Method) :
    Keeps Sole (authorize driver device command m) := fun s hs => by
  rcases authorize_cases driver device command m s with ⟨-, -, h⟩ | ⟨d, -, work, -⟩
  · rw [h]
    exact hs
  · exact work_sole driver work.work hs

/-! ## Work in flight -/

theorem finish_sole (e : Errand) : Keeps Sole (finish driver e) := by
  have settled (timer fired : Nat) (control : Timer.Control) :
      Keeps Sole (settleTimer (σ := σ) timer fired control) :=
    Spares.keeps (.settleTimer timer fired control)
  cases e with
  | get d c =>
    exact .bind (fun s => work_sole driver (read_chores driver d c s).work) fun _ => .pure _
  | put d c values =>
    exact .bind (fun s => work_sole driver (write_chores driver d c values s).work) fun _ => .pure _
  | probe timer fired d c =>
    refine .bind (fun s => work_sole driver (ask_chores driver d c.requests s).work) fun answer =>
      .bind ?_ (settled timer fired)
    cases answer with
    | ok _ => exact .bind (reporting_sole d).success fun _ => .pure _
    | error e => exact .pure _
  | sample timer fired number r d c =>
    exact .bind (fun s => work_sole driver (sampleNow_work driver number r d c s)) fun _ =>
      settled timer fired .again

/-- The device of a probe is looked up; without one, the probe on record is forgotten. -/
theorem beginProbe_spares (name : String) (s : Service σ) :
    Spares s ((beginProbe driver name).after s) ∨
      (beginProbe driver name).result s = none ∧
        (beginProbe driver name).after s = (forgetProbe name).after s := by
  unfold beginProbe
  rw [after_get_bind, result_get_bind]
  cases s.device? name with
  | none => exact .inr ⟨rfl, rfl⟩
  | some d =>
    refine .inl (Within.ite (.bind (Spares.onSite _) fun _ => .pure _) (.pure _) s)

theorem settleBegun_spares (timer fired : Nat) (found : Except Timer.Control Errand) :
    Within Spares (settleBegun (σ := σ) timer fired found) :=
  settleBegun_within (Spares.settleTimer timer fired) found

theorem beginTask_sole {timer : Nat} (fired : Nat) (task : Task)
    (fires : ∀ name, task = .probe name → s.Probes name timer) (hs : Sole s) :
    Sole ((beginTask driver timer fired task >>= settleBegun timer fired).after s) := by
  have settled := settleBegun_spares (σ := σ) timer fired
  cases task with
  | probe name =>
    rw [beginTask, after_bind, after_bind, result_bind]
    rcases beginProbe_spares driver name s with spares | ⟨nothing, forgotten⟩
    · refine Spares.keeps (settled _) _ ?_
      have begun := hs.spared spares
      cases (beginProbe driver name).result s <;> exact begun
    · rw [nothing, forgotten]
      exact hs.forgotten (hs name timer (fires name rfl)) (settleTimer_retire timer fired _)
  | sample number =>
    have begun : Within Spares (beginTask driver timer fired (.sample number)) :=
      beginTask_sample_within (fun _ => Spares.onSite _) timer fired number
    exact Spares.keeps (.bind begun settled) s hs
  | counters => exact Spares.keeps (.bind (.bind .announceCounters fun _ => .pure _) settled) s hs

/-- A timer that has begun to fire is not retired. -/
theorem probes_beginTimer {timer : Nat} {x : Timer} (hx : s.controller.timers.get? timer = some x)
    (hb : x.lifecycle.beginFire.1 = true) {name : String} (task : x.task = .probe name) :
    ((changeLifecycle timer x.lifecycle.beginFire.2).after s).Probes name timer := by
  have begun := changeLifecycle_modified timer x.lifecycle.beginFire.2 s
  refine ⟨?_, ?_⟩
  · rw [begun.taskOf, taskOf, hx, Option.map_some, task]
  · rw [begun.isLive, if_pos rfl, hx, Option.any_some]
    unfold Timer.Lifecycle.beginFire at hb ⊢
    split at hb
    · rename_i armed
      rw [if_pos armed]
      rfl
    · cases hb

theorem begin_sole (x : Start) : Keeps Sole (begin driver x) := fun s hs => by
  cases x with
  | get device command => exact begin_get_within (authorize_sole driver device command .get) s hs
  | put device command params =>
    exact begin_put_within (authorize_sole driver device command .put) s hs
  | fire timer =>
    unfold begin
    rw [after_get_bind]
    cases hx : s.controller.timers.get? timer with
    | none => exact hs
    | some x =>
      dsimp only
      rw [after_ite]
      split
      · rename_i hb
        exact beginTask_sole driver _ x.task (fun _ => probes_beginTimer hx hb)
          (hs.spared (Spares.beginTimer hx hb))
      · exact hs

/-! ## Operations -/

theorem fireTimer_sole (timer : Nat) : Keeps Sole (fireTimer driver timer) := by
  rw [← atOnce_fire]
  refine .bind (begin_sole driver (.fire timer)) fun begun => ?_
  cases begun with
  | none => exact .pure _
  | some e => exact finish_sole driver e

theorem perform_sole (hs : Sole s) (op : Operation σ) : Sole (perform driver s op) := by
  have spared {α : Type} {a : Action σ α} (ha : Within Spares a) : Sole (a.after s) :=
    hs.spared (ha s)
  have placed {t : Service σ} (ht : Placed s t) : Sole t := hs.spared (.of_controller ht.controller)
  have work {name : String} {t : Service σ} (ht : WorkOn driver name s t) : Sole t :=
    workOn_sole driver ht hs
  cases op with
  | addProfile p => exact spared (Spares.addProfile p)
  | removeProfile name => exact spared (Spares.removeProfile name)
  | addDevice config =>
    exact (placed (insertDevice_placed driver config s)).spared
      (Spares.sampleRegistered driver _ _)
  | updateDevice config =>
    exact (placed (replaceDevice_placed driver config s)).spared
      (Spares.sampleRegistered driver _ _)
  | removeDevice name =>
    have stopped : Sole ((stopAutoEvents driver name).after s) :=
      spared (Spares.stopAutoEvents driver name)
    exact (cancelProbe_sole name _ stopped).spared
      (.of_controller (dropDevice_placed driver name _).controller)
  | setAdminState name state => exact spared (Spares.setAdminState name state)
  | setServiceAdminState state => exact spared (Spares.besides fun _ => rfl)
  | deviceCommand | execute | postReadings | noteSuccess | noteFailure =>
    exact work (perform_chores driver rfl s).workOn
  | startAutoEvents name => exact spared (Spares.startAutoEvents driver name)
  | stopAutoEvents name => exact spared (Spares.stopAutoEvents driver name)
  | start => exact spared (Spares.start driver)
  | stop force =>
    rw [perform, after_stop]
    exact (cancelAllProbes_sole _ (spared (Spares.stopSampling driver))).spared
      (Spares.stopRest driver force _)
  | fire timer => exact fireTimer_sole driver timer s hs
  | pass millis timeOfDay => exact hs.spared (.of_controller rfl)
  | change f => exact hs.spared (.of_controller rfl)

/-! ## Runs -/

theorem sole_of_fresh (h : Fresh s) : Sole s := fun name i ⟨task, _⟩ => by
  rw [taskOf, h.timers] at task
  cases task

end FieldGateway.Service

namespace FieldGateway.Flight

open Service (Fresh Sole)

variable {σ : Type} (driver : Driver σ)

theorem move_sole (f : Flight σ) (m : Move σ) (h : Sole f.service) :
    Sole (f.move driver m).service := by
  cases m with
  | perform op => exact Service.perform_sole driver h op
  | begin x => exact Service.begin_sole driver x f.service h
  | finish place =>
    unfold move
    dsimp only
    cases f.pending[place]? with
    | none => exact h
    | some e => exact Service.finish_sole driver e f.service h

/-- Whatever happens, and whatever work is in flight meanwhile: two timers that probe a device and
may still fire are one, and it is the one on record for the device. -/
theorem sole_probe {s : Service σ} (fresh : Fresh s) (moves : List (Move σ)) (name : String) :
    let t := ((⟨s, []⟩ : Flight σ).run driver moves).service
    (∀ i j, t.Probes name i → t.Probes name j → i = j) ∧
      ∀ i, t.Probes name i → t.controller.probes.find? name = some i := by
  intro t
  have sole : Sole t := run_keeps (P := fun f => Sole f.service) (move_sole driver) ⟨s, []⟩ moves
    (Service.sole_of_fresh fresh)
  refine ⟨fun i j hi hj => ?_, sole name⟩
  exact Option.some.inj ((sole name i hi).symm.trans (sole name j hj))

/-- A probe asks a device that does not answer. Meanwhile the device is seen up and goes down
again: the probe was cancelled, a second one is armed, and the first does not wait again. -/
theorem sole_probe_of_overtaken :
    let driver := Simulation.driver false
    let s := Service.ofConfig { allowedFails := 1, downTimeoutSecs := 1 } 0
      { script := { reads := Dict.ofList [("p1", .communication "no answer")] } }
    let moves : List (Move Simulation) :=
      [.perform (.addProfile { name := "pump", resources :=
         [{ name := "level", properties := { type := .scalar (.int .int32) } }] }),
       .perform (.addDevice { name := "p1", profileName := "pump" }),
       .perform (.noteFailure "p1" "no answer"), .begin (.fire 0),
       .perform (.noteSuccess "p1"), .perform (.noteFailure "p1" "no answer"), .finish 0]
    let waiting := (⟨s, []⟩ : Flight Simulation).run driver (moves.take 6)
    let t := ((⟨s, []⟩ : Flight Simulation).run driver moves).service
    waiting.pending.length = 1 ∧ t.taskOf 0 = some (.probe "p1") ∧ t.isLive 0 = false ∧
      t.Probes "p1" 1 ∧ ∀ i, t.Probes "p1" i → i = 1 := by
  intro driver s moves waiting t
  have second : t.Probes "p1" 1 := ⟨by decide, by decide⟩
  obtain ⟨sole, -⟩ := sole_probe driver (Service.ofConfig_fresh _ _ _) moves "p1"
  exact ⟨by decide, by decide, by decide, second, fun i hi => sole i 1 hi second⟩

end FieldGateway.Flight
