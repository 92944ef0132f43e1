import FieldGateway.Proofs.Health.Account
import FieldGateway.Proofs.Site.Registry
import FieldGateway.Proofs.Site.Steps

/-
  What leaves the health of every device alone: announcing, timers and probes, asking the driver,
  cooking, publishing, sampling. `SameHealth` is the preorder, with one lemma for each action of
  the service that stays within it.
-/

namespace FieldGateway.Service

open FieldGateway.Action

variable {σ : Type}

/-- The same devices in the same health, with the same account of it. -/
structure SameHealth (s t : Service σ) : Prop where
  devices : t.site.registry.devices = s.site.registry.devices
  next : t.site.conditions.next = s.site.conditions.next
  operating : ∀ d, (t.site.condition d).operating = (s.site.condition d).operating
  remaining : ∀ d, (t.site.condition d).remainingFails = (s.site.condition d).remainingFails
  reports : ∀ name, reportsOf name t.site.trace = reportsOf name s.site.trace
  config : t.controller.config = s.controller.config

namespace SameHealth

theorem refl (s : Service σ) : SameHealth s s :=
  ⟨rfl, rfl, fun _ => rfl, fun _ => rfl, fun _ => rfl, rfl⟩

theorem trans {s t u : Service σ} (h : SameHealth s t) (h' : SameHealth t u) : SameHealth s u where
  devices := h'.devices.trans h.devices
  next := h'.next.trans h.next
  operating d := (h'.operating d).trans (h.operating d)
  remaining d := (h'.remaining d).trans (h.remaining d)
  reports name := (h'.reports name).trans (h.reports name)
  config := h'.config.trans h.config

instance : Std.Refl (SameHealth (σ := σ)) := ⟨refl⟩

instance : IsTrans (Service σ) SameHealth := ⟨fun _ _ _ => trans⟩

/-! ## Building blocks -/

theorem changeController {f : Controller → Controller} (h : ∀ c, (f c).config = c.config) :
    Within SameHealth (changeController f : Action σ Unit) :=
  fun _ => { refl _ with config := h _ }

/-- A step of the site that has nothing to do with devices. -/
theorem changeSite {f : Site σ → Site σ}
    (devices : ∀ x, (f x).registry.devices = x.registry.devices)
    (conditions : ∀ x, (f x).conditions = x.conditions)
    (reports : ∀ x name, reportsOf name (f x).trace = reportsOf name x.trace) :
    Within SameHealth (changeSite f : Action σ Unit) := fun s => by
  refine ⟨devices _, ?_, fun d => ?_, fun d => ?_, reports _, rfl⟩ <;>
    simp [Site.condition, conditions]

theorem note {e : Effect} (h : e.bearsOnHealth = false) :
    Within SameHealth (Service.changeSite (σ := σ) (Site.note e)) :=
  changeSite (fun _ => rfl) (fun _ => rfl) fun _ name => reportsOf_cons_silent h name _ _

/-! ## The site -/

theorem announce (source : String) (a : Int64 → Announcement) :
    Within SameHealth (Service.announce (σ := σ) source a) :=
  changeSite (fun _ => rfl) (fun _ => rfl) fun _ name => reportsOf_cons_silent rfl name _ _

theorem report {e : Effect} (h : e.bearsOnHealth = false) :
    Within SameHealth (Service.report (σ := σ) e) :=
  report_within (note h)

theorem ofSite {α : Type} {step : Site σ → α × Site σ}
    (h : ∀ s : Service σ, SameHealth s { s with site := (step s.site).2 }) :
    Within SameHealth (onSite step) := h

/-- Parsing attributes is no report. -/
theorem reportsOf_parses (name : String) (r : Registration) (now : Nat) (resources : List String)
    (trace : List (Nat × Effect)) :
    reportsOf name ((resources.map fun p => (now, Effect.driver (.parse r p))).reverse ++ trace) =
      reportsOf name trace := by
  rw [← List.map_reverse]
  induction resources.reverse with
  | nil => rfl
  | cons p rest ih => exact (reportsOf_cons_silent rfl name _ _).trans ih

variable (driver : Driver σ)

theorem index (r : Registration) : Within SameHealth (onSite (Site.index driver r)) :=
  ofSite fun s => by
    rcases s.site.index_cases driver r with h | ⟨i, h⟩
    · rw [h]
      exact refl s
    · rw [h]
      exact { refl s with reports := fun name => reportsOf_parses name r _ _ _ }

/-- A condition gives way to one that is as healthy. -/
theorem setCondition {s : Service σ} {d : Device} {c : Condition}
    (operating : c.operating = (s.site.condition d).operating)
    (remaining : c.remainingFails = (s.site.condition d).remainingFails) :
    SameHealth s { s with site := s.site.setCondition d c } := by
  by_cases hk : s.site.Knows d
  · refine { refl s with
      next := Numbered.next_modify _ _ _, operating := fun e => ?_, remaining := fun e => ?_ }
    all_goals
      dsimp only
      rw [Site.condition_setCondition hk]
      split
      · rename_i he
        simp only [operating, remaining, Site.condition, he]
      · rfl
  · exact { refl s with
      next := Numbered.next_modify _ _ _
      operating := fun e => by dsimp only; rw [Site.setCondition_of_not_knows hk]
      remaining := fun e => by dsimp only; rw [Site.setCondition_of_not_knows hk] }

theorem address (d : Device) : Within SameHealth (onSite (Site.address driver d)) :=
  ofSite fun s => by
    rcases s.site.address_cases driver d with ⟨a, _, h⟩ | ⟨_, outcome, state, _, h⟩
    · rw [h]
      exact refl s
    · have made : SameHealth s { s with site :=
          { s.site with driverState := state }.note (.driver (.address d outcome)) } :=
        { refl s with reports := fun name => reportsOf_cons_silent rfl name _ _ }
      rw [h]
      cases outcome with
      | error e => exact made
      | ok a => exact made.trans (setCondition rfl rfl)

theorem read (d : Device) (a : Address) (requests : List Request) :
    Within SameHealth (onSite (Site.read driver d a requests)) :=
  ofSite fun s => { refl s with reports := fun name => reportsOf_cons_silent rfl name _ _ }

theorem write (d : Device) (a : Address) (requests : List Request) (values : List Value) :
    Within SameHealth (onSite (Site.write driver d a requests values)) :=
  ofSite fun s => { refl s with reports := fun name => reportsOf_cons_silent rfl name _ _ }

theorem prepare : Within SameHealth (onSite (Site.prepare driver)) :=
  ofSite fun s => { refl s with reports := fun name => reportsOf_cons_silent rfl name _ _ }

/-! ## Timers and probes -/

theorem setTimer (rhythm : Timer.Rhythm) (task : Task) :
    Within SameHealth (Service.setTimer (σ := σ) rhythm task) := by
  refine .bind .get fun s => .bind ?_ fun _ => .bind ?_ fun _ => .pure _
  · exact changeSite (fun _ => rfl) (fun _ => rfl) fun _ _ => rfl
  · exact changeController fun _ => rfl

theorem retireTimer (number : Nat) : Within SameHealth (Service.retireTimer (σ := σ) number) :=
  changeController fun _ => rfl

theorem armProbe (name : String) : Within SameHealth (Service.armProbe (σ := σ) name) :=
  armProbe_within name (fun _ => setTimer _ _) fun _ => changeController fun _ => rfl

theorem forgetProbe (name : String) : Within SameHealth (Service.forgetProbe (σ := σ) name) :=
  changeController fun _ => rfl

theorem cancelProbe (name : String) : Within SameHealth (Service.cancelProbe (σ := σ) name) :=
  cancelProbe_within name (forgetProbe name) retireTimer

theorem cancelAllProbes : Within SameHealth (Service.cancelAllProbes (σ := σ)) :=
  cancelAllProbes_within retireTimer (changeController fun _ => rfl)

theorem wentDown (d : Device) (reason : String) :
    Within SameHealth (Service.wentDown (σ := σ) d reason) :=
  .bind (announce _ _) fun _ => .bind (report rfl) fun _ => armProbe d.name

/-! ## Reading and publishing -/

theorem countRead : Within SameHealth (Service.countRead (σ := σ)) :=
  changeController fun _ => rfl

theorem touch (d : Device) : Within SameHealth (Service.touch (σ := σ) d) :=
  touch_within (note rfl)

theorem cook (d : Device) (c : Command) (results : List Result) :
    Within SameHealth (Service.cook (σ := σ) d c results) :=
  .bind .get fun _ => .bind (changeSite (fun _ => rfl) (fun _ => rfl) fun _ _ => rfl) fun _ =>
    .pure _

theorem publish (e : CookedEvent) : Within SameHealth (Service.publish (σ := σ) e) :=
  publish_within e (fun _ => announce _ _) (changeController fun _ => rfl) (note rfl)

/-! ## Sampling -/

theorem changeSampler (number : Nat) (f : Sampler → Sampler) :
    Within SameHealth (Service.changeSampler (σ := σ) number f) :=
  changeController fun _ => rfl

theorem stopSampler (number : Nat) : Within SameHealth (stopSampler driver number) :=
  stopSampler_within number (changeSampler _ _) retireTimer fun _ _ =>
    changeSite (fun _ => rfl) (fun _ => rfl) fun _ name => reportsOf_cons_silent rfl name _ _

theorem launch (d : Device) (c : Command) (number : Nat) (r : Sampler) :
    Within SameHealth (launch driver d c number r) :=
  launch_within d c number r (setTimer _ _)
    (fun _ => ofSite fun s =>
      { refl s with reports := fun name => reportsOf_cons_silent rfl name _ _ })
    fun _ => changeSampler _ _

theorem addSampler (device : String) (a : AutoEvent) (interval : Duration) :
    Within SameHealth (addSampler (σ := σ) device a interval) :=
  .bind .get fun _ => .bind (changeController fun _ => rfl) fun _ => .pure _

theorem scheduling : Scheduling driver (SameHealth (σ := σ)) where
  take _ := .bind .get fun _ => .bind (changeController fun _ => rfl) fun _ => .pure _
  stop := stopSampler driver
  add := addSampler
  launched d c number := launched_within d c number (launch driver d c number)
  hold _ _ := changeController fun _ => rfl

theorem startAutoEvents (device : String) : Within SameHealth (startAutoEvents driver device) :=
  (scheduling driver).startAutoEvents (index driver) device

theorem stopAutoEvents (device : String) : Within SameHealth (stopAutoEvents driver device) :=
  (scheduling driver).stopAutoEvents device

theorem sampleRegistered (registered : Except DeviceError Device) :
    Within SameHealth (sampleRegistered driver registered) :=
  sampleRegistered_within (startAutoEvents driver) registered

/-! ## The service -/

theorem announceCounters : Within SameHealth (announceCounters (σ := σ)) :=
  announceCounters_within fun _ _ => announce _ _

theorem start : Within SameHealth (start driver) :=
  start_within (prepare driver) (startAutoEvents driver)
    (startCounters_within (fun _ => setTimer _ _) (fun _ => changeController fun _ => rfl)
      retireTimer)
    (changeController fun _ => rfl)

theorem stop (force : Bool) : Within SameHealth (stop driver force) :=
  stop_within force (changeController fun _ => rfl) (scheduling driver).stopAllAutoEvents
    cancelAllProbes (changeController fun _ => rfl) retireTimer
    (changeSite (fun _ => rfl) (fun _ => rfl) fun _ name => reportsOf_cons_silent rfl name _ _)

theorem changeLifecycle (number : Nat) (l : Timer.Lifecycle) :
    Within SameHealth (changeLifecycle (σ := σ) number l) :=
  changeController fun _ => rfl

theorem settleTimer (number fired : Nat) (control : Timer.Control) :
    Within SameHealth (settleTimer (σ := σ) number fired control) :=
  settleTimer_within number fired control
    (changeSite (fun _ => rfl) (fun _ => rfl) fun _ _ => rfl) fun _ => changeController fun _ => rfl

/-! ## Profiles -/

theorem addProfile (p : Profile) : Within SameHealth (addProfile (σ := σ) p) := fun s => by
  unfold Service.addProfile
  rw [after_get_bind]
  dsimp only
  cases h : s.site.registry.addProfile s.site.indexes.next p with
  | error e => exact refl s
  | ok r => exact { refl s with devices := Registry.addProfile_devices h }

theorem removeProfile (name : String) : Within SameHealth (removeProfile (σ := σ) name) :=
  fun s => by
    unfold Service.removeProfile
    rw [after_get_bind]
    cases h : s.site.registry.removeProfile name with
    | error e => exact refl s
    | ok r => exact { refl s with devices := Registry.removeProfile_devices h }

end SameHealth

end FieldGateway.Service
