import FieldGateway.Proofs.Flight.Trespass
import FieldGateway.Proofs.Writing.Refusal

/-
  What is done without a write. `Unwritten` relates services with the same transforms, of which the
  second has the trace of the first with anything but writes on top. Whatever an operation does, and
  whatever an errand begins and ends with, stays within it (`perform_unwritten`,
  `begin_unwritten`, `finish_unwritten`), a command that writes apart.
-/

namespace FieldGateway.Service

open FieldGateway.Action
open Timer (Control)

variable {σ : Type} {s t u : Service σ}

/-- Nothing was written, and values are transformed as before. -/
structure Unwritten (s t : Service σ) : Prop where
  noting : Noting (¬ ·.IsWrite) s t
  transforms : t.controller.transforms = s.controller.transforms

namespace Unwritten

theorem trans (h : Unwritten s t) (h' : Unwritten t u) : Unwritten s u where
  noting := h.noting.trans h'.noting
  transforms := h'.transforms.trans h.transforms

instance : Std.Refl (Unwritten (σ := σ)) := ⟨fun _ => ⟨.of_eq rfl, rfl⟩⟩

instance : IsTrans (Service σ) Unwritten := ⟨fun _ _ _ => trans⟩

/-- What the controller changes besides. -/
theorem besides {f : Controller → Controller} (h : ∀ c, (f c).transforms = c.transforms) :
    Within Unwritten (changeController f : Action σ Unit) :=
  fun s => ⟨.of_eq rfl, h s.controller⟩

theorem site {f : Site σ → Site σ} (h : ∀ x, (f x).trace = x.trace) :
    Within Unwritten (changeSite f) :=
  fun s => ⟨.of_eq (h s.site), rfl⟩

/-- A step of the site that puts one thing on record. -/
theorem one {e : Effect} (h : ¬ e.IsWrite) {now : Nat}
    (trace : t.site.trace = (now, e) :: s.site.trace) (same : t.controller = s.controller) :
    Unwritten s t :=
  ⟨.one trace h, by rw [same]⟩

theorem note {e : Effect} (h : ¬ e.IsWrite) :
    Within Unwritten (changeSite (σ := σ) (Site.note e)) :=
  fun _ => one h rfl rfl

theorem announce (source : String) (a : Int64 → Announcement) :
    Within Unwritten (announce (σ := σ) source a) :=
  fun _ => one id rfl rfl

/-! ## Timers, probes, and reports -/

theorem setTimer (rhythm : Timer.Rhythm) (task : Task) :
    Within Unwritten (setTimer (σ := σ) rhythm task) := fun _ => ⟨.of_eq rfl, rfl⟩

theorem retireTimer (number : Nat) : Within Unwritten (retireTimer (σ := σ) number) :=
  besides fun _ => rfl

theorem forgetProbe (name : String) : Within Unwritten (forgetProbe (σ := σ) name) :=
  besides fun _ => rfl

theorem cancelProbe (name : String) : Within Unwritten (cancelProbe (σ := σ) name) :=
  cancelProbe_within name (forgetProbe name) retireTimer

theorem settleTimer (number fired : Nat) (control : Control) :
    Within Unwritten (settleTimer (σ := σ) number fired control) :=
  settleTimer_within number fired control (site fun _ => rfl) fun _ => besides fun _ => rfl

theorem reporting (d : Device) : Reporting d (Unwritten (σ := σ)) where
  enter _ _ := one id rfl rfl
  sayUp := announce _ _
  sayDown _ := announce _ _
  report _ := report_within (note id)
  arm := armProbe_within d.name (fun _ => setTimer _ _) fun _ => besides fun _ => rfl
  cancel := cancelProbe d.name

/-! ## Asking a device -/

variable (driver : Driver σ)

theorem index (r : Registration) : Within Unwritten (onSite (Site.index driver r)) :=
  fun s => ⟨index_noting driver r (fun _ => id) s, rfl⟩

theorem asking (d : Device) : Asking driver d (Unwritten (σ := σ)) where
  address s := ⟨makeAddress_noting driver d (fun _ => id) s, rfl⟩
  read _ _ _ := one id rfl rfl
  success := (reporting d).success
  failure := (reporting d).failure
  violation := (reporting d).violation
  touch := touch_within (note id)

theorem countRead : Within Unwritten (countRead (σ := σ)) := fun _ => ⟨.of_eq rfl, rfl⟩

theorem cook (d : Device) (c : Command) (results : List Result) :
    Within Unwritten (cook (σ := σ) d c results) := fun _ => ⟨.of_eq rfl, rfl⟩

theorem publish (e : CookedEvent) : Within Unwritten (publish (σ := σ) e) :=
  publish_within e (fun _ => announce _ _) (fun _ => ⟨.of_eq rfl, rfl⟩) (note id)

theorem announceCounters : Within Unwritten (announceCounters (σ := σ)) :=
  announceCounters_within fun _ _ => announce _ _

/-! ## Sampling and management -/

theorem scheduling : Scheduling driver (Unwritten (σ := σ)) where
  take _ _ := ⟨.of_eq rfl, rfl⟩
  stop number := stopSampler_within number (besides fun _ => rfl) retireTimer
    fun _ _ _ => one id rfl rfl
  add _ _ _ _ := ⟨.of_eq rfl, rfl⟩
  launched d c number := launched_within d c number fun r =>
    launch_within d c number r (setTimer _ _) (fun _ _ => one id rfl rfl)
      fun _ => besides fun _ => rfl
  hold _ _ := besides fun _ => rfl

theorem startAutoEvents (device : String) : Within Unwritten (startAutoEvents driver device) :=
  (scheduling driver).startAutoEvents (index driver) device

theorem sampleRegistered (registered : Except DeviceError Device) :
    Within Unwritten (sampleRegistered driver registered) :=
  sampleRegistered_within (startAutoEvents driver) registered

theorem insertDevice (config : DeviceConfig) : Within Unwritten (insertDevice driver config) :=
  fun s => by
    rcases insertDevice_cases driver config s with ⟨_, _, left⟩ | ⟨_, _, _, _, i, trace⟩
    · rw [left]
      exact Std.Refl.refl s
    · exact ⟨.two trace id id, by rw [i.controller]⟩

theorem replaceDevice (config : DeviceConfig) : Within Unwritten (replaceDevice driver config) :=
  fun s => by
    rcases replaceDevice_cases driver config s with ⟨_, _, left⟩ | ⟨_, _, _, _, _, i, trace⟩
    · rw [left]
      exact Std.Refl.refl s
    · exact one id trace i.controller

theorem dropDevice (name : String) : Within Unwritten (dropDevice driver name) := by
  refine .bind .get fun s => ?_
  cases s.site.registry.removeDevice name with
  | error e => exact .pure _
  | ok registry =>
    exact .bind (site fun _ => rfl) fun _ => .bind (announce _ _) fun _ =>
      .bind (fun _ => one id rfl rfl) fun _ => .pure _

theorem start : Within Unwritten (start driver) :=
  start_within (fun _ => one id rfl rfl) (startAutoEvents driver)
    (startCounters_within (fun _ => setTimer _ _) (fun _ => besides fun _ => rfl) retireTimer)
    (besides fun _ => rfl)

theorem stop (force : Bool) : Within Unwritten (stop driver force) :=
  stop_within force (besides fun _ => rfl) (scheduling driver).stopAllAutoEvents
    (cancelAllProbes_within retireTimer (besides fun _ => rfl)) (besides fun _ => rfl) retireTimer
    fun _ => one id rfl rfl

end Unwritten

/-! ## Work, and operations -/

variable (driver : Driver σ)

theorem begin_unwritten (x : Start) : Within Unwritten (begin driver x) :=
  begin_within (authorize_within (Unwritten.index driver))
    (fun _ _ => Unwritten.besides fun _ => rfl)
    (beginTask_within
      (fun name => beginProbe_within name (Unwritten.forgetProbe name) (Unwritten.index driver))
      (Unwritten.index driver) Unwritten.announceCounters)
    Unwritten.settleTimer x

/-- The end of an errand that does not write. -/
theorem finish_unwritten {e : Errand} (reads : e.isWrite = false) :
    Within Unwritten (finish driver e) := by
  have asking (d : Device) := Unwritten.asking driver d
  cases e with
  | get d c =>
    exact .bind ((asking d).readCooked Unwritten.countRead c (Unwritten.cook d c)) fun _ => .pure _
  | put => cases reads
  | probe timer fired d c =>
    refine .bind ((asking d).ask c.requests) fun answer =>
      .bind ?_ fun control => Unwritten.settleTimer timer fired control
    cases answer with
    | error e => exact .pure _
    | ok results => exact .bind (asking d).success fun _ => .pure _
  | sample timer fired number r d c =>
    exact .bind ((asking d).sampleNow Unwritten.countRead number r c
      (fun _ => Unwritten.besides fun _ => rfl)
      fun results => publishResults_within (Unwritten.cook d c results) Unwritten.publish) fun _ =>
        Unwritten.settleTimer timer fired .again

theorem atOnce_unwritten {x : Start}
    (reads : ∀ s e, (begin driver x).result s = some e → e.isWrite = false) :
    Within Unwritten (atOnce driver x) := fun s => by
  have begun := begin_unwritten driver x s
  rw [atOnce, after_bind]
  cases h : (begin driver x).result s with
  | none => exact begun
  | some e => exact begun.trans (finish_unwritten driver (reads s e h) _)

theorem answer_get_unwritten (w : Surface) (device command : String) (query : Query)
    (params : Params) : Within Unwritten (answer driver w ⟨.get, device, command, query, params⟩) :=
  fun s => by
    have read : Unwritten s ((runGet driver device command).after s) := by
      rw [← atOnce_get]
      refine atOnce_unwritten driver (fun s e h => ?_) s
      obtain ⟨d, c, rfl⟩ := begin_get_cases h
      rfl
    rw [answer_eq, after_bind, after_runCommand_get]
    exact read.trans (reply_within Unwritten.publish w query _ _)

/-- All operations but commands that write. -/
theorem perform_unwritten {op : Operation σ} (reads : op.isWrite = false) (s : Service σ) :
    Unwritten s (perform driver s op) := by
  cases op with
  | addProfile p => exact addProfile_within p (fun _ => Unwritten.site fun _ => rfl) s
  | removeProfile name => exact removeProfile_within name (fun _ => Unwritten.site fun _ => rfl) s
  | addDevice config =>
    exact Within.bind (Unwritten.insertDevice driver config) (Unwritten.sampleRegistered driver) s
  | updateDevice config =>
    exact Within.bind (Unwritten.replaceDevice driver config) (Unwritten.sampleRegistered driver) s
  | removeDevice name =>
    exact Within.bind ((Unwritten.scheduling driver).stopAutoEvents name)
      (fun _ => .bind (Unwritten.cancelProbe name) fun _ => Unwritten.dropDevice driver name) s
  | setAdminState name state => exact withDevice_within (fun _ _ => ⟨.of_eq rfl, rfl⟩) name s
  | setServiceAdminState state => exact ⟨.of_eq rfl, rfl⟩
  | deviceCommand device command m params =>
    cases m with
    | get => exact answer_get_unwritten driver .named device command {} params s
    | put => cases reads
  | execute r =>
    obtain ⟨method, device, command, query, params⟩ := r
    cases method with
    | get => exact answer_get_unwritten driver .requested device command query params s
    | put => cases reads
  | postReadings device source results =>
    exact postReadings_within (Unwritten.index driver) Unwritten.cook
      (fun d reason => (Unwritten.asking driver d).violated reason) Unwritten.publish device source
      results s
  | noteSuccess name => exact withDevice_within (fun d => (Unwritten.reporting d).success) name s
  | noteFailure name reason =>
    exact withDevice_within (fun d => (Unwritten.reporting d).failure reason) name s
  | startAutoEvents name => exact Unwritten.startAutoEvents driver name s
  | stopAutoEvents name => exact (Unwritten.scheduling driver).stopAutoEvents name s
  | start => exact Unwritten.start driver s
  | stop force => exact Unwritten.stop driver force s
  | fire timer =>
    show Unwritten s ((fireTimer driver timer).after s)
    rw [← atOnce_fire]
    refine atOnce_unwritten driver (fun s e h => ?_) s
    exact Errand.isWrite_of_isTimed (begin_fire_iff.1 h).isTimed
  | pass millis timeOfDay => exact ⟨.of_eq rfl, rfl⟩
  | change f => exact ⟨.of_eq rfl, rfl⟩

end FieldGateway.Service
