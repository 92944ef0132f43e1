import FieldGateway.Proofs.Registry.Integrity
import FieldGateway.Proofs.Sampling.Start

/-
  Who samplers and probes are for. A name is `Busy` if samplers or a probe are on record under it;
  a service is `Owned` if every name that is busy is that of a registered device. Most actions
  change no device and make no name busy (`Eases`); a start of samplers and a probe that is armed
  are for a device that is registered, and a device is removed after its samplers and its probe
  (`perform_owned`). So nothing is under way for a name that is not registered, in any run.
-/

namespace FieldGateway.Service

open FieldGateway.Action

variable {σ : Type} {s t u : Service σ}

/-- Samplers or a probe are on record under this name. -/
def Busy (s : Service σ) (name : String) : Prop :=
  (s.controller.sampling.find? name).isSome ∨ (s.controller.probes.find? name).isSome

def Owned (s : Service σ) : Prop := ∀ name, s.Busy name → (s.device? name).isSome

/-- Besides, a device of this name is registered. -/
def OwnedWith (name : String) (s : Service σ) : Prop := s.Owned ∧ (s.device? name).isSome

theorem owned_of_fresh (h : Fresh s) : Owned s := by
  intro name busy
  rw [Busy, h.sampling, h.probes] at busy
  rcases busy with busy | busy <;> cases busy

/-! ## What makes no name busy -/

/-- No device came or went, and no name has samplers or a probe that had none. -/
structure Eases (s t : Service σ) : Prop where
  devices : t.site.registry.devices = s.site.registry.devices
  sampled {name : String} : (t.controller.sampling.find? name).isSome →
    (s.controller.sampling.find? name).isSome
  probed {name : String} : (t.controller.probes.find? name).isSome →
    (s.controller.probes.find? name).isSome

theorem Eases.device? (h : Eases s t) (name : String) : t.device? name = s.device? name := by
  rw [Service.device?, Registry.device?, h.devices]
  rfl

theorem Eases.busy (h : Eases s t) {name : String} (busy : t.Busy name) : s.Busy name :=
  busy.imp h.sampled h.probed

theorem Owned.eased (h : Owned s) (eases : Eases s t) : Owned t := fun name busy => by
  rw [eases.device?]
  exact h name (eases.busy busy)

theorem OwnedWith.eased {name : String} (h : OwnedWith name s) (eases : Eases s t) :
    OwnedWith name t :=
  ⟨h.1.eased eases, by rw [eases.device?]; exact h.2⟩

namespace Eases

theorem refl (s : Service σ) : Eases s s := ⟨rfl, id, id⟩

theorem trans (h : Eases s t) (h' : Eases t u) : Eases s u :=
  ⟨h'.devices.trans h.devices, h.sampled ∘ h'.sampled, h.probed ∘ h'.probed⟩

instance : Std.Refl (Eases (σ := σ)) := ⟨refl⟩

instance : IsTrans (Service σ) Eases := ⟨fun _ _ _ => trans⟩

theorem keeps {α : Type} {a : Action σ α} (h : Within Eases a) : Keeps Owned a :=
  fun s hs => hs.eased (h s)

theorem keepsWith {α : Type} {a : Action σ α} {name : String} (h : Within Eases a) :
    Keeps (OwnedWith name) a :=
  fun s hs => hs.eased (h s)

/-! ## Building blocks -/

theorem ofSite (controller : t.controller = s.controller)
    (devices : t.site.registry.devices = s.site.registry.devices) : Eases s t :=
  ⟨devices, fun sampled => by rwa [controller] at sampled,
    fun probed => by rwa [controller] at probed⟩

theorem site {f : Site σ → Site σ} (h : ∀ x, (f x).registry = x.registry) :
    Within Eases (changeSite f) :=
  fun s => ofSite rfl (congrArg Registry.devices (h s.site))

/-- What the controller changes besides. -/
theorem besides {f : Controller → Controller}
    (h : ∀ c, ((f c).sampling, (f c).probes) = (c.sampling, c.probes)) :
    Within Eases (changeController f : Action σ Unit) := fun s => by
  obtain ⟨sampling, probes⟩ := Prod.mk.inj (h s.controller)
  rw [after_changeController]
  exact ⟨rfl, fun sampled => by rwa [sampling] at sampled, fun probed => by rwa [probes] at probed⟩

theorem announce (source : String) (a : Int64 → Announcement) :
    Within Eases (announce (σ := σ) source a) :=
  site fun _ => rfl

theorem note (e : Effect) : Within Eases (changeSite (σ := σ) (Site.note e)) := site fun _ => rfl

theorem report (e : Effect) : Within Eases (report (σ := σ) e) := report_within (note e)

theorem setTimer (rhythm : Timer.Rhythm) (task : Task) :
    Within Eases (setTimer (σ := σ) rhythm task) :=
  .bind .get fun _ => .bind (site fun _ => rfl) fun _ => .bind (besides fun _ => rfl) fun _ =>
    .pure _

theorem retireTimer (number : Nat) : Within Eases (retireTimer (σ := σ) number) :=
  besides fun _ => rfl

theorem forgetProbe (name : String) : Within Eases (forgetProbe (σ := σ) name) :=
  fun _ => ⟨rfl, id, Dict.isSome_of_erase⟩

theorem cancelProbe (name : String) : Within Eases (cancelProbe (σ := σ) name) :=
  cancelProbe_within name (forgetProbe name) retireTimer

theorem changeSampler (number : Nat) (f : Sampler → Sampler) :
    Within Eases (changeSampler (σ := σ) number f) :=
  besides fun _ => rfl

theorem takeSamplers (device : String) : Within Eases (takeSamplers (σ := σ) device) :=
  fun _ => ⟨rfl, Dict.isSome_of_erase, id⟩

theorem touch (d : Device) : Within Eases (touch (σ := σ) d) := touch_within (note _)

theorem publish (e : CookedEvent) : Within Eases (publish (σ := σ) e) :=
  publish_within e (fun _ => announce _ _) (besides fun _ => rfl) (note _)

/-! ## Profiles -/

theorem addProfile (p : Profile) : Within Eases (addProfile (σ := σ) p) := fun s => by
  unfold Service.addProfile
  rw [after_get_bind]
  dsimp only
  cases hr : s.site.registry.addProfile s.site.indexes.next p with
  | error e => exact .refl s
  | ok registry => exact .ofSite rfl (Registry.addProfile_devices hr)

theorem removeProfile (name : String) : Within Eases (removeProfile (σ := σ) name) := fun s => by
  unfold Service.removeProfile
  rw [after_get_bind]
  cases hr : s.site.registry.removeProfile name with
  | error e => exact .refl s
  | ok registry => exact .ofSite rfl (Registry.removeProfile_devices hr)

/-! ## Sampling, the start and the stop -/

variable (driver : Driver σ)

theorem index (r : Registration) : Within Eases (onSite (Site.index driver r)) :=
  fun s => ofSite rfl (congrArg Registry.devices (Site.registry_index driver r s.site))

theorem stopSampler (number : Nat) : Within Eases (stopSampler driver number) :=
  stopSampler_within number (changeSampler _ _) retireTimer fun _ _ => site fun _ => rfl

theorem stopAutoEvents (device : String) : Within Eases (stopAutoEvents driver device) :=
  stopAutoEvents_within (takeSamplers device) (stopSampler driver)

theorem launching : Launching driver (Eases (σ := σ)) where
  add _ _ _ := .bind .get fun _ => .bind (besides fun _ => rfl) fun _ => .pure _
  launched d c number := launched_within d c number fun r =>
    launch_within d c number r (setTimer _ _) (fun _ _ => ofSite rfl rfl) fun _ => changeSampler _ _

theorem settleTimer (number fired : Nat) (control : Timer.Control) :
    Within Eases (settleTimer (σ := σ) number fired control) :=
  settleTimer_within number fired control (site fun _ => rfl) fun _ => besides fun _ => rfl

theorem announceCounters : Within Eases (announceCounters (σ := σ)) :=
  announceCounters_within fun _ _ => announce _ _

theorem startCounters : Within Eases (startCounters (σ := σ)) :=
  startCounters_within (fun _ => setTimer _ _) (fun _ => besides fun _ => rfl) retireTimer

theorem cancelAllProbes : Within Eases (cancelAllProbes (σ := σ)) :=
  cancelAllProbes_within retireTimer fun _ => ⟨rfl, id, nofun⟩

theorem stop (force : Bool) : Within Eases (stop driver force) :=
  stop_within force (besides fun _ => rfl) (stopAllAutoEvents_within (stopAutoEvents driver))
    cancelAllProbes (besides fun _ => rfl) retireTimer (site fun _ => rfl)

end Eases

/-! ## Work with a registered device -/

theorem Eases.enter (d : Device) (r : Report) : Within Eases (enter (σ := σ) d r) :=
  fun _ => .ofSite rfl rfl

theorem armProbe_owned (name : String) : Keeps (OwnedWith name) (armProbe (σ := σ) name) := by
  refine armProbe_within name (fun _ => Eases.keepsWith (.setTimer _ _)) fun number s hs => ?_
  refine ⟨fun n busy => ?_, hs.2⟩
  by_cases h : name = n
  · exact h ▸ hs.2
  · refine hs.1 n (busy.imp_right fun probed => ?_)
    rw [after_changeController, Dict.find?_insert, if_neg h] at probed
    exact probed

theorem reporting_owned (d : Device) : Reporting d (Onward (OwnedWith (σ := σ) d.name)) where
  enter r := Eases.keepsWith (.enter d r)
  sayUp := Eases.keepsWith (.announce _ _)
  sayDown _ := Eases.keepsWith (.announce _ _)
  report _ := Eases.keepsWith (.report _)
  arm := armProbe_owned d.name
  cancel := Eases.keepsWith (.cancelProbe d.name)

theorem workStep_owned {driver : Driver σ} {d : Device} (h : WorkStep driver d s t)
    (hs : OwnedWith d.name s) : OwnedWith d.name t := by
  cases h with
  | index => exact hs.eased (Eases.index driver d.registration s)
  | address =>
    exact hs.eased (.ofSite rfl (congrArg Registry.devices (Still.makeAddress driver d s).registry))
  | read | write | cook => exact hs.eased (.ofSite rfl rfl)
  | success => exact (reporting_owned d).success s hs
  | failure reason => exact (reporting_owned d).failure reason s hs
  | violation reason => exact (reporting_owned d).violation reason s hs
  | countRead => exact hs.eased ⟨rfl, id, id⟩
  | touch => exact hs.eased (Eases.touch d s)
  | publish e => exact hs.eased (Eases.publish e s)
  | remember number results => exact hs.eased (Eases.changeSampler number _ s)

variable {driver : Driver σ}

theorem workOn_owned {name : String} (h : WorkOn driver name s t) (intact : s.site.registry.Intact)
    (hs : Owned s) : Owned t := by
  rcases h with rfl | ⟨d, hd, work⟩
  · exact hs
  · have named : d.name = name := intact.deviceNames hd
    have registered : (s.device? d.name).isSome = true := by rw [named, hd]; rfl
    exact (work.keeps workStep_owned ⟨hs, registered⟩).1

variable (driver)

/-- The samplers are put on record for a device that is registered. -/
theorem enroll_owned {device : String} (h : OwnedWith device s) (numbers : List Nat) :
    Owned (enroll device numbers s) := by
  unfold enroll
  split
  · intro n busy
    by_cases hn : device = n
    · exact hn ▸ h.2
    · refine h.1 n (busy.imp_left fun sampled => ?_)
      rw [Dict.find?_insert, if_neg hn] at sampled
      exact sampled
  · exact h.1

theorem startAutoEvents_owned (device : String) : Keeps Owned (startAutoEvents driver device) := by
  intro s hs
  cases hd : s.device? device with
  | none => rw [startAutoEvents_of_none driver hd]; exact hs
  | some d =>
    rw [startAutoEvents_eq driver hd]
    have registered : OwnedWith device s := ⟨hs, by rw [hd]; rfl⟩
    have started := (Eases.launching driver).startSamplers (Eases.index driver d.registration)
      (s.samplersOf device) d.autoEvents
    exact enroll_owned (registered.eased ((Eases.stopAutoEvents driver device s).trans (started _))) _

theorem sampleRegistered_owned (registered : Except DeviceError Device) :
    Keeps Owned (sampleRegistered driver registered) :=
  sampleRegistered_within (startAutoEvents_owned driver) registered

theorem start_owned : Keeps Owned (start driver) :=
  start_within (fun _ hs => hs) (startAutoEvents_owned driver) (Eases.keeps .startCounters)
    (fun _ hs => hs)

/-! ## Devices that come and go -/

/-- An incarnation takes the place of another, or has a name of its own. -/
theorem Installed.owned {d : Device} {c : Condition} (h : Installed d c s t) (hs : Owned s) :
    Owned t := by
  intro n busy
  rw [h.device?]
  split
  · rfl
  · rw [Busy, h.controller] at busy
    exact hs n busy

theorem insertDevice_owned (config : DeviceConfig) : Keeps Owned (insertDevice driver config) := by
  intro s hs
  rcases insertDevice_cases driver config s with ⟨e, -, refused⟩ | ⟨d, -, -, -, installed, -⟩
  · rw [refused]; exact hs
  · exact installed.owned hs

theorem replaceDevice_owned (config : DeviceConfig) :
    Keeps Owned (replaceDevice driver config) := by
  intro s hs
  rcases replaceDevice_cases driver config s with ⟨e, -, refused⟩ | ⟨d, old, -, -, -, installed, -⟩
  · rw [refused]; exact hs
  · exact installed.owned hs

theorem stopAutoEvents_unsampled (name : String) (s : Service σ) :
    ((stopAutoEvents driver name).after s).controller.sampling.find? name = none := by
  have taken : ((takeSamplers name).after s).controller.sampling.find? name = none := by
    show (s.controller.sampling.erase name).find? name = none
    rw [Dict.find?_erase, if_pos rfl]
  have stopped : Eases ((takeSamplers name).after s) ((stopAutoEvents driver name).after s) :=
    Within.forM (Eases.stopSampler driver) _
  rw [← Option.not_isSome_iff_eq_none] at taken ⊢
  exact fun sampled => taken (stopped.sampled sampled)

theorem cancelProbe_unprobed (name : String) (s : Service σ) :
    ((cancelProbe name).after s).controller.probes.find? name = none := by
  unfold cancelProbe
  rw [after_get_bind]
  cases h : s.controller.probes.find? name with
  | none => exact h
  | some number =>
    show (s.controller.probes.erase name).find? name = none
    rw [Dict.find?_erase, if_pos rfl]

/-- The samplers of a name are stopped, and its probe is cancelled. -/
def cleared (name : String) (s : Service σ) : Service σ :=
  (cancelProbe name).after ((stopAutoEvents driver name).after s)

theorem cleared_eases (name : String) (s : Service σ) : Eases s (cleared driver name s) :=
  (Eases.stopAutoEvents driver name s).trans (Eases.cancelProbe name _)

theorem cleared_idle (name : String) (s : Service σ) : ¬ (cleared driver name s).Busy name := by
  rintro (sampled | probed)
  · have sampled := (Eases.cancelProbe name _).sampled sampled
    rw [stopAutoEvents_unsampled] at sampled
    cases sampled
  · rw [cleared, cancelProbe_unprobed] at probed
    cases probed

theorem after_removeDevice (name : String) (s : Service σ) :
    (removeDevice driver name).after s = (dropDevice driver name).after (cleared driver name s) := by
  unfold removeDevice cleared
  rw [after_bind, after_bind]

theorem result_removeDevice (name : String) (s : Service σ) :
    (removeDevice driver name).result s =
      (dropDevice driver name).result (cleared driver name s) := by
  unfold removeDevice cleared
  rw [result_bind, result_bind]

/-- A device goes of which nothing is under way. -/
theorem dropDevice_owned {name : String} (hs : Owned s) (idle : ¬ s.Busy name) :
    Owned ((dropDevice driver name).after s) := by
  rcases dropDevice_cases driver name s with ⟨-, -, refused⟩ | ⟨-, devices, -, controller, -⟩
  · rw [refused]; exact hs
  · intro n busy
    have busy : s.Busy n := by rwa [Busy, controller] at busy
    have hn : name ≠ n := fun same => idle (same ▸ busy)
    rw [Service.device?, Registry.device?, devices, Dict.find?_erase, if_neg hn]
    exact hs n busy

theorem removeDevice_owned (name : String) : Keeps Owned (removeDevice driver name) := by
  intro s hs
  rw [after_removeDevice]
  exact dropDevice_owned driver (hs.eased (cleared_eases driver name s)) (cleared_idle driver name s)

/-! ## Runs -/

/-- The registry is intact, and nothing is under way but for its devices. -/
structure InOrder (s : Service σ) : Prop where
  intact : s.site.registry.Intact
  owned : s.Owned

theorem InOrder.of_still {α : Type} {a : Action σ α} (still : Within Still a)
    (eases : Within Eases a) : Keeps InOrder a :=
  fun s hs => ⟨(still s).registry ▸ hs.intact, hs.owned.eased (eases s)⟩

theorem run_inOrder (task : Task) : Keeps InOrder (run driver task) :=
  run_within driver
    (fun work hs => ⟨SameRegistry.workOn work ▸ hs.intact, workOn_owned work hs.intact hs.owned⟩)
    (fun name => .of_still (Still.forgetProbe name) (Eases.forgetProbe name))
    (.of_still Still.announceCounters Eases.announceCounters) task

theorem fireTimer_inOrder (timer : Nat) : Keeps InOrder (fireTimer driver timer) := fun _ =>
  fireTimer_within (fun _ => .of_still (Still.changeLifecycle _ _) (Eases.besides fun _ => rfl))
    (fun _ _ => .of_still (Still.settleTimer _ _ _) (Eases.settleTimer _ _ _))
    fun x _ => run_inOrder driver x.task

/-- What is under way stays with the devices that are registered. -/
theorem perform_owned (hs : InOrder s) (op : Operation σ) : Owned (perform driver s op) := by
  cases op with
  | addProfile p => exact hs.owned.eased (Eases.addProfile p s)
  | removeProfile name => exact hs.owned.eased (Eases.removeProfile name s)
  | addDevice config =>
    exact sampleRegistered_owned driver _ _ (insertDevice_owned driver config s hs.owned)
  | updateDevice config =>
    exact sampleRegistered_owned driver _ _ (replaceDevice_owned driver config s hs.owned)
  | removeDevice name => exact removeDevice_owned driver name s hs.owned
  | setAdminState name state =>
    exact hs.owned.eased (withDevice_within (fun d s => .ofSite rfl rfl) name s)
  | setServiceAdminState state => exact hs.owned
  | deviceCommand | execute | postReadings | noteSuccess | noteFailure =>
    exact workOn_owned (perform_chores driver rfl s).workOn hs.intact hs.owned
  | startAutoEvents name => exact startAutoEvents_owned driver name s hs.owned
  | stopAutoEvents name => exact hs.owned.eased (Eases.stopAutoEvents driver name s)
  | start => exact start_owned driver s hs.owned
  | stop force => exact hs.owned.eased (Eases.stop driver force s)
  | fire timer => exact (fireTimer_inOrder driver timer s hs).owned
  | pass millis timeOfDay => exact hs.owned
  | change f => exact hs.owned

theorem performAll_inOrder (h : Fresh s) (ops : List (Operation σ)) :
    InOrder (performAll driver s ops) := by
  refine performAll_keeps (fun s op hs => ?_) s ops ⟨performAll_intact driver h [], owned_of_fresh h⟩
  -- both at once: a probe is armed for the name a device bears, an intact registry finds it there
  exact ⟨(perform_amends driver s op).intact hs.intact, perform_owned driver hs op⟩

end FieldGateway.Service
