import FieldGateway.Driver.Simulated
import FieldGateway.Proofs.Registry.Owned
import FieldGateway.Proofs.Sampling.Ticks

/-
  Operations that are refused change nothing. What adding, changing and removing a device puts on
  record beyond its sampling and its probe is what it `Heralds`: an announcement, if the device
  comes or goes, and the notice to the driver. An operation is `Atomic` if it leaves all as it was
  when it is refused, and heralds what it should when it is not. Removing a device stops the
  samplers and the probe of a name before it looks whether a device has it; that is atomic because
  a name that no device has is not busy (`idle_of_unknown`).
-/

namespace FieldGateway

/-- That a device came, changed or went, as announced or as the driver is told. -/
def Effect.isLifecycle : Effect → Bool
  | .announced _ (.deviceAdded ..) | .announced _ (.deviceRemoved ..) => true
  | .driver (.added _) | .driver (.updated _) | .driver (.removed _) => true
  | _ => false

namespace Service

open FieldGateway.Action

variable {σ : Type} {s t u : Service σ}

/-- What was put on record of devices that came, changed or went. -/
def Tick.lifecycle (x : Tick σ) : List Effect := x.noted.filter (·.isLifecycle)

/-- An operation that changes nothing if it is refused, and else puts this on record of devices
that came, changed or went. -/
structure Atomic {α : Type} (a : Action σ (Except DeviceError α)) (told : α → List Effect)
    (s : Service σ) : Prop where
  refused {e : DeviceError} : a.result s = .error e → a.after s = s
  done {x : α} : a.result s = .ok x → Tick.lifecycle ⟨s, a.after s⟩ = told x

/-- This is put on record of devices that came, changed or went. -/
def Heralds (told : List Effect) (s t : Service σ) : Prop :=
  ∃ new, t.site.trace = new ++ s.site.trace ∧
    (new.reverse.map (·.2)).filter (·.isLifecycle) = told

/-- No device came, changed or went. -/
abbrev Stationary : Service σ → Service σ → Prop := Noting (·.isLifecycle = false)

namespace Heralds

variable {told : List Effect}

theorem lifecycle (h : Heralds told s t) : Tick.lifecycle ⟨s, t⟩ = told := by
  obtain ⟨new, ht, hnew⟩ := h
  rw [Tick.lifecycle, Tick.noted_eq ht, hnew]

theorem of_stationary (h : Stationary s t) : Heralds [] s t := by
  obtain ⟨new, ht, hnew⟩ := h
  refine ⟨new, ht, List.filter_eq_nil_iff.2 fun e he => ?_⟩
  obtain ⟨x, hx, rfl⟩ := List.mem_map.1 he
  rw [hnew x (List.mem_reverse.1 hx)]
  exact Bool.false_ne_true

theorem trans {told' : List Effect} (h : Heralds told s t) (h' : Heralds told' t u) :
    Heralds (told ++ told') s u := by
  obtain ⟨new, ht, rfl⟩ := h
  obtain ⟨newer, hu, rfl⟩ := h'
  refine ⟨newer ++ new, by rw [hu, ht, List.append_assoc], ?_⟩
  rw [List.reverse_append, List.map_append, List.filter_append]

theorem after (h : Heralds told s t) (h' : Stationary t u) : Heralds told s u := by
  have := h.trans (of_stationary h')
  rwa [List.append_nil] at this

theorem before (h : Stationary s t) (h' : Heralds told t u) : Heralds told s u :=
  (of_stationary h).trans h'

end Heralds

/-- It comes to one of two things. -/
theorem Atomic.of_cases {α : Type} {a : Action σ (Except DeviceError α)} {told : α → List Effect}
    (h : (∃ e, a.result s = .error e ∧ a.after s = s) ∨
      ∃ x, a.result s = .ok x ∧ Heralds (told x) s (a.after s)) : Atomic a told s := by
  rcases h with ⟨e, refused, same⟩ | ⟨x, done, heralds⟩
  · exact ⟨fun _ => same, fun h => by cases refused.symm.trans h⟩
  · refine ⟨fun h => (by cases done.symm.trans h), fun h => ?_⟩
    cases done.symm.trans h
    exact heralds.lifecycle

/-! ## Where no device comes or goes -/

namespace Stationary

theorem setTimer (rhythm : Timer.Rhythm) (task : Task) :
    Within Stationary (setTimer (σ := σ) rhythm task) := fun _ => .of_eq rfl

theorem retireTimer (number : Nat) : Within Stationary (retireTimer (σ := σ) number) :=
  fun _ => .of_eq rfl

theorem cancelProbe (name : String) : Within Stationary (cancelProbe (σ := σ) name) :=
  cancelProbe_within name (fun _ => .of_eq rfl) retireTimer

theorem reporting (d : Device) : Reporting d (Stationary (σ := σ)) where
  enter _ _ := .one rfl rfl
  sayUp _ := .one rfl rfl
  sayDown _ _ := .one rfl rfl
  report _ := report_within fun _ => .one rfl rfl
  arm := armProbe_within d.name (fun _ => setTimer _ _) fun _ _ => .of_eq rfl
  cancel := cancelProbe d.name

variable (driver : Driver σ)

theorem index (r : Registration) : Within Stationary (onSite (Site.index driver r)) :=
  index_noting driver r fun _ => rfl

theorem scheduling : Scheduling driver (Stationary (σ := σ)) where
  take _ _ := .of_eq rfl
  stop number := stopSampler_within number (fun _ => .of_eq rfl) retireTimer
    fun _ _ _ => .one rfl rfl
  add _ _ _ _ := .of_eq rfl
  launched d c number := launched_within d c number fun r =>
    launch_within d c number r (setTimer _ _) (fun _ _ => .one rfl rfl) fun _ _ => .of_eq rfl
  hold _ _ _ := .of_eq rfl

theorem stopAutoEvents (device : String) : Within Stationary (stopAutoEvents driver device) :=
  (scheduling driver).stopAutoEvents device

theorem sampleRegistered (registered : Except DeviceError Device) :
    Within Stationary (sampleRegistered driver registered) :=
  sampleRegistered_within ((scheduling driver).startAutoEvents (index driver)) registered

end Stationary

/-- The time of day is the same. -/
def SameTime (s t : Service σ) : Prop := t.site.timeOfDay = s.site.timeOfDay

namespace SameTime

instance : Std.Refl (SameTime (σ := σ)) := ⟨fun _ => rfl⟩

instance : IsTrans (Service σ) SameTime := ⟨fun _ _ _ h h' => h'.trans h⟩

theorem seconds (h : SameTime s t) : t.site.seconds = s.site.seconds := by
  rw [Site.seconds, h]
  rfl

theorem retireTimer (number : Nat) : Within SameTime (retireTimer (σ := σ) number) := fun _ => rfl

theorem cancelProbe (name : String) : Within SameTime (cancelProbe (σ := σ) name) :=
  cancelProbe_within name (fun _ => rfl) retireTimer

theorem stopAutoEvents (driver : Driver σ) (device : String) :
    Within SameTime (stopAutoEvents driver device) :=
  stopAutoEvents_within (fun _ => rfl) fun number =>
    stopSampler_within number (fun _ => rfl) retireTimer fun _ _ _ => rfl

end SameTime

/-! ## Profiles, and the states of devices -/

theorem addProfile_atomic (p : Profile) (s : Service σ) : Atomic (addProfile p) (fun _ => []) s := by
  apply Atomic.of_cases
  unfold addProfile
  rw [result_get_bind, after_get_bind]
  dsimp only
  cases s.site.registry.addProfile s.site.indexes.next p with
  | error e => exact .inl ⟨e, rfl, rfl⟩
  | ok registry => exact .inr ⟨_, rfl, .of_stationary (.of_eq rfl)⟩

theorem removeProfile_atomic (name : String) (s : Service σ) :
    Atomic (removeProfile name) (fun _ => []) s := by
  apply Atomic.of_cases
  unfold removeProfile
  rw [result_get_bind, after_get_bind]
  cases s.site.registry.removeProfile name with
  | error e => exact .inl ⟨e, rfl, rfl⟩
  | ok registry => exact .inr ⟨(), rfl, .of_stationary (.of_eq rfl)⟩

theorem withDevice_atomic {step : Device → Action σ Unit} (h : ∀ d, Within Stationary (step d))
    (name : String) (s : Service σ) : Atomic (withDevice name step) (fun _ => []) s := by
  apply Atomic.of_cases
  unfold withDevice
  rw [result_get_bind, after_get_bind]
  cases s.device? name with
  | none => exact .inl ⟨_, rfl, rfl⟩
  | some d => exact .inr ⟨(), rfl, .of_stationary (h d s)⟩

/-! ## Devices -/

variable (driver : Driver σ)

theorem result_sampleRegistered (registered : Except DeviceError Device) (s : Service σ) :
    (sampleRegistered driver registered).result s = registered := by
  cases registered with
  | error e => rfl
  | ok d =>
    unfold sampleRegistered
    rw [result_get_bind]
    split <;> rfl

/-- Sampling a device that was put on record is no step of its own. -/
theorem sampled_atomic {a : Action σ (Except DeviceError Device)} {told : Device → List Effect}
    (h : (∃ e, a.result s = .error e ∧ a.after s = s) ∨
      ∃ d, a.result s = .ok d ∧ Heralds (told d) s (a.after s)) :
    Atomic (a >>= sampleRegistered driver) told s := by
  apply Atomic.of_cases
  rw [result_bind, after_bind, result_sampleRegistered]
  rcases h with ⟨e, refused, same⟩ | ⟨d, done, heralds⟩
  · rw [refused, same]
    exact .inl ⟨e, rfl, rfl⟩
  · exact .inr ⟨d, done, heralds.after (Stationary.sampleRegistered driver _ _)⟩

theorem addDevice_atomic (config : DeviceConfig) (s : Service σ) :
    Atomic (addDevice driver config) (fun d => [.announced s.controller.config.serviceName
      (.deviceAdded d.name d.profile.name s.site.seconds), .driver (.added d)]) s := by
  refine sampled_atomic driver ?_
  rcases insertDevice_cases driver config s with refused | ⟨d, done, -, -, -, trace⟩
  · exact .inl refused
  · exact .inr ⟨d, done, [_, _], trace, rfl⟩

theorem updateDevice_atomic (config : DeviceConfig) (s : Service σ) :
    Atomic (updateDevice driver config) (fun d => [.driver (.updated d)]) s := by
  refine sampled_atomic driver ?_
  rcases replaceDevice_cases driver config s with refused | ⟨d, old, done, -, -, -, trace⟩
  · exact .inl refused
  · exact .inr ⟨d, done, [_], trace, rfl⟩

/-- Stopping samplers where there are none does nothing. -/
theorem stopAutoEvents_of_unsampled {name : String}
    (h : s.controller.sampling.find? name = none) : (stopAutoEvents driver name).after s = s := by
  have none : s.samplersOf name = [] := by rw [samplersOf, h]; rfl
  have taken : (takeSamplers name).after s = s := by
    show { s with controller := { s.controller with sampling := s.controller.sampling.erase name } }
      = s
    rw [Dict.erase_of_find?_eq_none h]
  unfold stopAutoEvents
  rw [after_bind, taken]
  show Action.after (List.forM (s.samplersOf name) (stopSampler driver)) s = s
  rw [none]
  rfl

theorem cancelProbe_of_unprobed {name : String} (h : s.controller.probes.find? name = none) :
    (cancelProbe name).after s = s := by
  unfold cancelProbe
  rw [after_get_bind, h]
  rfl

/-- Of a name that is not busy, there is nothing to stop. -/
theorem cleared_of_idle {name : String} (idle : ¬ s.Busy name) : cleared driver name s = s := by
  rw [Busy, not_or, Option.not_isSome_iff_eq_none, Option.not_isSome_iff_eq_none] at idle
  rw [cleared, stopAutoEvents_of_unsampled driver idle.1, cancelProbe_of_unprobed idle.2]

/-- A name that no device has is not busy. -/
theorem idle_of_unknown {name : String} (hs : Owned s) (unknown : s.device? name = none) :
    ¬ s.Busy name := fun busy => by
  have registered := hs name busy
  rw [unknown] at registered
  cases registered

theorem removeDevice_atomic (name : String) (hs : Owned s) :
    Atomic (removeDevice driver name) (fun _ => [.announced s.controller.config.serviceName
      (.deviceRemoved name s.site.seconds), .driver (.removed name)]) s := by
  apply Atomic.of_cases
  rw [result_removeDevice, after_removeDevice]
  have eases : Eases s (cleared driver name s) := cleared_eases driver name s
  have still : Still s (cleared driver name s) :=
    (Still.stopAutoEvents driver name s).trans (Still.cancelProbe name _)
  have stationary : Stationary s (cleared driver name s) :=
    (Stationary.stopAutoEvents driver name s).trans (Stationary.cancelProbe name _)
  have time : SameTime s (cleared driver name s) :=
    (SameTime.cancelProbe name _).trans (SameTime.stopAutoEvents driver name s)
  rcases dropDevice_cases driver name (cleared driver name s) with
    ⟨unknown, ⟨e, refused⟩, same⟩ | ⟨done, -, -, -, trace⟩
  · -- the registry refuses only now, when the name was cleared; but there was nothing to clear
    rw [eases.device?] at unknown
    rw [cleared_of_idle driver (idle_of_unknown hs unknown)] at refused same ⊢
    exact .inl ⟨e, refused, same⟩
  · have dropped : Heralds _ (cleared driver name s) _ := ⟨[_, _], trace, rfl⟩
    rw [still.config, time.seconds] at dropped
    exact .inr ⟨(), done, .before stationary dropped⟩

/-! ## Runs -/

/-- Whatever a run came to, managing profiles, devices and their states is atomic: what is refused
leaves everything as it was. Else a device that is added is announced and made known to the driver
once, as is one that is removed; of a change only the driver is told; and nothing else puts on
record that a device came, changed or went. -/
theorem management_atomic {s₀ : Service σ} (h₀ : Fresh s₀) (ops : List (Operation σ)) :
    let s := performAll driver s₀ ops
    let announced := Effect.announced s.controller.config.serviceName
    (∀ p, Atomic (addProfile p) (fun _ => []) s) ∧
    (∀ name, Atomic (removeProfile name) (fun _ => []) s) ∧
    (∀ config, Atomic (addDevice driver config) (fun d =>
      [announced (.deviceAdded d.name d.profile.name s.site.seconds), .driver (.added d)]) s) ∧
    (∀ config, Atomic (updateDevice driver config) (fun d => [.driver (.updated d)]) s) ∧
    (∀ name, Atomic (removeDevice driver name) (fun _ =>
      [announced (.deviceRemoved name s.site.seconds), .driver (.removed name)]) s) ∧
    (∀ name state, Atomic (setAdminState name state) (fun _ => []) s) ∧
    (∀ name, Atomic (noteSuccess name) (fun _ => []) s) ∧
    ∀ name reason, Atomic (noteFailure name reason) (fun _ => []) s := by
  intro s announced
  have owned : Owned s := (performAll_inOrder driver h₀ ops).owned
  refine ⟨fun p => ?profile, fun name => ?unprofile, fun config => ?add, fun config => ?update,
    fun name => ?remove, fun name state => ?admin, fun name => ?success, fun name reason => ?failure⟩
  case profile => exact addProfile_atomic p s
  case unprofile => exact removeProfile_atomic name s
  case add => exact addDevice_atomic driver config s
  case update => exact updateDevice_atomic driver config s
  case remove => exact removeDevice_atomic driver name owned
  case admin => exact withDevice_atomic (fun _ _ => .of_eq rfl) name s
  case success => exact withDevice_atomic (fun d => (Stationary.reporting d).success) name s
  case failure => exact withDevice_atomic (fun d => (Stationary.reporting d).failure reason) name s

/-- A device that is sampled goes with an announcement; removing what is not there, and adding the
device again, change nothing. -/
theorem management_atomic_pump :
    let driver := Simulation.driver false
    let s₀ := ofConfig {} 0 {}
    let p1 : DeviceConfig := { name := "p1", profileName := "pump",
                               autoEvents := [{ source := "on", interval := "10s" }] }
    let ops : List (Operation Simulation) :=
      [.addProfile { name := "pump",
                     resources := [{ name := "on", properties := { type := .scalar .bool } }] },
        .addDevice p1, .start]
    let s := performAll driver s₀ ops
    Fresh s₀ ∧ s.samplersOf "p1" = [0] ∧ (removeDevice driver "p2").after s = s ∧
      (addDevice driver p1).after s = s ∧
      Tick.lifecycle ⟨s, (removeDevice driver "p1").after s⟩ =
        [.announced s.controller.config.serviceName (.deviceRemoved "p1" s.site.seconds),
          .driver (.removed "p1")] := by
  intro driver s₀ p1 ops
  have fresh : Fresh s₀ := ofConfig_fresh _ 0 _
  obtain ⟨-, -, add, -, remove, -⟩ := management_atomic driver fresh ops
  have absent : (removeDevice driver "p2").result (performAll driver s₀ ops) =
      .error (.noDevice "p2") := by decide +kernel
  have present : ((addDevice driver p1).result (performAll driver s₀ ops)).isOk = false := by
    decide +kernel
  have removed : (removeDevice driver "p1").result (performAll driver s₀ ops) = .ok () := by
    decide +kernel
  refine ⟨fresh, by decide +kernel, (remove "p2").refused absent, ?_, (remove "p1").done removed⟩
  cases hr : (addDevice driver p1).result (performAll driver s₀ ops) with
  | error e => exact (add p1).refused hr
  | ok d => rw [hr] at present; cases present

end Service

end FieldGateway
