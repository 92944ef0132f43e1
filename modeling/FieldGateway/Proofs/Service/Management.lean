import FieldGateway.Proofs.Service.Action
import FieldGateway.Proofs.Site.Registry
import FieldGateway.Service.Management

/-
  What adding, changing and removing a device come to: the step is refused and nothing changed,
  or an incarnation stands in the registry with a condition of its own (`Installed`), or the
  device is gone (`insertDevice_cases`, `replaceDevice_cases`, `dropDevice_cases`). None of the
  three touches the controller, sampling and probing apart.
-/

namespace FieldGateway.Service

open FieldGateway.Action

variable {σ : Type} (driver : Driver σ)

/-- A new incarnation stands under its name, with a condition of its own. -/
structure Installed (d : Device) (c : Condition) (s t : Service σ) : Prop where
  serial : d.serial = s.site.conditions.next
  devices : t.site.registry.devices = s.site.registry.devices.insert d.name d
  conditions : t.site.conditions = s.site.conditions.add c
  controller : t.controller = s.controller

theorem Installed.device? {d : Device} {c : Condition} {s t : Service σ}
    (h : Installed d c s t) (name : String) :
    t.device? name = if d.name = name then some d else s.device? name := by
  rw [Service.device?, Registry.device?, h.devices, Dict.find?_insert]
  rfl

theorem Installed.condition {d : Device} {c : Condition} {s t : Service σ}
    (h : Installed d c s t) (e : Device) :
    t.site.condition e = if e.serial = d.serial then c else s.site.condition e := by
  rw [Site.condition, h.conditions, Numbered.get?_add, h.serial]
  split <;> rfl

theorem incarnation_ok {s : Service σ} {config : DeviceConfig} {d : Device}
    (h : incarnation driver s config = .ok d) :
    d.name = config.name ∧ d.serial = s.site.conditions.next := by
  unfold incarnation at h
  split at h
  · cases h
  · split at h
    · cases h
    · cases h
      exact ⟨rfl, rfl⟩

theorem insertDevice_cases (config : DeviceConfig) (s : Service σ) :
    (∃ e, (insertDevice driver config).result s = .error e ∧
      (insertDevice driver config).after s = s) ∨
    ∃ d, (insertDevice driver config).result s = .ok d ∧ d.name = config.name ∧
      s.device? d.name = none ∧
      Installed d { admin := config.admin, remainingFails := s.controller.config.allowedFails } s
        ((insertDevice driver config).after s) ∧
      ((insertDevice driver config).after s).site.trace =
        (s.site.now, .driver (.added d)) ::
          (s.site.now, .announced s.controller.config.serviceName
            (.deviceAdded d.name d.profile.name s.site.seconds)) :: s.site.trace := by
  unfold insertDevice
  rw [result_get_bind, after_get_bind]
  split
  · exact .inl ⟨_, rfl, rfl⟩
  · cases hi : incarnation driver s config with
    | error e => exact .inl ⟨e, rfl, rfl⟩
    | ok d =>
      dsimp only
      cases hr : s.site.registry.insertDevice d with
      | error e => exact .inl ⟨e, rfl, rfl⟩
      | ok registry =>
        obtain ⟨hname, hserial⟩ := incarnation_ok driver hi
        obtain ⟨hnone, hdevices⟩ := Registry.insertDevice_ok hr
        exact .inr ⟨d, rfl, hname, hnone, ⟨hserial, hdevices, rfl, rfl⟩, rfl⟩

theorem replaceDevice_cases (config : DeviceConfig) (s : Service σ) :
    (∃ e, (replaceDevice driver config).result s = .error e ∧
      (replaceDevice driver config).after s = s) ∨
    ∃ d old, (replaceDevice driver config).result s = .ok d ∧ d.name = config.name ∧
      s.device? d.name = some old ∧
      Installed d { s.site.condition old with admin := config.admin, address := none } s
        ((replaceDevice driver config).after s) ∧
      ((replaceDevice driver config).after s).site.trace =
        (s.site.now, .driver (.updated d)) :: s.site.trace := by
  unfold replaceDevice
  rw [result_get_bind, after_get_bind]
  cases ho : s.device? config.name with
  | none => exact .inl ⟨_, rfl, rfl⟩
  | some old =>
    dsimp only
    cases hi : incarnation driver s config with
    | error e => exact .inl ⟨e, rfl, rfl⟩
    | ok d =>
      dsimp only
      cases hr : s.site.registry.replaceDevice d with
      | error e => exact .inl ⟨e, rfl, rfl⟩
      | ok registry =>
        obtain ⟨hname, hserial⟩ := incarnation_ok driver hi
        exact .inr ⟨d, old, rfl, hname, hname ▸ ho,
          ⟨hserial, Registry.replaceDevice_ok hr, rfl, rfl⟩, rfl⟩

theorem dropDevice_cases (name : String) (s : Service σ) :
    let t := (dropDevice driver name).after s
    (s.device? name = none ∧ (∃ e, (dropDevice driver name).result s = .error e) ∧ t = s) ∨
    (dropDevice driver name).result s = .ok () ∧
      t.site.registry.devices = s.site.registry.devices.erase name ∧
      t.site.conditions = s.site.conditions ∧ t.controller = s.controller ∧
      t.site.trace = (s.site.now, .driver (.removed name)) ::
        (s.site.now, .announced s.controller.config.serviceName
          (.deviceRemoved name s.site.seconds)) :: s.site.trace := by
  unfold dropDevice
  rw [result_get_bind, after_get_bind]
  cases hr : s.site.registry.removeDevice name with
  | error e => exact .inl ⟨Registry.removeDevice_error hr, ⟨e, rfl⟩, rfl⟩
  | ok registry => exact .inr ⟨rfl, Registry.removeDevice_ok hr, rfl, rfl, rfl⟩

end FieldGateway.Service
