import FieldGateway.Driver.Simulated
import FieldGateway.Proofs.Probing.Turn
import FieldGateway.Proofs.Service.Idle

/-
  The integrity of the registry. A `Change` is what an operation does to it that is not refused;
  a registry that is `Intact` stays so (`Change.intact`), and a profile that a device follows stays
  under its name (`Change.followed`). Every other operation leaves the registry as it is
  (`perform_amends`), so it is intact in every run (`registry_intact`).
-/

namespace FieldGateway

namespace Registry

/-- Names lead to what has that name, profiles have no flaw, and what a device follows is the
profile that is registered. -/
structure Intact (r : Registry) : Prop where
  profileNames {name : String} {p : Registration} : r.profile? name = some p →
    p.profile.name = name
  deviceNames {name : String} {d : Device} : r.device? name = some d → d.name = name
  sound {name : String} {p : Registration} : r.profile? name = some p → p.profile.flaw? = none
  followed {name : String} {d : Device} : r.device? name = some d →
    r.profile? d.profile.name = some d.registration

/-- A change that was not refused. A device that is put on record follows a profile that was
looked up. -/
inductive Change (r r' : Registry) : Prop
  | addProfile {serial : Nat} {p : Profile} (h : r.addProfile serial p = .ok r')
  | removeProfile {name : String} (h : r.removeProfile name = .ok r')
  | insertDevice {d : Device} {name : String} (profile : r.profile? name = some d.registration)
      (h : r.insertDevice d = .ok r')
  | replaceDevice {d : Device} {name : String} (profile : r.profile? name = some d.registration)
      (h : r.replaceDevice d = .ok r')
  | removeDevice {name : String} (h : r.removeDevice name = .ok r')

variable {r r' : Registry}

theorem intact_empty : Intact {} :=
  ⟨nofun, nofun, nofun, nofun⟩

namespace Change

/-- A profile that is new has no flaw and is registered under its name. -/
theorem profile? (h : Change r r') {name : String} {p : Registration}
    (hp : r'.profile? name = some p) :
    r.profile? name = some p ∨ p.profile.name = name ∧ p.profile.flaw? = none := by
  unfold Registry.profile? at hp
  cases h with
  | addProfile h =>
    rw [addProfile_profiles h, Dict.find?_insert] at hp
    split at hp
    · cases hp
      exact .inr ⟨‹_›, addProfile_sound h⟩
    · exact .inl hp
  | removeProfile h =>
    rw [removeProfile_profiles h, Dict.find?_erase] at hp
    split at hp
    · cases hp
    · exact .inl hp
  | insertDevice _ h =>
    rw [insertDevice_profiles h] at hp
    exact .inl hp
  | replaceDevice _ h =>
    rw [replaceDevice_profiles h] at hp
    exact .inl hp
  | removeDevice h =>
    rw [removeDevice_profiles h] at hp
    exact .inl hp

/-- A device that is new is registered under its name and follows a profile on record. -/
theorem device? (h : Change r r') {name : String} {d : Device} (hd : r'.device? name = some d) :
    r.device? name = some d ∨ d.name = name ∧ r'.profiles = r.profiles ∧
      ∃ p, r.profile? p = some d.registration := by
  unfold Registry.device? at hd
  -- what an insertion puts on record stands under its name
  have inserted {e : Device} {p : String} (profile : r.profile? p = some e.registration)
      (profiles : r'.profiles = r.profiles) (devices : r'.devices = r.devices.insert e.name e) :
      r.device? name = some d ∨ d.name = name ∧ r'.profiles = r.profiles ∧
        ∃ p, r.profile? p = some d.registration := by
    rw [devices, Dict.find?_insert] at hd
    split at hd
    · cases hd
      exact .inr ⟨‹_›, profiles, p, profile⟩
    · exact .inl hd
  cases h with
  | addProfile h =>
    rw [addProfile_devices h] at hd
    exact .inl hd
  | removeProfile h =>
    rw [removeProfile_devices h] at hd
    exact .inl hd
  | insertDevice profile h =>
    exact inserted profile (insertDevice_profiles h) (insertDevice_ok h).2
  | replaceDevice profile h =>
    exact inserted profile (replaceDevice_profiles h) (replaceDevice_ok h)
  | removeDevice h =>
    rw [removeDevice_ok h, Dict.find?_erase] at hd
    split at hd
    · cases hd
    · exact .inl hd

/-- A profile that a device follows stays. -/
theorem followed (h : Change r r') (hr : r.Intact) {name : String} {d : Device}
    (hd : r.device? name = some d) : r'.profile? d.profile.name = some d.registration := by
  have registered := hr.followed hd
  unfold Registry.profile? at registered ⊢
  cases h with
  | @addProfile _ p h =>
    rw [addProfile_profiles h, Dict.find?_insert, if_neg, registered]
    intro same
    have free := addProfile_free h
    rw [same, Registry.profile?, registered] at free
    cases free
  | @removeProfile n h =>
    rw [removeProfile_profiles h, Dict.find?_erase, if_neg, registered]
    intro same
    have used := (inUse_iff r n).2 ⟨name, d, hd, same.symm⟩
    rw [removeProfile_unused h] at used
    cases used
  | insertDevice _ h => rw [insertDevice_profiles h, registered]
  | replaceDevice _ h => rw [replaceDevice_profiles h, registered]
  | removeDevice h => rw [removeDevice_profiles h, registered]

theorem intact (h : Change r r') (hr : r.Intact) : r'.Intact where
  profileNames hp := (h.profile? hp).elim hr.profileNames And.left
  deviceNames hd := (h.device? hd).elim hr.deviceNames And.left
  sound hp := (h.profile? hp).elim hr.sound And.right
  followed {name d} hd := by
    rcases h.device? hd with old | ⟨-, profiles, p, profile⟩
    · exact h.followed hr old
    · have named : d.profile.name = p := hr.profileNames profile
      rw [Registry.profile?, profiles, named]
      exact profile

end Change

end Registry

namespace Service

open FieldGateway.Action

variable {σ : Type} {s t : Service σ}

/-! ## What leaves the registry as it is -/

def SameRegistry (s t : Service σ) : Prop := t.site.registry = s.site.registry

namespace SameRegistry

instance : Std.Refl (SameRegistry (σ := σ)) := ⟨fun _ => rfl⟩

instance : IsTrans (Service σ) SameRegistry := ⟨fun _ _ _ h h' => h'.trans h⟩

theorem of_still {α : Type} {a : Action σ α} (h : Within Still a) : Within SameRegistry a :=
  fun s => (h s).registry

variable (driver : Driver σ)

theorem index (r : Registration) : Within SameRegistry (onSite (Site.index driver r)) :=
  fun s => Site.registry_index driver r s.site

theorem publish (e : CookedEvent) : Within SameRegistry (publish (σ := σ) e) :=
  publish_within e (fun _ _ => rfl) (fun _ => rfl) fun _ => rfl

variable {driver} in
theorem workStep {d : Device} (h : WorkStep driver d s t) : SameRegistry s t := by
  cases h with
  | index => exact index driver d.registration s
  | address => exact of_still (Still.makeAddress driver d) s
  | read | countRead => rfl
  | write a requests values => exact of_still (Still.write driver d a requests values) s
  | success => exact of_still (Still.reportSuccess d) s
  | failure reason => exact of_still (Still.reportFailure d reason) s
  | violation reason => exact of_still (Still.forceDown d reason) s
  | touch => exact of_still (Still.touch d) s
  | cook c results => exact of_still (Still.cook d c results) s
  | publish e => exact publish e s
  | remember number results => exact of_still (Still.changeSampler number _) s

variable {driver} in
theorem workOn {name : String} (h : WorkOn driver name s t) : SameRegistry s t := by
  rcases h with rfl | ⟨d, -, work⟩
  · rfl
  · exact work.keeps (fun step hs => (workStep step).trans hs) rfl

theorem run (task : Task) : Within SameRegistry (run driver task) :=
  run_within driver workOn (fun name => of_still (Still.forgetProbe name))
    (of_still Still.announceCounters) task

theorem startAutoEvents (device : String) : Within SameRegistry (startAutoEvents driver device) :=
  ((Still.scheduling driver).mono of_still).startAutoEvents (index driver) device

theorem sampleRegistered (registered : Except DeviceError Device) :
    Within SameRegistry (sampleRegistered driver registered) :=
  sampleRegistered_within (startAutoEvents driver) registered

theorem start : Within SameRegistry (start driver) :=
  start_within (fun _ => rfl) (startAutoEvents driver) (of_still Still.startCounters) fun _ => rfl

end SameRegistry

/-! ## Operations -/

/-- The registry is as it was, or it changed in one of the ways it may. -/
def Amends (s t : Service σ) : Prop :=
  SameRegistry s t ∨ Registry.Change s.site.registry t.site.registry

namespace Amends

variable {u : Service σ}

theorem after (h : Amends s t) (same : SameRegistry t u) : Amends s u := by
  unfold Amends SameRegistry at *
  rwa [same]

theorem before (same : SameRegistry s t) (h : Amends t u) : Amends s u := by
  unfold Amends SameRegistry at *
  rwa [← same]

end Amends

variable (driver : Driver σ)

theorem insertDevice_amends (config : DeviceConfig) (s : Service σ) :
    Amends s ((insertDevice driver config).after s) := by
  unfold insertDevice
  rw [after_get_bind, after_ite]
  split
  · exact .inl rfl
  · cases hi : incarnation driver s config with
    | error e => exact .inl rfl
    | ok d =>
      dsimp only
      cases hr : s.site.registry.insertDevice d with
      | error e => exact .inl rfl
      | ok registry => exact .inr (.insertDevice (incarnation_profile driver hi) hr)

theorem replaceDevice_amends (config : DeviceConfig) (s : Service σ) :
    Amends s ((replaceDevice driver config).after s) := by
  unfold replaceDevice
  rw [after_get_bind]
  cases s.device? config.name with
  | none => exact .inl rfl
  | some old =>
    dsimp only
    cases hi : incarnation driver s config with
    | error e => exact .inl rfl
    | ok d =>
      dsimp only
      cases hr : s.site.registry.replaceDevice d with
      | error e => exact .inl rfl
      | ok registry => exact .inr (.replaceDevice (incarnation_profile driver hi) hr)

theorem dropDevice_amends (name : String) (s : Service σ) :
    Amends s ((dropDevice driver name).after s) := by
  unfold dropDevice
  rw [after_get_bind]
  cases hr : s.site.registry.removeDevice name with
  | error e => exact .inl rfl
  | ok registry => exact .inr (.removeDevice hr)

theorem addProfile_amends (p : Profile) (s : Service σ) : Amends s ((addProfile p).after s) := by
  unfold addProfile
  rw [after_get_bind]
  dsimp only
  cases hr : s.site.registry.addProfile s.site.indexes.next p with
  | error e => exact .inl rfl
  | ok registry => exact .inr (.addProfile hr)

theorem removeProfile_amends (name : String) (s : Service σ) :
    Amends s ((removeProfile name).after s) := by
  unfold removeProfile
  rw [after_get_bind]
  cases hr : s.site.registry.removeProfile name with
  | error e => exact .inl rfl
  | ok registry => exact .inr (.removeProfile hr)

/-- The registry changes with profiles and devices that are added, changed and removed, and else
never. -/
theorem perform_amends (s : Service σ) (op : Operation σ) : Amends s (perform driver s op) := by
  cases op with
  | addProfile p => exact addProfile_amends p s
  | removeProfile name => exact removeProfile_amends name s
  | addDevice config =>
    exact (insertDevice_amends driver config s).after (SameRegistry.sampleRegistered driver _ _)
  | updateDevice config =>
    exact (replaceDevice_amends driver config s).after (SameRegistry.sampleRegistered driver _ _)
  | removeDevice name =>
    have stopped := (Still.stopAutoEvents driver name s).trans (Still.cancelProbe name _)
    exact .before stopped.registry (dropDevice_amends driver name _)
  | setAdminState name state => exact .inl (Still.setAdminState name state s).registry
  | setServiceAdminState state => exact .inl rfl
  | deviceCommand | execute | postReadings | noteSuccess | noteFailure =>
    exact .inl (SameRegistry.workOn (perform_chores driver rfl s).workOn)
  | startAutoEvents name => exact .inl (SameRegistry.startAutoEvents driver name s)
  | stopAutoEvents name => exact .inl (Still.stopAutoEvents driver name s).registry
  | start => exact .inl (SameRegistry.start driver s)
  | stop force => exact .inl (Still.stop driver force s).registry
  | fire timer =>
    exact .inl (fireTimer_of_still SameRegistry.of_still fun task _ => SameRegistry.run driver task)
  | pass millis timeOfDay => exact .inl rfl
  | change f => exact .inl rfl

/-! ## Runs -/

variable {driver} in
theorem Amends.intact (h : Amends s t) (hs : s.site.registry.Intact) : t.site.registry.Intact := by
  rcases h with same | change
  · exact same ▸ hs
  · exact change.intact hs

variable {driver} in
theorem Amends.followed (h : Amends s t) (hs : s.site.registry.Intact) {name : String} {d : Device}
    (hd : s.device? name = some d) :
    t.site.registry.profile? d.profile.name = some d.registration := by
  rcases h with same | change
  · rw [same]
    exact hs.followed hd
  · exact change.followed hs hd

theorem performAll_intact (h : Fresh s) (ops : List (Operation σ)) :
    (performAll driver s ops).site.registry.Intact := by
  refine performAll_keeps (P := fun s => s.site.registry.Intact)
    (fun s op => (perform_amends driver s op).intact) s ops ?_
  rw [h.registry]
  exact Registry.intact_empty

/-- A profile that no device follows can be removed, and nothing else goes with it. -/
theorem removeProfile_of_unused {name : String} {p : Registration}
    (registered : s.site.registry.profile? name = some p)
    (unused : s.site.registry.inUse name = false) :
    (removeProfile name).result s = .ok () ∧ ((removeProfile name).after s).site.registry =
      { s.site.registry with profiles := s.site.registry.profiles.erase name } := by
  have known : s.site.registry.profiles.contains name = true := by
    rw [Dict.contains, show s.site.registry.profiles.find? name = _ from registered]
    rfl
  have removed : s.site.registry.removeProfile name =
      .ok { s.site.registry with profiles := s.site.registry.profiles.erase name } := by
    rw [Registry.removeProfile, unused, if_neg Bool.false_ne_true, known, if_pos rfl]
  unfold removeProfile
  rw [result_get_bind, after_get_bind, removed]
  exact ⟨rfl, rfl⟩

theorem removeProfile_of_used {name : String} (used : s.site.registry.inUse name = true) :
    (removeProfile name).result s = .error (.profileInUse name) ∧
      (removeProfile name).after s = s := by
  have refused : s.site.registry.removeProfile name = .error (.profileInUse name) := by
    rw [Registry.removeProfile, used, if_pos rfl]
  unfold removeProfile
  rw [result_get_bind, after_get_bind, refused]
  exact ⟨rfl, rfl⟩

/-- At every point of a run, every profile and every device is registered under its name, profiles
have no flaw, and what a device follows is the very registration under the name of its profile. So
no operation removes or replaces a profile that a device follows, and removing it is refused; a
profile that no device follows can be removed. -/
theorem registry_intact {s₀ : Service σ} (h₀ : Fresh s₀) (ops : List (Operation σ)) :
    let s := performAll driver s₀ ops
    s.site.registry.Intact ∧
    (∀ name d, s.device? name = some d →
      (∀ op, (perform driver s op).site.registry.profile? d.profile.name = some d.registration) ∧
      (removeProfile d.profile.name).result s = .error (.profileInUse d.profile.name) ∧
      (removeProfile d.profile.name).after s = s) ∧
    ∀ name p, s.site.registry.profile? name = some p →
      (∀ n d, s.device? n = some d → d.profile.name ≠ name) →
      (removeProfile name).result s = .ok () ∧ ((removeProfile name).after s).site.registry =
        { s.site.registry with profiles := s.site.registry.profiles.erase name } := by
  intro s
  have intact : s.site.registry.Intact := performAll_intact driver h₀ ops
  refine ⟨intact, fun name d hd => ⟨fun op => ?_, ?_⟩, fun name p hp free => ?_⟩
  · exact (perform_amends driver s op).followed intact hd
  · exact removeProfile_of_used ((Registry.inUse_iff _ _).2 ⟨name, d, hd, rfl⟩)
  · refine removeProfile_of_unused hp (Bool.of_not_eq_true fun used => ?_)
    obtain ⟨n, d, hd, follows⟩ := (Registry.inUse_iff _ _).1 used
    exact free n d hd follows

/-- A device moves to another profile: the new one cannot be removed then, the old one can. -/
theorem registry_intact_after_move :
    let driver := Simulation.driver false
    let s₀ := ofConfig {} 0 {}
    let resources : List Resource := [{ name := "on", properties := { type := .scalar .bool } }]
    let ops : List (Operation Simulation) :=
      [.addProfile { name := "pump", resources }, .addProfile { name := "valve", resources },
        .addDevice { name := "p1", profileName := "pump" }, .removeProfile "pump",
        .updateDevice { name := "p1", profileName := "valve" }]
    let s := performAll driver s₀ ops
    Fresh s₀ ∧ s.site.registry.Intact ∧
      (removeProfile "valve").result s = .error (.profileInUse "valve") ∧
      (removeProfile "pump").result s = .ok () := by
  intro driver s₀ resources ops
  have fresh : Fresh s₀ := ofConfig_fresh _ 0 _
  obtain ⟨intact, followed, unused⟩ := registry_intact driver fresh ops
  obtain ⟨d, hd⟩ := Option.isSome_iff_exists.1
    (by decide +kernel : ((performAll driver s₀ ops).device? "p1").isSome = true)
  obtain ⟨p, hp⟩ := Option.isSome_iff_exists.1
    (by decide +kernel :
      ((performAll driver s₀ ops).site.registry.profile? "pump").isSome = true)
  have moved : ((performAll driver s₀ ops).device? "p1").all (·.profile.name == "valve") = true := by
    decide +kernel
  rw [hd, Option.all_some, beq_iff_eq] at moved
  have left : (performAll driver s₀ ops).site.registry.inUse "pump" = false := by decide +kernel
  obtain ⟨-, refused, -⟩ := followed "p1" d hd
  rw [moved] at refused
  refine ⟨fresh, intact, refused, (unused "pump" p hp fun n d hd follows => ?_).1⟩
  rw [(Registry.inUse_iff _ "pump").2 ⟨n, d, hd, follows⟩] at left
  cases left

end Service

end FieldGateway
