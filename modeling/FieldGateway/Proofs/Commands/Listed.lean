import FieldGateway.Proofs.Commands.Index
import FieldGateway.Proofs.Commands.Refusal
import FieldGateway.Proofs.Probing.Turn
import FieldGateway.Proofs.Service.Idle

/-
  What the commands of a device come from. Every profile that is registered or followed by a device
  has no flaw and a serial of its own, and the commands that are kept under the serial are those of
  the profile (`Listed`). So the commands that are found for a device are what its profile comes to
  (`Listed.found`), in every state of every run (`performAll_listed`).
-/

namespace FieldGateway

namespace Service

open FieldGateway.Action

variable {σ : Type} {driver : Driver σ} {s t : Service σ} {r : Registration}

/-! ## The commands of a device -/

theorem commandsOf_of_made? {d : Device} {i : Index} (h : s.made? d.registration = some i) :
    commandsOf driver s d = i := by
  rw [commandsOf, Site.index, show (s.site.indexes.get? d.registration.serial).join = some i from h]

theorem commandsOf_congr (indexes : t.site.indexes = s.site.indexes)
    (state : t.site.driverState = s.site.driverState) (d : Device) :
    commandsOf driver t d = commandsOf driver s d := by
  unfold commandsOf Site.index
  rw [indexes, state]
  cases (s.site.indexes.get? d.registration.serial).join <;> rfl

/-- The commands of the device are these, or will be when it is asked for them. -/
structure Commanded (driver : Driver σ) (d : Device) (i : Index) (s : Service σ) : Prop where
  placed : d.registration.serial < s.site.indexes.next
  commands : commandsOf driver s d = i

/-- The commands of the device were asked for, and are kept. -/
def Kept (d : Device) (i : Index) (s : Service σ) : Prop :=
  d.registration.serial < s.site.indexes.next ∧ s.made? d.registration = some i

theorem Kept.commanded {d : Device} {i : Index} (h : Kept d i s) : Commanded driver d i s :=
  ⟨h.1, commandsOf_of_made? h.2⟩

theorem Commanded.index {d : Device} {i : Index} (h : Commanded driver d i s) :
    Kept d i ((onSite (Site.index driver d.registration)).after s) := by
  refine ⟨?_, ?_⟩
  · rw [after_onSite]
    rcases Site.index_cases driver d.registration s.site with same | ⟨_, same⟩
    · rw [same]
      exact h.placed
    · rw [same]
      exact Nat.lt_of_lt_of_eq h.placed (Numbered.next_modify _ _ _).symm
  · rw [made?_index driver h.placed]
    exact congrArg some h.commands

theorem kept_of_still {α : Type} {a : Action σ α} (h : Within Still a) (d : Device) (i : Index) :
    Keeps (Kept d i) a := fun s hs => by
  unfold Kept made?
  rw [(h s).indexes]
  exact hs

/-! ## Profiles on record -/

/-- A profile that is registered, or that a device follows. -/
def OnRecord (s : Service σ) (r : Registration) : Prop :=
  (∃ name, s.site.registry.profile? name = some r) ∨
    ∃ name d, s.device? name = some d ∧ d.registration = r

/-- The commands that are kept for a profile on record are made from that profile. -/
structure Listed (s : Service σ) : Prop where
  placed {r : Registration} : s.OnRecord r → r.serial < s.site.indexes.next
  sound {r : Registration} : s.OnRecord r → r.profile.flaw? = none
  apart {r r' : Registration} : s.OnRecord r → s.OnRecord r' → r.serial = r'.serial → r = r'
  built {r : Registration} {i : Index} : s.OnRecord r → s.made? r = some i →
    ∃ parse, i = Index.build parse r.profile

/-- Besides, this profile is on record. -/
def ListedWith (r : Registration) (s : Service σ) : Prop := s.Listed ∧ s.OnRecord r

theorem onRecord_of_device {name : String} {d : Device} (h : s.device? name = some d) :
    s.OnRecord d.registration :=
  .inr ⟨name, d, h, rfl⟩

theorem OnRecord.congr (h : t.OnRecord r) (registry : t.site.registry = s.site.registry) :
    s.OnRecord r := by
  unfold OnRecord device? at *
  rw [registry] at h
  exact h

namespace Listed

theorem of_fresh (h : Fresh s) : Listed s := by
  have nothing {r : Registration} (hr : s.OnRecord r) : False := by
    rcases hr with ⟨name, hr⟩ | ⟨name, d, hd, -⟩
    · rw [h.registry] at hr
      cases hr
    · rw [device?, h.registry] at hd
      cases hd
  exact ⟨fun hr => (nothing hr).elim, fun hr => (nothing hr).elim, fun hr => (nothing hr).elim,
    fun hr => (nothing hr).elim⟩

/-- Nothing is kept that was not, for profiles that were on record already. -/
theorem fewer (h : Listed s) (records : ∀ {r}, t.OnRecord r → s.OnRecord r)
    (indexes : t.site.indexes = s.site.indexes) : Listed t where
  placed hr := by
    rw [indexes]
    exact h.placed (records hr)
  sound hr := h.sound (records hr)
  apart hr hr' := h.apart (records hr) (records hr')
  built hr hi := by
    rw [made?, indexes] at hi
    exact h.built (records hr) hi

theorem same (h : Listed s) (registry : t.site.registry = s.site.registry)
    (indexes : t.site.indexes = s.site.indexes) : Listed t :=
  h.fewer (fun hr => hr.congr registry) indexes

variable (driver) in
/-- The commands that are found for a profile are what it comes to. -/
theorem found (h : Listed s) (hr : s.OnRecord r) :
    ∃ parse, (s.site.index driver r).1 = Index.build parse r.profile := by
  unfold Site.index
  cases known : (s.site.indexes.get? r.serial).join with
  | some i => exact h.built hr known
  | none => exact ⟨_, rfl⟩

/-- They are kept from then on. -/
theorem index (h : Listed s) (hr : s.OnRecord r) :
    Listed ((onSite (Site.index driver r)).after s) := by
  have registry : ((onSite (Site.index driver r)).after s).site.registry = s.site.registry :=
    Site.registry_index driver r s.site
  have next : ((onSite (Site.index driver r)).after s).site.indexes.next = s.site.indexes.next := by
    rw [after_onSite]
    rcases Site.index_cases driver r s.site with h | ⟨i, h⟩
    · rw [h]
    · rw [h]
      exact Numbered.next_modify _ _ _
  refine ⟨fun hr' => ?_, fun hr' => h.sound (hr'.congr registry),
    fun hr' hr'' => h.apart (hr'.congr registry) (hr''.congr registry), fun {r' i} hr' hi => ?_⟩
  · rw [next]
    exact h.placed (hr'.congr registry)
  · have before := hr'.congr registry
    -- what is kept for the serial now was kept before, or it is what was made of this profile
    by_cases serial : r'.serial = r.serial
    · obtain rfl := h.apart before hr serial
      rw [made?_index driver (h.placed hr)] at hi
      cases hi
      exact h.found driver hr
    · refine h.built before (i := i) ?_
      rcases Site.index_learns driver r s.site with ⟨-, same⟩ | ⟨-, learned⟩
      · rw [made?, after_onSite, same] at hi
        exact hi
      · rw [made?, after_onSite, learned, Numbered.get?_modify, if_neg (Ne.symm serial)] at hi
        exact hi

theorem placedDevices (h : Listed s) (placed : Placed s t) : Listed t := by
  refine h.fewer (fun {r} hr => ?_) placed.indexes
  rcases hr with ⟨name, hr⟩ | ⟨name, d, hd, rfl⟩
  · rw [Registry.profile?, placed.profiles] at hr
    exact .inl ⟨name, hr⟩
  · rcases placed.devices hd with hd | ⟨p, hp⟩
    · exact .inr ⟨name, d, hd, rfl⟩
    · exact .inl ⟨p, hp⟩

/-- A profile without flaws is added under a serial that no other has. -/
theorem added (h : Listed s) {p : Profile} (sound : p.flaw? = none)
    (records : ∀ {r}, t.OnRecord r → s.OnRecord r ∨ r = ⟨s.site.indexes.next, p⟩)
    (indexes : t.site.indexes = s.site.indexes.add none) : Listed t := by
  have made (r : Registration) : t.made? r =
      if r.serial = s.site.indexes.next then none else s.made? r := by
    rw [made?, indexes, Numbered.get?_add]
    split <;> rfl
  refine ⟨fun {r} hr => ?_, fun {r} hr => ?_, fun {r r'} hr hr' serial => ?_, fun {r i} hr hi => ?_⟩
  · rw [indexes, Numbered.next_add]
    rcases records hr with hr | rfl
    · exact Nat.lt_succ_of_lt (h.placed hr)
    · exact Nat.lt_succ_self _
  · rcases records hr with hr | rfl
    · exact h.sound hr
    · exact sound
  · rcases records hr with hr | rfl <;> rcases records hr' with hr' | rfl
    · exact h.apart hr hr' serial
    · exact absurd serial (Nat.ne_of_lt (h.placed hr))
    · exact absurd serial.symm (Nat.ne_of_lt (h.placed hr'))
    · rfl
  · rw [made] at hi
    rcases records hr with hr | rfl
    · rw [if_neg (Nat.ne_of_lt (h.placed hr))] at hi
      exact h.built hr hi
    · rw [if_pos rfl] at hi
      cases hi

theorem addProfile (p : Profile) : Keeps Listed (addProfile (σ := σ) p) := by
  intro s h
  unfold Service.addProfile
  rw [after_get_bind]
  dsimp only
  cases added : s.site.registry.addProfile s.site.indexes.next p with
  | error e => exact h
  | ok registry =>
    refine h.added (Registry.addProfile_sound added) (fun {r} hr => ?_) rfl
    rcases hr with ⟨name, hr⟩ | ⟨name, d, hd, rfl⟩
    · change registry.profiles.find? name = some r at hr
      rw [Registry.addProfile_profiles added, Dict.find?_insert] at hr
      split at hr
      · cases hr
        exact .inr rfl
      · exact .inl (.inl ⟨name, hr⟩)
    · change registry.devices.find? name = some d at hd
      rw [Registry.addProfile_devices added] at hd
      exact .inl (.inr ⟨name, d, hd, rfl⟩)

theorem removeProfile (name : String) : Keeps Listed (removeProfile (σ := σ) name) := by
  intro s h
  unfold Service.removeProfile
  rw [after_get_bind]
  cases removed : s.site.registry.removeProfile name with
  | error e => exact h
  | ok registry =>
    refine h.fewer (fun {r} hr => ?_) rfl
    rcases hr with ⟨n, hr⟩ | ⟨n, d, hd, rfl⟩
    · change registry.profiles.find? n = some r at hr
      rw [Registry.removeProfile_profiles removed, Dict.find?_erase] at hr
      split at hr
      · cases hr
      · exact .inl ⟨n, hr⟩
    · change registry.devices.find? n = some d at hd
      rw [Registry.removeProfile_devices removed] at hd
      exact .inr ⟨n, d, hd, rfl⟩

end Listed

/-! ## Keeping the list -/

theorem listed_of_still {α : Type} {a : Action σ α} (h : Within Still a) : Keeps Listed a :=
  fun s hs => hs.same (h s).registry (h s).indexes

/-- What leaves registry and commands alone keeps the list with any profile on it. -/
theorem ListedWith.same (h : ListedWith r s) (registry : t.site.registry = s.site.registry)
    (indexes : t.site.indexes = s.site.indexes) : ListedWith r t :=
  ⟨h.1.same registry indexes, h.2.congr registry.symm⟩

theorem listedWith_of_still {α : Type} {a : Action σ α} (h : Within Still a) :
    Keeps (ListedWith r) a :=
  fun s hs => hs.same (h s).registry (h s).indexes

theorem listedWith_index : Keeps (ListedWith r) (onSite (Site.index driver r)) := by
  intro s hs
  exact ⟨hs.1.index hs.2, hs.2.congr (Site.registry_index driver r s.site).symm⟩

theorem listedWith_publish (e : CookedEvent) : Keeps (ListedWith r) (publish (σ := σ) e) :=
  publish_within e (fun _ _ hs => hs.same rfl rfl) (fun _ hs => hs.same rfl rfl)
    fun _ hs => hs.same rfl rfl

theorem workStep_listed {d : Device} (h : WorkStep driver d s t)
    (hs : ListedWith d.registration s) : ListedWith d.registration t := by
  cases h with
  | index => exact listedWith_index s hs
  | address => exact listedWith_of_still (Still.makeAddress driver d) s hs
  | read a requests => exact hs.same rfl rfl
  | write a requests values =>
    exact listedWith_of_still (Still.write driver d a requests values) s hs
  | success => exact listedWith_of_still (Still.reportSuccess d) s hs
  | failure reason => exact listedWith_of_still (Still.reportFailure d reason) s hs
  | violation reason => exact listedWith_of_still (Still.forceDown d reason) s hs
  | countRead => exact hs.same rfl rfl
  | touch => exact listedWith_of_still (Still.touch d) s hs
  | cook c results => exact listedWith_of_still (Still.cook d c results) s hs
  | publish e => exact listedWith_publish e s hs
  | remember number results => exact listedWith_of_still (Still.changeSampler number _) s hs

theorem workOn_listed {name : String} (h : WorkOn driver name s t) (hs : Listed s) : Listed t := by
  rcases h with rfl | ⟨d, hd, work⟩
  · exact hs
  · exact (work.keeps workStep_listed ⟨hs, onRecord_of_device hd⟩).1

variable (driver)

theorem startAutoEvents_listed (device : String) :
    Keeps Listed (startAutoEvents driver device) := by
  intro s hs
  unfold startAutoEvents
  rw [after_get_bind]
  cases hd : s.device? device with
  | none => exact hs
  | some d =>
    have scheduling : Scheduling driver (Onward (ListedWith d.registration)) :=
      (Still.scheduling driver).mono listedWith_of_still
    exact (scheduling.restart listedWith_index device s ⟨hs, onRecord_of_device hd⟩).1

theorem sampleRegistered_listed (registered : Except DeviceError Device) :
    Keeps Listed (sampleRegistered driver registered) :=
  sampleRegistered_within (startAutoEvents_listed driver) registered

theorem start_listed : Keeps Listed (start driver) :=
  start_within (fun _ hs => hs.same rfl rfl) (startAutoEvents_listed driver)
    (listed_of_still Still.startCounters) (listed_of_still (Still.besides fun _ => rfl))

theorem run_listed (task : Task) : Keeps Listed (run driver task) :=
  run_within driver workOn_listed (fun name => listed_of_still (Still.forgetProbe name))
    (listed_of_still Still.announceCounters) task

theorem perform_listed (s : Service σ) (op : Operation σ) (hs : Listed s) :
    Listed (perform driver s op) := by
  cases op with
  | addProfile p => exact Listed.addProfile p s hs
  | removeProfile name => exact Listed.removeProfile name s hs
  | addDevice config =>
    have inserted := hs.placedDevices (insertDevice_placed driver config s)
    exact sampleRegistered_listed driver _ _ inserted
  | updateDevice config =>
    have replaced := hs.placedDevices (replaceDevice_placed driver config s)
    exact sampleRegistered_listed driver _ _ replaced
  | removeDevice name =>
    have stopped := listed_of_still (Still.stopAutoEvents driver name) s hs
    have cancelled := listed_of_still (Still.cancelProbe name) _ stopped
    exact cancelled.placedDevices (dropDevice_placed driver name _)
  | setAdminState name state => exact listed_of_still (Still.setAdminState name state) s hs
  | setServiceAdminState state => exact listed_of_still (Still.setServiceAdminState state) s hs
  | deviceCommand | execute | postReadings | noteSuccess | noteFailure =>
    exact workOn_listed (perform_chores driver rfl s).workOn hs
  | startAutoEvents name => exact startAutoEvents_listed driver name s hs
  | stopAutoEvents name => exact listed_of_still (Still.stopAutoEvents driver name) s hs
  | start => exact start_listed driver s hs
  | stop force => exact listed_of_still (Still.stop driver force) s hs
  | fire timer => exact fireTimer_of_still listed_of_still (fun task _ => run_listed driver task) hs
  | pass millis timeOfDay => exact hs.same rfl rfl
  | change f => exact hs.same rfl rfl

theorem performAll_listed (h : Fresh s) (ops : List (Operation σ)) :
    Listed (performAll driver s ops) :=
  performAll_keeps (perform_listed driver) s ops (.of_fresh h)

end Service

end FieldGateway
