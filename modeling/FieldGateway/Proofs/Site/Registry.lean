import FieldGateway.Registry

/-
  What a registry is after a change that was not refused: its devices (`addProfile_devices`,
  `removeProfile_devices`, `insertDevice_ok`, `replaceDevice_ok`, `removeDevice_ok`) and its
  profiles (`addProfile_profiles`, `removeProfile_profiles`, `insertDevice_profiles`,
  `replaceDevice_profiles`, `removeDevice_profiles`). A profile that was added has no flaw
  (`addProfile_sound`) and had a name that was free (`addProfile_free`); one that was removed was
  followed by no device (`removeProfile_unused`).
-/

namespace FieldGateway

theorem Dict.contains_eq_false_iff {α : Type} (m : Dict α) (k : String) :
    m.contains k = false ↔ m.find? k = none := by
  simp [Dict.contains]

namespace Registry

variable {r r' : Registry}

theorem addProfile_devices {serial : Nat} {p : Profile} (h : r.addProfile serial p = .ok r') :
    r'.devices = r.devices := by
  unfold addProfile at h
  split at h
  · cases h
  · split at h
    · cases h
    · cases h
      rfl

theorem addProfile_profiles {serial : Nat} {p : Profile} (h : r.addProfile serial p = .ok r') :
    r'.profiles = r.profiles.insert p.name ⟨serial, p⟩ := by
  unfold addProfile at h
  split at h
  · cases h
  · split at h
    · cases h
    · cases h
      rfl

theorem addProfile_sound {serial : Nat} {p : Profile} (h : r.addProfile serial p = .ok r') :
    p.flaw? = none := by
  unfold addProfile at h
  split at h
  · cases h
  · assumption

theorem addProfile_free {serial : Nat} {p : Profile} (h : r.addProfile serial p = .ok r') :
    r.profile? p.name = none := by
  unfold addProfile at h
  split at h
  · cases h
  · split at h
    · cases h
    · rename_i free
      exact (Dict.contains_eq_false_iff _ _).1 (by simpa using free)

theorem removeProfile_unused {name : String} (h : r.removeProfile name = .ok r') :
    r.inUse name = false := by
  unfold removeProfile at h
  split at h
  · cases h
  · simp_all

theorem inUse_iff (r : Registry) (name : String) :
    r.inUse name = true ↔ ∃ n d, r.device? n = some d ∧ d.profile.name = name := by
  simp only [inUse, List.any_eq_true, Dict.mem_values_iff, beq_iff_eq]
  exact ⟨fun ⟨d, ⟨n, hd⟩, h⟩ => ⟨n, d, hd, h⟩, fun ⟨n, d, hd, h⟩ => ⟨d, ⟨n, hd⟩, h⟩⟩

theorem removeProfile_devices {name : String} (h : r.removeProfile name = .ok r') :
    r'.devices = r.devices := by
  unfold removeProfile at h
  split at h
  · cases h
  · split at h
    · cases h
      rfl
    · cases h

theorem removeProfile_profiles {name : String} (h : r.removeProfile name = .ok r') :
    r'.profiles = r.profiles.erase name := by
  unfold removeProfile at h
  split at h
  · cases h
  · split at h
    · cases h
      rfl
    · cases h

theorem insertDevice_ok {d : Device} (h : r.insertDevice d = .ok r') :
    r.device? d.name = none ∧ r'.devices = r.devices.insert d.name d := by
  unfold insertDevice at h
  split at h
  · cases h
  · rename_i hc
    cases h
    exact ⟨(Dict.contains_eq_false_iff _ _).1 (by simpa using hc), rfl⟩

theorem insertDevice_profiles {d : Device} (h : r.insertDevice d = .ok r') :
    r'.profiles = r.profiles := by
  unfold insertDevice at h
  split at h
  · cases h
  · cases h
    rfl

theorem replaceDevice_ok {d : Device} (h : r.replaceDevice d = .ok r') :
    r'.devices = r.devices.insert d.name d := by
  unfold replaceDevice at h
  split at h
  · cases h
    rfl
  · cases h

theorem replaceDevice_profiles {d : Device} (h : r.replaceDevice d = .ok r') :
    r'.profiles = r.profiles := by
  unfold replaceDevice at h
  split at h
  · cases h
    rfl
  · cases h

theorem removeDevice_ok {name : String} (h : r.removeDevice name = .ok r') :
    r'.devices = r.devices.erase name := by
  unfold removeDevice at h
  split at h
  · cases h
    rfl
  · cases h

theorem removeDevice_error {name : String} {e : DeviceError} (h : r.removeDevice name = .error e) :
    r.device? name = none := by
  unfold removeDevice at h
  split at h
  · cases h
  · rename_i absent
    exact Option.not_isSome_iff_eq_none.1 absent

theorem removeDevice_profiles {name : String} (h : r.removeDevice name = .ok r') :
    r'.profiles = r.profiles := by
  unfold removeDevice at h
  split at h
  · cases h
    rfl
  · cases h

end Registry

end FieldGateway
