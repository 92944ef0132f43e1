import FieldGateway.Proofs.Flight.Probes
import FieldGateway.Proofs.Probing.Lost

/-
  Devices are probed only while they are down. A device that comes up loses its probe, and so does
  one that is removed, and none is armed for a device that is up (`Needed`); so in every state of
  every run nothing probes a device that is up, whichever timer fires (`performAll_needed`,
  `ProbesInOrder.unprobed`).
-/

namespace FieldGateway.Service

open FieldGateway.Action

variable {σ : Type} {driver : Driver σ} {s t : Service σ} {d : Device} {allowed : Nat}

/-- A probe that may still fire is one of a device that is registered and down. -/
def Needed (s : Service σ) : Prop :=
  ∀ name, s.hasProbe name = true → ∃ d, s.device? name = some d ∧ s.site.isDown d = true

/-- The devices of other names are as they were. -/
theorem Installed.elsewhere {c : Condition} (i : Installed d c s t) {e : Device} {name : String}
    (known : s.site.Knows e) (he : s.device? name = some e) (other : d.name ≠ name) :
    t.device? name = some e ∧ t.site.isDown e = s.site.isDown e := by
  have older : e.serial < d.serial := i.serial ▸ known
  refine ⟨by rw [i.device?, if_neg other]; exact he, ?_⟩
  rw [Site.isDown, i.condition, if_neg (Nat.ne_of_lt older)]
  rfl

namespace Needed

theorem of_fresh (h : Fresh s) : Needed s := fun name probed => by
  rw [hasProbe, h.probes] at probed
  cases probed

theorem calm (h : Needed s) (assigned : Assigned s) (calm : Calm s t) : Needed t :=
  fun name probed => by
    rw [(calm.probing assigned).2] at probed
    obtain ⟨d, hd, down⟩ := h name probed
    exact ⟨d, (calm.device? name).trans hd, (calm.isDown d).trans down⟩

theorem concluded (h : Needed s) (hs : Tidy allowed s) (hd : s.device? d.name = some d)
    (r : Report) (reason : String) : Needed ((conclude d r reason).after s) := fun name probed => by
  have operating := operating_conclude (hs.accounted.known hd) r reason
  have entered : Assigned ((enter d r).after s) := hs.assigned.of_controller rfl
  by_cases hn : d.name = name
  · subst hn
    refine ⟨d, (device?_conclude d r reason d.name s).trans hd, ?_⟩
    rw [Site.isDown, operating, if_pos rfl]
    rcases conclude_cases d r reason s with ⟨same, ht⟩ | ⟨-, ht⟩ | ⟨down, -⟩
    · rw [ht] at probed
      obtain ⟨e, he, down⟩ := h d.name probed
      obtain rfl := Option.some.inj (hd.symm.trans he)
      rw [← same]
      exact down
    · rw [ht, (cameUp_assigned entered d).2, decide_eq_false (not_not.2 rfl), Bool.and_false]
        at probed
      cases probed
    · rw [down]
      rfl
  · have before : s.hasProbe name = true := by
      rcases conclude_cases d r reason s with ⟨-, ht⟩ | ⟨-, ht⟩ | ⟨-, ht⟩
      · rw [ht] at probed
        exact probed
      · rw [ht, (cameUp_assigned entered d).2, Bool.and_eq_true] at probed
        exact probed.1
      · rw [ht, (wentDown_assigned entered d reason).2, decide_eq_false hn, Bool.false_and,
          Bool.or_false] at probed
        exact probed
    obtain ⟨e, he, down⟩ := h name before
    refine ⟨e, (device?_conclude d r reason name s).trans he, ?_⟩
    rw [Site.isDown, operating, if_neg fun serial => hn (hs.accounted.apart hd he serial)]
    exact down

theorem insertDevice (h : Needed s) (hs : Tidy allowed s) (config : DeviceConfig) :
    Needed ((insertDevice driver config).after s) := fun name probed => by
  rw [hasProbe_of_controller (insertDevice_placed driver config s).controller] at probed
  obtain ⟨e, he, down⟩ := h name probed
  rcases insertDevice_cases driver config s with ⟨_, _, ha⟩ | ⟨d, _, _, free, i, _⟩
  · rw [ha]
    exact ⟨e, he, down⟩
  · have other : d.name ≠ name := by
      rintro rfl
      cases free.symm.trans he
    obtain ⟨he', same⟩ := i.elsewhere (hs.accounted.known he) he other
    exact ⟨e, he', same.trans down⟩

/-- An update leaves a device in the health it was in. -/
theorem replaceDevice (h : Needed s) (hs : Tidy allowed s) (config : DeviceConfig) :
    Needed ((replaceDevice driver config).after s) := fun name probed => by
  rw [hasProbe_of_controller (replaceDevice_placed driver config s).controller] at probed
  obtain ⟨e, he, down⟩ := h name probed
  rcases replaceDevice_cases driver config s with ⟨_, _, ha⟩ | ⟨d, old, _, _, hold, i, _⟩
  · rw [ha]
    exact ⟨e, he, down⟩
  by_cases other : d.name = name
  · rw [other] at hold
    obtain rfl := Option.some.inj (hold.symm.trans he)
    refine ⟨d, by rw [i.device?, if_pos other], ?_⟩
    rw [Site.isDown, i.condition, if_pos rfl]
    exact down
  · obtain ⟨he', same⟩ := i.elsewhere (hs.accounted.known he) he other
    exact ⟨e, he', same.trans down⟩

/-- A device that is removed loses its probe. -/
theorem removed (h : Needed s) (hs : Tidy allowed s) (n : String) :
    Needed ((dropDevice driver n).after ((cancelProbe n).after s)) := fun name probed => by
  let u := (cancelProbe n).after s
  rw [hasProbe_of_controller (dropDevice_placed driver n u).controller,
    (cancelProbe_assigned hs.assigned n).2, Bool.and_eq_true, decide_eq_true_iff] at probed
  obtain ⟨before, other⟩ := probed
  have site : u.site = s.site := site_cancelProbe n s
  obtain ⟨d, hd, down⟩ := h name before
  rw [device?, ← site] at hd
  rw [← site] at down
  refine ⟨d, ?_⟩
  rcases dropDevice_cases driver n u with ⟨_, _, ha⟩ | ⟨_, devices, conditions, _⟩
  · rw [ha]
    exact ⟨hd, down⟩
  · rw [device?, Registry.device?, devices, Dict.find?_erase, if_neg other, Site.isDown,
      Site.condition, conditions]
    exact ⟨hd, down⟩

theorem ended (h : Needed s) {i : Nat} (off : Calm.Retires i s t) : Needed t := by
  intro name probed
  have silent : Silent s t := ⟨off.health, off.plain.noting, off.plain.metadata⟩
  rw [hasProbe, off.plain.probes, Option.any_eq_true] at probed
  obtain ⟨j, recorded, live⟩ := probed
  rw [off.live, Bool.and_eq_true] at live
  obtain ⟨d, hd, down⟩ := h name (by rw [hasProbe, recorded]; exact live.1)
  exact ⟨d, (silent.device? name).trans hd, (silent.isDown d).trans down⟩

theorem turn (h : Needed s) (hs : Tidy allowed s) (turn : Turn driver s t) : Needed t := by
  cases turn with
  | calm calm => exact h.calm hs.assigned calm
  | report r reason hd => exact h.concluded hs hd r reason
  | insert config => exact h.insertDevice hs config
  | remove n => exact h.removed hs n
  | forget hd =>
    intro name probed
    rw [hasProbe_forgetProbe, Bool.and_eq_true] at probed
    exact h name probed.1
  | giveUp off hi hd => exact h.ended off

theorem turns (h : Needed s) (hs : Tidy allowed s) (turns : Turns driver s t) : Needed t := by
  induction turns with
  | refl => exact h
  | tail before turn ih => exact ih.turn (Turns.tidy driver before hs) turn

end Needed

variable (driver)

theorem perform_needed (h : Needed s) (hs : Tidy allowed s) (op : Operation σ) :
    Needed (perform driver s op) := by
  rcases perform_turns driver hs op with ⟨config, rfl⟩ | ⟨force, rfl⟩ | turns
  · have placed := replaceDevice_placed driver config s
    exact (h.replaceDevice hs config).calm (hs.assigned.of_controller placed.controller)
      (updateDevice_calm driver config s)
  · obtain ⟨-, -, off⟩ := stop_unprobed driver hs force
    intro name probed
    cases (off name).symm.trans probed
  · exact h.turns hs turns

/-! ## Runs -/

/-- A device has one probe at most, and only while it is down. -/
structure ProbesInOrder (allowed : Nat) (s : Service σ) : Prop where
  tidy : Tidy allowed s
  needed : Needed s
  sole : Sole s

theorem performAll_needed {s₀ : Service σ} (h₀ : Fresh s₀) (ops : List (Operation σ)) :
    ProbesInOrder s₀.controller.config.allowedFails (performAll driver s₀ ops) :=
  performAll_keeps (P := ProbesInOrder s₀.controller.config.allowedFails)
    (fun _ op h => ⟨perform_tidy driver h.tidy op, perform_needed driver h.needed h.tidy op,
      perform_sole driver h.sole op⟩) s₀ ops ⟨tidy_of_fresh h₀, .of_fresh h₀, sole_of_fresh h₀⟩

/-- A timer that ended does nothing. -/
theorem fireTimer_of_ended {number : Nat} (ended : s.isLive number = false) :
    (fireTimer driver number).after s = s := by
  unfold fireTimer
  rw [after_get_bind]
  cases hx : s.controller.timers.get? number with
  | none => rfl
  | some x =>
    rw [isLive, hx, Option.any_some, Bool.not_eq_false'] at ended
    have idle : x.lifecycle.beginFire.1 ≠ true := fun begins => by
      rw [SameSampling.isRetired_of_beginFire begins] at ended
      cases ended
    dsimp only
    rw [after_ite, if_neg idle]
    rfl

/-- While a device is not down, no timer that was set to probe it does anything. -/
theorem ProbesInOrder.unprobed (h : ProbesInOrder allowed s) {name : String}
    (up : ∀ d, s.device? name = some d → s.site.isDown d = false) :
    s.hasProbe name = false ∧
      ∀ i, s.taskOf i = some (.probe name) → (fireTimer driver i).after s = s := by
  have unprobed : s.hasProbe name = false := by
    by_contra probed
    obtain ⟨d, hd, down⟩ := h.needed name (Bool.not_eq_false _ ▸ probed)
    rw [up d hd] at down
    cases down
  refine ⟨unprobed, fun i task => fireTimer_of_ended driver ?_⟩
  by_contra live
  rw [hasProbe, h.sole name i ⟨task, Bool.not_eq_false _ ▸ live⟩] at unprobed
  exact live unprobed

end FieldGateway.Service
