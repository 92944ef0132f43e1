import FieldGateway.Proofs.Sampling.Sound
import Mathlib.Data.List.Find

/-
  Starting the sampling of a device. What is put on schedules, one plan for each auto-event that
  is of use, is `plans`; a plan that a sampler from before follows goes to that sampler, each time
  it occurs. So a start is a `Clash` if such a plan occurs twice: then the first schedule is astray
  (`startAutoEvents_stray_of_clash`). A start that is none keeps sampling sound
  (`startAutoEvents_sound`).
-/

namespace FieldGateway.Service

open FieldGateway.Action

variable {σ : Type} (driver : Driver σ)

/-! ## Plans -/

/-- The plan of an auto-event that is put on a schedule; nothing if its interval or its source is
of no use, or if the driver refuses. -/
def planned? (d : Device) (a : AutoEvent) (s : Service σ) : Option Plan :=
  match Duration.interval? a.interval with
  | none => none
  | some interval =>
    match (readable? driver d a.source).result s with
    | none => none
    | some c =>
      let plan : Plan := ⟨a.source, interval, a.onChange⟩
      if accepts driver d c plan ((readable? driver d a.source).after s) then some plan else none

/-- The plans that are put on schedules, one auto-event after the other. -/
def plans (d : Device) (previous : List Nat) : List AutoEvent → Service σ → List Plan
  | [], _ => []
  | a :: rest, s =>
    (planned? driver d a s).toList ++
      plans d previous rest ((startSampler driver d previous a).after s)

/-- The first of these samplers that follows a plan. -/
def following? (s : Service σ) (previous : List Nat) (plan : Plan) : Option Nat :=
  previous.find? fun k => (s.sampler? k).any (·.plan == plan)

/-- Two auto-events of a device that is started go to one sampler from before, and both are put on
a schedule. -/
def Clash (device : String) (s : Service σ) : Prop :=
  let previous := s.samplersOf device
  let off := (stopAutoEvents driver device).after s
  ∃ d plan, s.device? device = some d ∧ (off.following? previous plan).isSome = true ∧
    2 ≤ (plans driver d previous d.autoEvents off).count plan

theorem fitting?_eq (s : Service σ) (previous : List Nat) (a : AutoEvent) (interval : Duration) :
    s.fitting? previous a interval =
      s.following? previous ⟨a.source, interval, a.onChange⟩ := by
  refine List.find?_congr fun k _ => ?_
  rw [sampler?]
  cases s.controller.samplers.get? k with
  | none => rfl
  | some r =>
    rw [Bool.eq_iff_iff]
    simp [Sampler.matches_iff, Sampler.plan]

theorem following?_some {s : Service σ} {previous : List Nat} {plan : Plan} {k : Nat}
    (h : s.following? previous plan = some k) :
    k ∈ previous ∧ ∃ r, s.sampler? k = some r ∧ r.plan = plan := by
  refine ⟨List.mem_of_find?_eq_some h, ?_⟩
  have hp := List.find?_some h
  rw [Option.any_eq_true] at hp
  obtain ⟨r, hr, hp⟩ := hp
  exact ⟨r, hr, by simpa using hp⟩

/-- It is only the plans of these samplers that count. -/
theorem following?_congr {s t : Service σ} {previous : List Nat}
    (h : ∀ k ∈ previous, (t.sampler? k).map (·.plan) = (s.sampler? k).map (·.plan)) (plan : Plan) :
    t.following? previous plan = s.following? previous plan := by
  refine List.find?_congr fun k hk => ?_
  have := h k hk
  cases hs : s.sampler? k <;> cases ht : t.sampler? k <;> simp_all

theorem Aside.sampler? {s t : Service σ} (h : Aside s t) (k : Nat) :
    t.sampler? k = s.sampler? k := by
  rw [Service.sampler?, h.controller]
  rfl

theorem Aside.scheduleOf {s t : Service σ} (h : Aside s t) (k : Nat) :
    t.scheduleOf k = s.scheduleOf k := by
  rw [Service.scheduleOf, h.sampler?]
  rfl

theorem Aside.isLive {s t : Service σ} (h : Aside s t) (i : Nat) : t.isLive i = s.isLive i := by
  rw [Service.isLive, h.controller]
  rfl

/-! ## One auto-event -/

theorem result_launched (d : Device) (c : Command) (k : Nat) (s : Service σ) :
    (launched driver d c k).result s = some k := by
  unfold launched
  rw [result_get_bind]
  split <;> rfl

theorem launched_cases (d : Device) (c : Command) {plan : Plan} {k : Nat} {s : Service σ}
    (hk : ∃ r, s.sampler? k = some r ∧ r.plan = plan) :
    (accepts driver d c plan s = true ∧ ∃ x, Scheduled k x s ((launched driver d c k).after s) ∧
      ∀ h, x = .driver h → driver.sampling.isSome = true) ∨
    accepts driver d c plan s = false ∧ Aside s ((launched driver d c k).after s) := by
  obtain ⟨r, hr, hp⟩ := hk
  have hs : (s.sampler? k).isSome = true := by rw [hr]; rfl
  rw [sampler?, Option.map_eq_some_iff] at hr
  obtain ⟨r', hr', rfl⟩ := hr
  have hp' : r'.plan = plan := hp
  have ht : (launched driver d c k).after s = (launch driver d c k r').after s := by
    unfold launched
    rw [after_get_bind, hr']
    rfl
  rw [ht, ← hp']
  exact launch_cases driver d c k r' hs

/-- What starting an auto-event comes to: nothing; or its plan goes to a sampler `k`, one that
was there or a new one, and that is put on a schedule or refused. -/
theorem startSampler_cases (d : Device) (previous : List Nat) (a : AutoEvent) (s : Service σ) :
    let started := startSampler driver d previous a
    (planned? driver d a s = none ∧ started.result s = none ∧ Aside s (started.after s)) ∨
    ∃ plan k u, started.result s = some k ∧
      (s.following? previous plan = some k ∧ Aside s u ∨
        s.following? previous plan = none ∧ ∃ u', Aside s u' ∧ Added d.name plan k u' u) ∧
      (planned? driver d a s = some plan ∧ (∃ x, Scheduled k x u (started.after s) ∧
          ∀ h, x = .driver h → driver.sampling.isSome = true) ∨
        planned? driver d a s = none ∧ Aside u (started.after s)) := by
  intro started
  unfold started startSampler planned?
  cases Duration.interval? a.interval with
  | none => exact .inl ⟨rfl, rfl, rfl, .of_eq rfl⟩
  | some interval =>
    let plan : Plan := ⟨a.source, interval, a.onChange⟩
    let u := (readable? driver d a.source).after s
    have hu : Aside s u := index_aside driver d.registration s
    dsimp only
    rw [after_bind, result_bind]
    cases (readable? driver d a.source).result s with
    | none => exact .inl ⟨rfl, rfl, hu⟩
    | some c =>
      have same : u.following? previous plan = s.following? previous plan :=
        following?_congr (fun k _ => by rw [hu.sampler?]) plan
      have asked (k : Nat) (v : Service σ) (hv : v.site = u.site)
          (hk : ∃ r, v.sampler? k = some r ∧ r.plan = plan) :
          (if accepts driver d c plan u = true then some plan else none) = some plan ∧
              (∃ x, Scheduled k x v ((launched driver d c k).after v) ∧
                ∀ h, x = .driver h → driver.sampling.isSome = true) ∨
            (if accepts driver d c plan u = true then some plan else none) = none ∧
              Aside v ((launched driver d c k).after v) := by
        have ha : accepts driver d c plan v = accepts driver d c plan u := by
          rw [accepts, hv]
          rfl
        rw [← ha]
        refine (launched_cases driver d c hk).imp (fun h => ?_) fun h => ?_
        · exact ⟨if_pos h.1, h.2⟩
        · exact ⟨if_neg (by simp [h.1]), h.2⟩
      refine .inr ⟨plan, ?_⟩
      dsimp only
      rw [after_get_bind, result_get_bind, fitting?_eq]
      cases hf : u.following? previous plan with
      | some k =>
        exact ⟨k, u, result_launched driver d c k u, .inl ⟨same ▸ hf, hu⟩,
          asked k u rfl (following?_some hf).2⟩
      | none =>
        have new := addSampler_added d.name a interval u
        obtain ⟨r, hr, _, hp, _⟩ := new.sampler
        exact ⟨_, _, result_launched driver d c _ _, .inr ⟨same ▸ hf, u, hu, new⟩,
          asked _ _ new.site ⟨r, hr, hp⟩⟩

/-! ## While a device is started -/

/-- Sampling while a device is started: `numbers` are its samplers so far, `done` the plans that
were put on schedules, and `fit` says which sampler from before follows a plan. Such a sampler is
on a schedule if and only if its plan is done. -/
structure Starting (device : String) (previous : List Nat) (others : String → List Nat)
    (fit : Plan → Option Nat) (numbers : List Nat) (done : List Plan) (s : Service σ) : Prop where
  sound : Sound driver (fun n => if n = device then numbers else others n) s
  fits (plan : Plan) : s.following? previous plan = fit plan
  before {k : Nat} : k ∈ previous → ∃ r, s.sampler? k = some r ∧ r.device = device
  used {plan : Plan} {k : Nat} : fit plan = some k → (s.scheduleOf k ≠ none ↔ plan ∈ done)
  runs {k i : Nat} : k ∈ previous → s.scheduleOf k = some (.timer i) → s.isLive i = true
  /-- The samplers so far are on no list yet. -/
  lists (n : String) : s.samplersOf n = if n = device then [] else others n

namespace Starting

variable {driver} {device : String} {previous : List Nat} {others : String → List Nat}
  {fit : Plan → Option Nat} {numbers : List Nat} {done : List Plan} {s t : Service σ}

theorem aside (h : Starting driver device previous others fit numbers done s)
    (same : Aside s t) : Starting driver device previous others fit numbers done t where
  sound := h.sound.sameSampling (.ofAside same)
  fits plan := (following?_congr (fun k _ => by rw [same.sampler?]) plan).trans (h.fits plan)
  before hk := by
    rw [same.sampler?]
    exact h.before hk
  used hf := by
    rw [same.scheduleOf]
    exact h.used hf
  runs hk hi := by
    rw [same.scheduleOf] at hi
    rw [same.isLive]
    exact h.runs hk hi
  lists n := by
    rw [samplersOf, same.controller]
    exact h.lists n

theorem added (h : Starting driver device previous others fit numbers done s) {plan : Plan}
    {k : Nat} (new : Added device plan k s t) :
    Starting driver device previous others fit numbers done t := by
  have known {j : Nat} (hj : j ∈ previous) : j ≠ k := by
    obtain ⟨r, hr, _⟩ := h.before hj
    rintro rfl
    rw [new.sampler?_eq_none] at hr
    cases hr
  refine ⟨h.sound.added new, fun plan => ?_, fun hj => ?_, fun hf => ?_, fun hj hi => ?_,
    fun n => ?_⟩
  · exact (following?_congr (fun j hj => by rw [new.same j (known hj)]) plan).trans (h.fits plan)
  · rw [new.same _ (known hj)]
    exact h.before hj
  · rw [new.scheduleOf]
    exact h.used hf
  · rw [new.scheduleOf] at hi
    rw [isLive, new.timers]
    exact h.runs hj hi
  · rw [samplersOf, new.sampling]
    exact h.lists n

/-- One more sampler of the device. -/
theorem enlist (h : Starting driver device previous others fit numbers done s) {k : Nat}
    (hk : ∃ r, s.sampler? k = some r ∧ r.device = device) :
    Starting driver device previous others fit (numbers ++ [k]) done s := by
  refine { h with sound := h.sound.relist (fun {j r} hr hs => ?_) fun {n j} hj => ?_ }
  · have := h.sound.listed hr hs
    split
    · rename_i hd
      rw [if_pos hd] at this
      exact List.mem_append_left _ this
    · rename_i hd
      rw [if_neg hd] at this
      exact this
  · split at hj
    · rename_i hn
      rcases List.mem_append.1 hj with hj | hj
      · have before : j ∈ if n = device then numbers else others n := by rwa [if_pos hn]
        exact h.sound.ours before
      · rw [List.mem_singleton.1 hj, hn]
        exact hk
    · rename_i hn
      have before : j ∈ if n = device then numbers else others n := by rwa [if_neg hn]
      exact h.sound.ours before

/-- A sampler of the device that is on no schedule is put on one, for a plan. -/
theorem scheduled (h : Starting driver device previous others fit numbers done s) {plan : Plan}
    {k : Nat} {x : Schedule} {r : Sampler} (on : Scheduled k x s t)
    (hr : s.sampler? k = some r) (hoff : r.schedule = none) (hdevice : r.device = device)
    (hk : k ∈ numbers) (hfit : ∀ {p j}, fit p = some j → (j = k ↔ p = plan))
    (hdriven : ∀ handle, x = .driver handle → driver.sampling.isSome = true) :
    Starting driver device previous others fit numbers (done ++ [plan]) t := by
  refine ⟨h.sound.scheduled on hr hoff (by rw [if_pos hdevice]; exact hk) hdriven,
    fun p => ?_, fun {j} hj => ?_, fun {p j} hp => ?_, fun {j i} hj hi => ?_, fun n => ?_⟩
  · refine (following?_congr (fun j _ => ?_) p).trans (h.fits p)
    rw [on.sampler]
    split
    · cases s.sampler? j <;> rfl
    · rfl
  · obtain ⟨r', hr', hd⟩ := h.before hj
    rw [on.sampler]
    split
    · rw [hr']
      exact ⟨_, rfl, hd⟩
    · exact ⟨r', hr', hd⟩
  · rw [on.scheduleOf, List.mem_append, List.mem_singleton]
    by_cases hjk : j = k
    · have hpp : p = plan := (hfit hp).1 hjk
      subst hjk
      rw [if_pos rfl, hr]
      exact ⟨fun _ => .inr hpp, fun _ => nofun⟩
    · have hpp : p ≠ plan := fun hpp => hjk ((hfit hp).2 hpp)
      rw [if_neg hjk, h.used hp]
      exact ⟨.inl, fun hm => hm.resolve_right hpp⟩
  · rw [on.scheduleOf] at hi
    rw [on.live]
    split at hi
    · obtain ⟨_, _, hx⟩ := Option.map_eq_some_iff.1 hi
      rw [decide_eq_true hx, Bool.true_or]
    · rw [h.runs hj hi, Bool.or_true]
  · rw [samplersOf, on.sampling]
    exact h.lists n

/-- One auto-event is started whose plan is new to the sampler it goes to. -/
theorem step (h : Starting driver device previous others fit numbers done s) {d : Device}
    (hd : d.name = device) (a : AutoEvent)
    (hnew : ∀ plan, planned? driver d a s = some plan → fit plan ≠ none → plan ∉ done) :
    Starting driver device previous others fit
      (numbers ++ ((startSampler driver d previous a).result s).toList)
      (done ++ (planned? driver d a s).toList) ((startSampler driver d previous a).after s) := by
  rcases startSampler_cases driver d previous a s with ⟨hp, hr, ha⟩ | ⟨plan, k, u, hr, hu, hx⟩
  · rw [hp, hr, Option.toList_none, Option.toList_none, List.append_nil, List.append_nil]
    exact h.aside ha
  rw [hr, Option.toList_some]
  -- the sampler that the plan goes to, and why it may be put on a schedule
  obtain ⟨hu, r, hk, hdevice, hfree⟩ :
      Starting driver device previous others fit numbers done u ∧
      ∃ r, u.sampler? k = some r ∧ r.device = device ∧
        (planned? driver d a s = some plan → r.schedule = none ∧
          ∀ {p j}, fit p = some j → (j = k ↔ p = plan)) := by
    rcases hu with ⟨hf, ha⟩ | ⟨hf, u', ha, new⟩
    · have hu := h.aside ha
      rw [h.fits] at hf
      obtain ⟨hmem, r, hk, hplan⟩ := following?_some ((hu.fits plan).trans hf)
      obtain ⟨r', hk', hdevice⟩ := hu.before hmem
      cases hk.symm.trans hk'
      refine ⟨hu, r, hk, hdevice, fun hp => ⟨?_, fun {p j} hj => ⟨?_, ?_⟩⟩⟩
      · have hnot : plan ∉ done := hnew plan hp (by rw [hf]; nofun)
        rw [← hu.used hf, not_not, Service.scheduleOf, hk] at hnot
        exact hnot
      · rintro rfl
        obtain ⟨_, r', hk', hplan'⟩ := following?_some ((hu.fits p).trans hj)
        cases hk.symm.trans hk'
        exact hplan'.symm.trans hplan
      · rintro rfl
        exact Option.some.inj (hj.symm.trans hf)
    · have hu' := h.aside ha
      subst hd
      rw [h.fits] at hf
      obtain ⟨r, hk, hdevice, -, hoff⟩ := new.sampler
      refine ⟨hu'.added new, r, hk, hdevice, fun _ => ⟨hoff, fun {p j} hj => ⟨?_, ?_⟩⟩⟩
      · rintro rfl
        obtain ⟨_, r', hk', _⟩ := following?_some ((hu'.fits p).trans hj)
        rw [new.sampler?_eq_none] at hk'
        cases hk'
      · rintro rfl
        rw [hf] at hj
        cases hj
  have hlist := hu.enlist ⟨r, hk, hdevice⟩
  rcases hx with ⟨hp, x, on, hdriven⟩ | ⟨hp, ha⟩
  · rw [hp, Option.toList_some]
    obtain ⟨hoff, hfit⟩ := hfree hp
    exact hlist.scheduled on hk hoff hdevice (List.mem_append_right _ (by simp)) hfit hdriven
  · rw [hp, Option.toList_none, List.append_nil]
    exact hlist.aside ha

/-- One auto-event is started whose plan is done at the sampler it goes to. -/
theorem step_stray (h : Starting driver device previous others fit numbers done s) (d : Device)
    (a : AutoEvent) {plan : Plan} (hp : planned? driver d a s = some plan)
    (hfit : fit plan ≠ none) (hdone : plan ∈ done) :
    Stray ((startSampler driver d previous a).after s) := by
  rcases startSampler_cases driver d previous a s with ⟨hp', _⟩ | ⟨plan', k, u, _, hu, hx⟩
  · rw [hp] at hp'
    cases hp'
  rcases hx with ⟨hp', x, on, _⟩ | ⟨hp', _⟩
  · cases hp.symm.trans hp'
    rcases hu with ⟨hf, ha⟩ | ⟨hf, _⟩
    · have hu := h.aside ha
      rw [h.fits] at hf
      obtain ⟨y, hy⟩ := Option.ne_none_iff_exists'.1 ((hu.used hf).2 hdone)
      refine hu.sound.stray_of_scheduled on hy fun i hi => ?_
      exact hu.runs (following?_some ((hu.fits plan).trans hf)).1 (hi ▸ hy)
    · rw [h.fits] at hf
      exact absurd hf hfit
  · rw [hp] at hp'
    cases hp'

end Starting

theorem Stray.startSampler {s : Service σ} (h : Stray s) (d : Device) (previous : List Nat)
    (a : AutoEvent) : Stray ((startSampler driver d previous a).after s) := by
  rcases startSampler_cases driver d previous a s with ⟨_, _, ha⟩ | ⟨plan, k, u, _, hu, hx⟩
  · exact h.aside ha
  have hu : Stray u := by
    rcases hu with ⟨_, ha⟩ | ⟨_, u', ha, new⟩
    · exact h.aside ha
    · exact (h.aside ha).added new
  rcases hx with ⟨_, x, on, _⟩ | ⟨_, ha⟩
  · exact hu.scheduled on
  · exact hu.aside ha

theorem after_startSamplers_cons (d : Device) (previous : List Nat) (a : AutoEvent)
    (rest : List AutoEvent) (s : Service σ) :
    (startSamplers driver d previous (a :: rest)).after s =
      (startSamplers driver d previous rest).after
        ((startSampler driver d previous a).after s) := by
  rw [startSamplers, after_bind, after_bind, after_pure]

theorem result_startSamplers_cons (d : Device) (previous : List Nat) (a : AutoEvent)
    (rest : List AutoEvent) (s : Service σ) :
    (startSamplers driver d previous (a :: rest)).result s =
      ((startSampler driver d previous a).result s).toList ++
        (startSamplers driver d previous rest).result
          ((startSampler driver d previous a).after s) := by
  rw [startSamplers, result_bind, result_bind, result_pure]

theorem Stray.startSamplers {s : Service σ} (h : Stray s) (d : Device) (previous : List Nat)
    (autoEvents : List AutoEvent) :
    Stray ((startSamplers driver d previous autoEvents).after s) := by
  induction autoEvents generalizing s with
  | nil => exact h
  | cons a rest ih =>
    rw [after_startSamplers_cons]
    exact ih (h.startSampler driver d previous a)

/-! ## All auto-events of a device -/

namespace Starting

variable {driver} {device : String} {previous : List Nat} {others : String → List Nat}
  {fit : Plan → Option Nat} {numbers : List Nat} {done : List Plan} {s : Service σ} {d : Device}

/-- No plan goes twice to a sampler from before. -/
theorem all (h : Starting driver device previous others fit numbers done s)
    (hd : d.name = device) (autoEvents : List AutoEvent)
    (hnew : ∀ plan, fit plan ≠ none →
      (done ++ plans driver d previous autoEvents s).count plan ≤ 1) :
    ∃ done', Starting driver device previous others fit
      (numbers ++ (startSamplers driver d previous autoEvents).result s) done'
      ((startSamplers driver d previous autoEvents).after s) := by
  induction autoEvents generalizing s numbers done with
  | nil =>
    refine ⟨done, ?_⟩
    show Starting driver device previous others fit (numbers ++ []) done s
    rw [List.append_nil]
    exact h
  | cons a rest ih =>
    rw [plans, ← List.append_assoc] at hnew
    have first := h.step hd a fun plan hp hf hmem => by
      have := hnew plan hf
      rw [List.count_append, List.count_append, hp, Option.toList_some,
        List.count_singleton_self] at this
      have : 0 < done.count plan := List.count_pos_iff.2 hmem
      omega
    obtain ⟨done', hrest⟩ := ih first hnew
    refine ⟨done', ?_⟩
    rw [after_startSamplers_cons, result_startSamplers_cons, ← List.append_assoc]
    exact hrest

/-- A plan goes twice to a sampler from before. -/
theorem all_stray (h : Starting driver device previous others fit numbers done s)
    (hd : d.name = device) (autoEvents : List AutoEvent) {plan : Plan} (hfit : fit plan ≠ none)
    (hdone : done.count plan ≤ 1)
    (htwice : 2 ≤ (done ++ plans driver d previous autoEvents s).count plan) :
    Stray ((startSamplers driver d previous autoEvents).after s) := by
  induction autoEvents generalizing s numbers done with
  | nil =>
    rw [plans, List.append_nil] at htwice
    omega
  | cons a rest ih =>
    rw [plans, ← List.append_assoc] at htwice
    rw [after_startSamplers_cons]
    by_cases hnew : ∀ p, planned? driver d a s = some p → fit p ≠ none → p ∉ done
    · refine ih (h.step hd a hnew) ?_ htwice
      rw [List.count_append]
      cases hp : planned? driver d a s with
      | none => exact hdone
      | some p =>
        by_cases hpp : p = plan
        · subst hpp
          rw [List.count_eq_zero.2 (hnew p hp hfit), Option.toList_some,
            List.count_singleton_self]
        · rw [Option.toList_some, List.count_singleton, if_neg (by simpa using hpp)]
          exact hdone
    · simp only [not_forall, not_not] at hnew
      obtain ⟨p, hp, hf, hmem⟩ := hnew
      exact (h.step_stray d a hp hf hmem).startSamplers driver d previous rest

end Starting

/-! ## Stopping and starting a device -/

variable {lists : String → List Nat} {s : Service σ}

theorem stopSamplers_sound (h : Sound driver lists s) (numbers : List Nat) :
    let t := (numbers.forM (stopSampler driver)).after s
    Sound driver lists t ∧ (∀ k, k ∈ numbers ∨ s.scheduleOf k = none → t.scheduleOf k = none) ∧
      t.controller.sampling = s.controller.sampling := by
  induction numbers generalizing s with
  | nil => exact ⟨h, fun k hk => hk.resolve_left (by simp), rfl⟩
  | cons k rest ih =>
    have off := stopSampler_unscheduled driver k s
    obtain ⟨hs, hnone, hsampling⟩ := ih (h.unscheduled off)
    intro t
    have ht : t = (rest.forM (stopSampler driver)).after ((stopSampler driver k).after s) := rfl
    rw [← ht] at hs hnone hsampling
    refine ⟨hs, fun j hj => hnone j ?_, hsampling.trans off.sampling⟩
    rw [off.scheduleOf]
    by_cases hjk : j = k
    · exact .inr (if_pos hjk)
    · rw [if_neg hjk]
      exact hj.imp_left fun hm => (List.mem_cons.1 hm).resolve_left hjk

theorem Stray.stopAutoEvents (h : Stray s) (device : String) :
    Stray ((stopAutoEvents driver device).after s) := by
  have all (numbers : List Nat) (s : Service σ) (h : Stray s) :
      Stray ((numbers.forM (stopSampler driver)).after s) := by
    induction numbers generalizing s with
    | nil => exact h
    | cons k rest ih => exact ih _ (h.unscheduled (stopSampler_unscheduled driver k s))
  exact all _ _ (show Stray ((takeSamplers device).after s) from h)

/-- A device that is stopped has no sampler on a list or a schedule. -/
theorem stopAutoEvents_sound (h : Sound driver s.samplersOf s) (device : String) :
    let t := (stopAutoEvents driver device).after s
    Sound driver t.samplersOf t ∧
      (∀ k ∈ s.samplersOf device, (∃ r, t.sampler? k = some r ∧ r.device = device) ∧
        t.scheduleOf k = none) ∧
      ∀ n, t.samplersOf n = if n = device then [] else s.samplersOf n := by
  let u := (takeSamplers device).after s
  have hu : Sound driver s.samplersOf u := { h with }
  intro t
  obtain ⟨ht, hnone, hsampling⟩ := stopSamplers_sound driver hu (s.samplersOf device)
  have htu : t = ((s.samplersOf device).forM (stopSampler driver)).after u := rfl
  rw [← htu] at ht hnone hsampling
  have lists (n : String) : t.samplersOf n = if n = device then [] else s.samplersOf n := by
    rw [samplersOf, hsampling]
    show ((s.controller.sampling.erase device).find? n).getD [] = _
    rw [Dict.find?_erase]
    by_cases hn : n = device
    · rw [if_pos hn, if_pos hn.symm]
      rfl
    · rw [if_neg hn, if_neg (Ne.symm hn)]
      rfl
  refine ⟨ht.relist (fun {k r} hr hs => ?_) fun {n k} hk => ?_, fun k hk => ⟨ht.ours hk, ?_⟩,
    lists⟩
  · have hk := ht.listed hr hs
    rw [lists, if_neg]
    · exact hk
    · intro hd
      rw [hd] at hk
      have := hnone k (.inl hk)
      rw [scheduleOf, hr] at this
      exact hs this
  · rw [lists] at hk
    split at hk
    · cases hk
    · exact ht.ours hk
  · exact hnone k (.inl hk)

/-- The device that is started, its samplers stopped. -/
theorem starting (h : Sound driver s.samplersOf s) (device : String) :
    let previous := s.samplersOf device
    let off := (stopAutoEvents driver device).after s
    Starting driver device previous s.samplersOf (off.following? previous) [] [] off := by
  intro previous off
  obtain ⟨ht, hprevious, lists⟩ := stopAutoEvents_sound driver h device
  refine ⟨?_, fun _ => rfl, fun hk => (hprevious _ hk).1, fun hf => ?_, fun hk hi => ?_, lists⟩
  · rw [show (fun n => if n = device then [] else s.samplersOf n) = off.samplersOf from
      (funext lists).symm]
    exact ht
  · rw [(hprevious _ (following?_some hf).1).2]
    simp
  · rw [(hprevious _ hk).2] at hi
    cases hi

/-- What is left to do when the samplers of a device were started. -/
def enroll (device : String) (numbers : List Nat) (s : Service σ) : Service σ :=
  if numbers ≠ [] then
    { s with controller :=
      { s.controller with sampling := s.controller.sampling.insert device numbers } }
  else s

theorem startAutoEvents_eq {device : String} {d : Device} (hd : s.device? device = some d) :
    let off := (stopAutoEvents driver device).after s
    let started := startSamplers driver d (s.samplersOf device) d.autoEvents
    (startAutoEvents driver device).after s =
      enroll device (started.result off) (started.after off) := by
  intro off started
  unfold startAutoEvents enroll
  rw [after_get_bind, hd]
  show Action.after (if started.result off ≠ [] then _ else _) (started.after off) = _
  split <;> rfl

theorem startAutoEvents_of_none {device : String} (hd : s.device? device = none) :
    (startAutoEvents driver device).after s = s := by
  unfold startAutoEvents
  rw [after_get_bind, hd]
  rfl

theorem Starting.enroll {device : String} {previous : List Nat} {others : String → List Nat}
    {fit : Plan → Option Nat} {numbers : List Nat} {done : List Plan}
    (h : Starting driver device previous others fit numbers done s) :
    Sound driver (enroll device numbers s).samplersOf (enroll device numbers s) := by
  have lists (n : String) : (Service.enroll device numbers s).samplersOf n =
      if n = device then numbers else others n := by
    unfold Service.enroll
    by_cases hn : numbers = []
    · rw [if_neg (not_not.2 hn), h.lists, hn]
    · rw [if_pos hn]
      show ((s.controller.sampling.insert device numbers).find? n).getD [] = _
      have hl := h.lists n
      rw [Dict.find?_insert]
      by_cases hd : n = device
      · rw [if_pos hd.symm, if_pos hd]
        rfl
      · rw [if_neg (Ne.symm hd), if_neg hd]
        rw [if_neg hd] at hl
        exact hl
  have same : Sound driver (fun n => if n = device then numbers else others n)
      (Service.enroll device numbers s) := by
    unfold Service.enroll
    split
    · exact { h.sound with }
    · exact h.sound
  rw [funext lists]
  exact same

/-- A start that is no clash keeps sampling sound. -/
theorem startAutoEvents_sound (h : Sound driver s.samplersOf s) {device : String}
    (hname : ∀ d, s.device? device = some d → d.name = device) (hc : ¬ Clash driver device s) :
    let t := (startAutoEvents driver device).after s
    Sound driver t.samplersOf t := by
  cases hd : s.device? device with
  | none =>
    rw [startAutoEvents_of_none driver hd]
    exact h
  | some d =>
    rw [startAutoEvents_eq driver hd]
    obtain ⟨done, started⟩ := (starting driver h device).all (hname d hd) d.autoEvents
      fun plan hfit => by
        rw [List.nil_append]
        by_contra htwice
        exact hc ⟨d, plan, hd, Option.isSome_iff_ne_none.2 hfit, by omega⟩
    exact started.enroll

theorem Stray.enroll (h : Stray s) (device : String) (numbers : List Nat) :
    Stray (enroll device numbers s) := by
  unfold Service.enroll
  split
  · exact h
  · exact h

/-- A clash leaves a schedule astray. -/
theorem startAutoEvents_stray_of_clash (h : Sound driver s.samplersOf s) {device : String}
    (hname : ∀ d, s.device? device = some d → d.name = device) (hc : Clash driver device s) :
    Stray ((startAutoEvents driver device).after s) := by
  obtain ⟨d, plan, hd, hfit, htwice⟩ := hc
  rw [startAutoEvents_eq driver hd]
  exact ((starting driver h device).all_stray (hname d hd) d.autoEvents
    (Option.isSome_iff_ne_none.1 hfit) (by simp) htwice).enroll _ _

/-- No start brings back what is astray. -/
theorem Stray.startAutoEvents (h : Stray s) (device : String) :
    Stray ((startAutoEvents driver device).after s) := by
  cases hd : s.device? device with
  | none =>
    rw [startAutoEvents_of_none driver hd]
    exact h
  | some d =>
    rw [startAutoEvents_eq driver hd]
    exact ((h.stopAutoEvents driver device).startSamplers driver d _ _).enroll _ _

end FieldGateway.Service
