import FieldGateway.Proofs.Sampling.Untouched

/-
  What putting a sampler on a schedule and taking it off come to, in the terms of the ledger:
  `stopSampler_unscheduled`, `launch_cases`, `addSampler_added`.
-/

namespace FieldGateway

/-- What samplers are told apart by: the command they read, how often, and what for. -/
structure Plan where
  source : String
  interval : Duration
  onChange : Bool
deriving DecidableEq

def Sampler.plan (r : Sampler) : Plan := ⟨r.source, r.interval, r.onChange⟩

/-- The plan that an auto-event asks for, if its interval is of use. -/
def AutoEvent.plan? (a : AutoEvent) : Option Plan :=
  (Duration.interval? a.interval).map fun interval => ⟨a.source, interval, a.onChange⟩

theorem Sampler.matches_iff (r : Sampler) (a : AutoEvent) (interval : Duration) :
    r.matches a interval = true ↔ r.plan = ⟨a.source, interval, a.onChange⟩ := by
  simp [Sampler.matches, Sampler.plan, and_assoc]

namespace Service

open FieldGateway.Action

variable {σ : Type} (driver : Driver σ)

/-- The driver takes up a sampling of a plan, or the service samples by timers. -/
def accepts (d : Device) (c : Command) (plan : Plan) (s : Service σ) : Bool :=
  match driver.sampling with
  | none => true
  | some sampling =>
    (Site.startSampling sampling d plan.source c.requests plan.interval plan.onChange s.site).1.isOk

theorem scheduleOf_eq (s : Service σ) (k : Nat) :
    s.scheduleOf k = (s.controller.samplers.get? k).bind (·.schedule) := by
  rw [scheduleOf, sampler?]
  cases s.controller.samplers.get? k <;> rfl

/-! ## The slot of a sampler -/

theorem sampler?_setSchedule (s : Service σ) (k : Nat) (x : Option Schedule) (j : Nat) :
    ((changeSampler (σ := σ) k fun r => { r with schedule := x }).after s).sampler? j =
      if j = k then (s.sampler? j).map fun r => { r with schedule := x } else s.sampler? j := by
  show ((s.controller.samplers.modify k _).get? j).map _ = _
  rw [Numbered.get?_modify, sampler?]
  by_cases h : j = k
  · subst h
    rw [if_pos rfl, if_pos rfl]
    cases s.controller.samplers.get? j <;> rfl
  · rw [if_neg h, if_neg (Ne.symm h)]

theorem holders_setSchedule (s : Service σ) (k : Nat) (x : Option Schedule) (h : Handle)
    (hk : (s.sampler? k).isSome = true) :
    ((changeSampler (σ := σ) k fun r => { r with schedule := x }).after s).holders h +
        (if s.scheduleOf k = some (.driver h) then 1 else 0) =
      s.holders h + if x = some (.driver h) then 1 else 0 := by
  rw [sampler?, Option.isSome_map] at hk
  obtain ⟨r, hr⟩ := Option.isSome_iff_exists.1 hk
  have := Numbered.count_modify s.controller.samplers
    (fun r => r.schedule == some (.driver h)) (fun r => { r with schedule := x }) k hr
  simp only [beq_iff_eq] at this
  rw [scheduleOf_eq, hr]
  exact this

/-! ## Taking a sampler off -/

theorem holders_clearSchedule (s : Service σ) (k : Nat) (h : Handle) :
    ((changeSampler (σ := σ) k fun r => { r with schedule := none }).after s).holders h +
        (if s.scheduleOf k = some (.driver h) then 1 else 0) = s.holders h := by
  cases hr : s.sampler? k with
  | some r => exact holders_setSchedule s k none h (by rw [hr]; rfl)
  | none =>
    have hn : s.controller.samplers.get? k = none := by simpa [sampler?] using hr
    rw [scheduleOf, hr]
    show (s.controller.samplers.modify k _).count _ + 0 = _
    rw [Numbered.modify_of_get?_eq_none _ _ _ hn]
    rfl

theorem taskOf_retireTimer (i j : Nat) (s : Service σ) :
    ((retireTimer i).after s).taskOf j = s.taskOf j := by
  show ((s.controller.timers.modify i _).get? j).map (·.task) = _
  rw [Numbered.get?_modify, taskOf]
  split
  · cases s.controller.timers.get? j <;> rfl
  · rfl

theorem isLive_retireTimer (i j : Nat) (s : Service σ) :
    ((retireTimer i).after s).isLive j = (s.isLive j && decide (i ≠ j)) := by
  show ((s.controller.timers.modify i _).get? j).any _ = _
  rw [Numbered.get?_modify, isLive]
  by_cases h : i = j
  · simp [h, Option.any_map, Timer.Lifecycle.retire, Timer.Lifecycle.mark, Timer.Lifecycle.cancel,
      Timer.Lifecycle.isRetired]
  · simp [h]

theorem stopSampler_unscheduled (k : Nat) (s : Service σ) :
    Unscheduled driver k s ((stopSampler driver k).after s) := by
  let s' := (changeSampler (σ := σ) k fun r => { r with schedule := none }).after s
  have sampler := sampler?_setSchedule s k none
  have holders := holders_clearSchedule s k
  have taken : (takeSchedule k).result s = s.scheduleOf k := (scheduleOf_eq s k).symm
  unfold stopSampler
  rw [after_bind, taken]
  show Unscheduled driver k s (Action.after _ s')
  cases hx : s.scheduleOf k with
  | none =>
    refine ⟨rfl, sampler, fun _ => rfl, fun i => ?_, fun _ => rfl, fun h => ?_, holders, rfl⟩
    · rw [hx]
      exact (Bool.and_true _).symm
    · simp only [hx, reduceCtorEq, and_false, if_false]
      rfl
  | some x =>
    cases x with
    | timer i =>
      refine ⟨rfl, sampler, fun j => taskOf_retireTimer i j s', fun j => ?_, fun _ => rfl, fun h => ?_,
        holders, rfl⟩
      · dsimp only
        rw [isLive_retireTimer, hx]
        simp only [ne_eq, Option.some.injEq, Schedule.timer.injEq]
        rfl
      · simp only [hx, Option.some.injEq, reduceCtorEq, and_false, if_false]
        rfl
    | driver h =>
      dsimp only
      have live (i : Nat) : s.isLive i =
          (s.isLive i && decide (s.scheduleOf k ≠ some (.timer i))) := by simp [hx]
      cases hd : driver.sampling with
      | none =>
        refine ⟨rfl, sampler, fun _ => rfl, live, fun _ => rfl, fun h' => ?_, holders, rfl⟩
        simp only [hd, Option.isSome_none, Bool.false_eq_true, false_and, if_false]
        rfl
      | some sampling =>
        refine ⟨rfl, sampler, fun _ => rfl, live, fun h' => ?_, fun h' => ?_, holders, rfl⟩
        · exact List.countP_cons_of_neg (by simp [Effect.starts])
        · simp only [hx, hd, Option.isSome_some, true_and, Option.some.injEq,
            Schedule.driver.injEq]
          show List.countP _ (_ :: _) = _
          rw [List.countP_cons]
          simp [Effect.stops]
          rfl

/-! ## Putting a sampler on -/

/-- The runtime samples: a new timer, for this sampler, is its schedule. -/
theorem launch_timer (d : Device) (c : Command) (k : Nat) (r : Sampler) {s : Service σ}
    (hk : (s.sampler? k).isSome = true) (hd : driver.sampling = none) :
    Scheduled k (.timer s.controller.timers.next) s ((launch driver d c k r).after s) := by
  let i := s.controller.timers.next
  let t := (setTimer (.periodic r.interval) (.sample k)).after s
  have get (j : Nat) : t.controller.timers.get? j = if j = i then _ else _ :=
    Numbered.get?_add ..
  have next : s.controller.timers.get? i = none :=
    (Site.get?_eq_none_iff _ _).2 (Nat.le_refl _)
  unfold launch
  rw [hd]
  refine ⟨rfl, sampler?_setSchedule t k _, fun j => ?_, ?_, fun j => ?_, fun _ => rfl,
    fun _ => rfl, fun h => holders_setSchedule t k _ h hk, rfl⟩
  · show (t.controller.timers.get? j).map (·.task) = _
    rw [get]
    by_cases hj : j = i
    · simp [hj, i]
    · simp [hj, i, Ne.symm hj, taskOf]
  · intro j hj
    cases hj
    rw [taskOf, next]
    rfl
  · show (t.controller.timers.get? j).any _ = _
    rw [get]
    by_cases hj : j = i
    · simp [hj, i, Timer.Lifecycle.isRetired]
    · simp [hj, i, Ne.symm hj, isLive]

variable {sampling : Driver.Sampling σ}

/-- The driver samples: the handle it gave is the schedule. -/
theorem launch_driver (d : Device) (c : Command) (k : Nat) (r : Sampler) {s : Service σ}
    (hk : (s.sampler? k).isSome = true) (hd : driver.sampling = some sampling) {handle : Handle}
    (ho : (Site.startSampling sampling d r.source c.requests r.interval r.onChange s.site).1 =
      .ok handle) :
    Scheduled k (.driver handle) s ((launch driver d c k r).after s) := by
  let step := Site.startSampling sampling d r.source c.requests r.interval r.onChange
  let t := (onSite step).after s
  have asked : t.site.trace = (s.site.now, .driver (.startSampling d r.source c.requests
      r.interval r.onChange (.ok handle))) :: s.site.trace := ho ▸ rfl
  unfold launch
  rw [hd]
  dsimp only
  rw [after_bind, result_onSite, ho]
  refine ⟨rfl, sampler?_setSchedule t k _, fun _ => rfl, by rintro _ ⟨⟩, fun _ => rfl,
    fun h => ?_, fun h => ?_, fun h => ?_, rfl⟩
  · show List.countP _ t.site.trace = _
    rw [asked, List.countP_cons]
    simp [Effect.starts, started]
  · show List.countP _ t.site.trace = _
    rw [asked]
    exact List.countP_cons_of_neg (by simp [Effect.stops])
  · exact (holders_setSchedule t k (some (.driver handle)) h hk).trans
      (congrArg (s.holders h + ·) (by simp))

/-- A driver that refuses leaves all as it was. -/
theorem launch_refused (d : Device) (c : Command) (k : Nat) (r : Sampler) {s : Service σ}
    (hd : driver.sampling = some sampling) {e : DriverError}
    (ho : (Site.startSampling sampling d r.source c.requests r.interval r.onChange s.site).1 =
      .error e) :
    Aside s ((launch driver d c k r).after s) := by
  have asked : ((onSite (Site.startSampling sampling d r.source c.requests r.interval
      r.onChange)).after s).site.trace = (s.site.now, .driver (.startSampling d r.source
        c.requests r.interval r.onChange (.error e))) :: s.site.trace := ho ▸ rfl
  unfold launch
  rw [hd]
  dsimp only
  rw [after_bind, result_onSite, ho]
  exact ⟨rfl, .one asked fun _ => ⟨rfl, rfl⟩⟩

/-- A sampler is launched where what is to sample accepts its plan, and nothing happens to the
schedules where not. -/
theorem launch_cases (d : Device) (c : Command) (k : Nat) (r : Sampler) {s : Service σ}
    (hk : (s.sampler? k).isSome = true) :
    (accepts driver d c r.plan s = true ∧ ∃ x, Scheduled k x s ((launch driver d c k r).after s) ∧
      ∀ h, x = .driver h → driver.sampling.isSome = true) ∨
    accepts driver d c r.plan s = false ∧ Aside s ((launch driver d c k r).after s) := by
  cases hd : driver.sampling with
  | none =>
    have accepted : accepts driver d c r.plan s = true := by rw [accepts, hd]
    exact .inl ⟨accepted, _, launch_timer driver d c k r hk hd, by rintro _ ⟨⟩⟩
  | some sampling =>
    have outcome : accepts driver d c r.plan s =
        (Site.startSampling sampling d r.source c.requests r.interval r.onChange s.site).1.isOk := by
      rw [accepts, hd]
      rfl
    rw [outcome]
    cases ho : (Site.startSampling sampling d r.source c.requests r.interval r.onChange
        s.site).1 with
    | error e => exact .inr ⟨rfl, launch_refused driver d c k r hd ho⟩
    | ok handle => exact .inl ⟨rfl, _, launch_driver driver d c k r hk hd ho, fun _ _ => rfl⟩

/-! ## New samplers -/

/-- A sampler is new, and on no schedule. -/
structure Added (device : String) (plan : Plan) (k : Nat) (s t : Service σ) : Prop where
  number : k = s.controller.samplers.next
  same : ∀ j, j ≠ k → t.sampler? j = s.sampler? j
  sampler : ∃ r, t.sampler? k = some r ∧ r.device = device ∧ r.plan = plan ∧ r.schedule = none
  site : t.site = s.site
  sampling : t.controller.sampling = s.controller.sampling
  timers : t.controller.timers = s.controller.timers
  holders : ∀ h, t.holders h = s.holders h
  counters : t.controller.countersTimer = s.controller.countersTimer

theorem addSampler_added (device : String) (a : AutoEvent) (interval : Duration)
    (s : Service σ) :
    Added device ⟨a.source, interval, a.onChange⟩ ((addSampler device a interval).result s) s
      ((addSampler device a interval).after s) := by
  let r : Sampler := { device, source := a.source, interval, onChange := a.onChange }
  have get (j : Nat) : (s.controller.samplers.add r).get? j =
      if j = s.controller.samplers.next then some r else s.controller.samplers.get? j :=
    Numbered.get?_add ..
  refine ⟨rfl, fun j hj => ?_, ⟨r, ?_, rfl, rfl, rfl⟩, rfl, rfl, rfl, fun h => ?_, rfl⟩
  · change j ≠ s.controller.samplers.next at hj
    show ((s.controller.samplers.add r).get? j).map _ = _
    rw [get, if_neg hj, sampler?]
  · show ((s.controller.samplers.add r).get? s.controller.samplers.next).map _ = _
    rw [get, if_pos rfl]
    rfl
  · show (s.controller.samplers.add r).count _ = _
    rw [Numbered.count_add]
    simp [r, holders]

theorem Added.sampler?_eq_none {device : String} {plan : Plan} {k : Nat} {s t : Service σ}
    (h : Added device plan k s t) : s.sampler? k = none := by
  rw [sampler?, h.number, (Site.get?_eq_none_iff _ _).2 (Nat.le_refl _)]
  rfl

theorem Added.scheduleOf {device : String} {plan : Plan} {k : Nat} {s t : Service σ}
    (h : Added device plan k s t) (j : Nat) : t.scheduleOf j = s.scheduleOf j := by
  rw [Service.scheduleOf, Service.scheduleOf]
  by_cases hj : j = k
  · subst hj
    obtain ⟨r, hr, _, _, hs⟩ := h.sampler
    rw [hr, h.sampler?_eq_none]
    exact hs
  · rw [h.same j hj]

end Service

end FieldGateway
