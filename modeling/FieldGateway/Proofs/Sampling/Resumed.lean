import FieldGateway.Proofs.Commands.Listed
import FieldGateway.Proofs.Sampling.Memory
import FieldGateway.Proofs.Sampling.Start

/-
  What becomes of one auto-event after the other when the samplers of a device are started. Each
  auto-event that is of use (`usable?`) gets one: the first sampler from before that follows the
  same plan, with what it remembers, or a new one (`Resumes`). While others are launched, every
  sampler stays what it is but for schedules, and a schedule that runs goes on running (`Further`);
  so what is found out about one auto-event in its turn still holds at the end
  (`startSamplers_resumes`).
-/

namespace FieldGateway

namespace Effect

/-- The driver is asked to take up a sampling. -/
def isLaunch : Effect → Bool
  | .driver (.startSampling ..) => true
  | _ => false

/-- The driver is told to stop a sampling. -/
def isHalt : Effect → Bool
  | .driver (.stopSampling _) => true
  | _ => false

theorem isHalt_eq_false {e : Effect} (h : e.IsNoSampling) : e.isHalt = false := by
  unfold isHalt
  split
  · rename_i handle
    have stops := (h handle).2
    rw [stops.symm]
    simp [Effect.stops]
  · rfl

end Effect

namespace Service

open FieldGateway.Action

variable {σ : Type} (driver : Driver σ)

/-- The command that an auto-event reads and its plan, if both are of use: the interval is a length
of time above zero, and the source is a command that reads and all of which can be read. -/
def usable? (s : Service σ) (d : Device) (a : AutoEvent) : Option (Command × Plan) := do
  let plan ← a.plan?
  let c ← ((commandsOf driver s d).resolve? a.source .get).filter fun c => c.unreadable?.isNone
  return (c, plan)

/-- The sampler of a number runs. -/
def runs (s : Service σ) (k : Nat) : Bool := (s.controller.samplers.get? k).any s.isRunning

/-- The driver refused to take up the sampling of a plan, some time between two services. -/
def Refuses (d : Device) (c : Command) (plan : Plan) (s t : Service σ) : Prop :=
  ∃ new, t.site.trace = new ++ s.site.trace ∧ ∃ now e, (now, Effect.driver
    (.startSampling d plan.source c.requests plan.interval plan.onChange (.error e))) ∈ new

/-- The sampler of this number follows a plan of a device after a start: it is the first one from
before that does, with all that it remembers, or a new one; and it runs unless the driver
refused. -/
structure Resumes (d : Device) (previous : List Nat) (s t : Service σ) (p : Command × Plan)
    (k : Nat) : Prop where
  follows : ∃ m, t.memory? k = some m ∧ m.plan = p.2 ∧ m.device = d.name
  kept {j : Nat} : s.following? previous p.2 = some j → k = j ∧ t.memory? k = s.memory? k
  new : s.following? previous p.2 = none →
    s.memory? k = none ∧ ∃ m, t.memory? k = some m ∧ m.snapshot = none
  runs : t.runs k = true ∨ Refuses d p.1 p.2 s t

/-! ## Schedules that go on -/

variable {driver} {s t u : Service σ}

theorem runs_eq (s : Service σ) (k : Nat) :
    s.runs k = match s.scheduleOf k with
      | some (.timer i) => s.isLive i
      | some (.driver _) => true
      | none => false := by
  rw [runs, scheduleOf_eq]
  cases s.controller.samplers.get? k with
  | none => rfl
  | some r =>
    show s.isRunning r = _
    rw [Option.bind_some]
    cases schedule : r.schedule with
    | none => simp only [isRunning, schedule]
    | some x => cases x <;> simp only [isRunning, schedule]

/-- Samplers are what they were and more, but for schedules; those that run go on. -/
structure Further (s t : Service σ) : Prop where
  memory {k : Nat} {m : Sampler} : s.memory? k = some m → t.memory? k = some m
  runs {k : Nat} : s.runs k = true → t.runs k = true
  timers {i : Nat} {task : Task} : s.taskOf i = some task →
    t.taskOf i = some task ∧ t.isLive i = s.isLive i
  noting : Noting (·.isHalt = false) s t

namespace Further

theorem refl (s : Service σ) : Further s s := ⟨id, id, fun h => ⟨h, rfl⟩, .of_eq rfl⟩

theorem trans (h : Further s t) (h' : Further t u) : Further s u where
  memory hm := h'.memory (h.memory hm)
  runs hk := h'.runs (h.runs hk)
  timers hi :=
    let ⟨ht, live⟩ := h.timers hi
    let ⟨hu, live'⟩ := h'.timers ht
    ⟨hu, live'.trans live⟩
  noting := h.noting.trans h'.noting

instance : Std.Refl (Further (σ := σ)) := ⟨refl⟩

instance : IsTrans (Service σ) Further := ⟨fun _ _ _ => trans⟩

/-- A sampler that is not there after was not there before. -/
theorem memory?_eq_none (h : Further s t) {k : Nat} (hk : t.memory? k = none) :
    s.memory? k = none := by
  cases hs : s.memory? k with
  | none => rfl
  | some m =>
    rw [h.memory hs] at hk
    cases hk

theorem aside (h : Aside s t) : Further s t where
  memory hm := by
    rw [memory?, h.controller]
    exact hm
  runs hk := by
    rw [runs_eq] at hk ⊢
    simp only [h.scheduleOf, h.isLive]
    exact hk
  timers hi := by
    refine ⟨?_, h.isLive _⟩
    rw [taskOf, h.controller]
    exact hi
  noting := h.noting.mono fun _ => Effect.isHalt_eq_false

theorem addSampler (device : String) (a : AutoEvent) (interval : Duration) :
    Within Further (addSampler (σ := σ) device a interval) := by
  intro s
  have added := addSampler_added device a interval s
  refine ⟨(Retains.addSampler device a interval s).known, fun hk => ?_, fun hi => ?_, .of_eq rfl⟩
  · rw [runs_eq] at hk ⊢
    simp only [added.scheduleOf, Service.isLive, added.timers]
    exact hk
  · rw [taskOf, Service.isLive, added.timers]
    exact ⟨hi, rfl⟩

theorem scheduled {k : Nat} {x : Schedule} (on : Scheduled k x s t)
    (memory : ∀ j, t.memory? j = s.memory? j) (noting : Noting (·.isHalt = false) s t) :
    Further s t where
  memory {j m} hm := by rw [memory j, hm]
  runs {j} hj := by
    rw [runs_eq] at hj ⊢
    rw [on.scheduleOf]
    by_cases hjk : j = k
    · -- it is put on another schedule, which is a new timer or one of the driver
      subst hjk
      have known : (s.sampler? j).isSome = true := by
        cases hs : s.sampler? j with
        | none =>
          rw [scheduleOf, hs] at hj
          cases hj
        | some r => rfl
      obtain ⟨r, hr⟩ := Option.isSome_iff_exists.1 known
      rw [if_pos rfl, hr, Option.map_some]
      cases x with
      | timer i => simp [on.live]
      | driver handle => rfl
    · rw [if_neg hjk]
      cases hs : s.scheduleOf j with
      | none =>
        rw [hs] at hj
        cases hj
      | some y =>
        rw [hs] at hj
        cases y with
        | timer i =>
          dsimp only at hj ⊢
          rw [on.live, hj, Bool.or_true]
        | driver handle => rfl
  timers hi := by
    refine ⟨on.keeps_task hi, ?_⟩
    rw [on.live, decide_eq_false (on.ne_timer hi), Bool.false_or]
  noting := noting

end Further

/-! ## Launching -/

/-- Every sampler is what it was, its schedule apart. -/
def SameMemory (s t : Service σ) : Prop := ∀ k, t.memory? k = s.memory? k

namespace SameMemory

instance : Std.Refl (SameMemory (σ := σ)) := ⟨fun _ _ => rfl⟩

instance : IsTrans (Service σ) SameMemory := ⟨fun _ _ _ h h' k => (h' k).trans (h k)⟩

theorem same {α : Type} {a : Action σ α} (h : Within SameSamplers a) : Within SameMemory a :=
  fun s _ => by
    rw [memory?, h s]
    rfl

theorem setSchedule (number : Nat) (x : Option Schedule) :
    Within SameMemory (changeSampler (σ := σ) number fun r => { r with schedule := x }) := by
  intro s k
  show ((s.controller.samplers.modify number _).get? k).map _ = _
  rw [Numbered.get?_modify, memory?]
  split
  · cases s.controller.samplers.get? k <;> rfl
  · rfl

theorem launched (d : Device) (c : Command) (number : Nat) :
    Within SameMemory (launched driver d c number) :=
  launched_within d c number fun r =>
    launch_within d c number r (same fun _ => rfl) (fun _ => same fun _ => rfl)
      fun x => setSchedule number (some x)

variable (driver) in
theorem stopAutoEvents (device : String) : Within SameMemory (stopAutoEvents driver device) :=
  stopAutoEvents_within (same fun _ => rfl) fun number =>
    stopSampler_within number (setSchedule number none) (fun _ => same fun _ => rfl)
      fun _ _ => same fun _ => rfl

end SameMemory

theorem memory?_eq_none_iff {k : Nat} : s.memory? k = none ↔ s.sampler? k = none := by
  rw [memory?, sampler?, Option.map_eq_none_iff, Option.map_eq_none_iff]

theorem launched_unhalted (d : Device) (c : Command) (number : Nat) :
    Within (Noting (·.isHalt = false)) (launched driver d c number) :=
  launched_within d c number fun r =>
    launch_within d c number r (fun _ => .of_eq rfl) (fun _ _ => .one rfl rfl) fun _ _ => .of_eq rfl

/-- A refusal of the driver is on record. -/
theorem launched_refuses (d : Device) (c : Command) {plan : Plan} {k : Nat}
    (hk : ∃ r, s.sampler? k = some r ∧ r.plan = plan)
    (refused : accepts driver d c plan s = false) :
    Refuses d c plan s ((launched driver d c k).after s) := by
  obtain ⟨r, hr, rfl⟩ := hk
  rw [sampler?, Option.map_eq_some_iff] at hr
  obtain ⟨r', hr', rfl⟩ := hr
  unfold launched
  rw [after_get_bind, hr']
  dsimp only
  rw [after_bind, after_pure]
  unfold launch
  unfold accepts at refused
  cases hd : driver.sampling with
  | none =>
    rw [hd] at refused
    cases refused
  | some sampling =>
    rw [hd] at refused
    dsimp only
    rw [after_bind, result_onSite]
    let step := Site.startSampling sampling d r'.source c.requests r'.interval r'.onChange
    cases outcome : (step s.site).1 with
    | ok handle =>
      change (step s.site).1.isOk = false at refused
      rw [outcome] at refused
      cases refused
    | error e =>
      have asked : ((onSite step).after s).site.trace = (s.site.now, .driver (.startSampling d
          r'.source c.requests r'.interval r'.onChange (.error e))) :: s.site.trace :=
        outcome ▸ rfl
      exact ⟨[_], asked, _, e, List.mem_singleton_self _⟩

variable (driver) in
/-- A sampler that is launched runs then, or the driver refused. -/
theorem launched_further (d : Device) (c : Command) {plan : Plan} {k : Nat}
    (hk : ∃ r, s.sampler? k = some r ∧ r.plan = plan) :
    let t := (launched driver d c k).after s
    Further s t ∧ (t.runs k = true ∨ Refuses d c plan s t) := by
  intro t
  rcases launched_cases driver d c hk with ⟨-, x, on, -⟩ | ⟨refused, aside⟩
  · refine ⟨.scheduled on (SameMemory.launched d c k s) (launched_unhalted d c k s), .inl ?_⟩
    obtain ⟨r, hr, -⟩ := hk
    rw [runs_eq, on.scheduleOf, if_pos rfl, hr, Option.map_some]
    cases x with
    | timer i => exact (on.live i).trans (by simp)
    | driver handle => rfl
  · exact ⟨.aside aside, .inr (launched_refuses d c hk refused)⟩

/-! ## Samplers and the commands of a device -/

theorem Commanded.startSampler {d : Device} {i : Index} (h : Commanded driver d i s)
    (previous : List Nat) (a : AutoEvent) :
    Commanded driver d i ((startSampler driver d previous a).after s) := by
  have add (interval) := kept_of_still ((Still.scheduling driver).add d.name a interval) d i
  have launch (c number) := kept_of_still ((Still.scheduling driver).launched d c number) d i
  unfold Service.startSampler
  cases Duration.interval? a.interval with
  | none => exact h
  | some interval =>
    have kept := h.index
    dsimp only
    rw [after_bind]
    change Kept d i ((readable? driver d a.source).after s) at kept
    generalize (readable? driver d a.source).after s = u at kept ⊢
    cases (readable? driver d a.source).result s with
    | none => exact kept.commanded
    | some c =>
      dsimp only
      rw [after_get_bind]
      cases u.fitting? previous a interval with
      | some number => exact (launch c number u kept).commanded
      | none =>
        exact (launch c _ _ (add interval u kept)).commanded

/-! ## One auto-event -/

/-- The samplers from before are there, and those of the device. -/
def Before (device : String) (previous : List Nat) (s : Service σ) : Prop :=
  ∀ k ∈ previous, ∃ m, s.memory? k = some m ∧ m.device = device

theorem Before.further {device : String} {previous : List Nat} (h : Before device previous s)
    (further : Further s t) : Before device previous t := fun k hk =>
  let ⟨m, hm, hd⟩ := h k hk
  ⟨m, further.memory hm, hd⟩

/-- What is remembered and what is scheduled is of the same sampler. -/
theorem plan_of_memory? {k : Nat} {m r : Sampler} (hm : s.memory? k = some m)
    (hr : s.sampler? k = some r) : m.plan = r.plan ∧ m.device = r.device := by
  rw [memory?, Option.map_eq_some_iff] at hm
  rw [sampler?, Option.map_eq_some_iff] at hr
  obtain ⟨x, hx, rfl⟩ := hm
  obtain ⟨y, hy, rfl⟩ := hr
  cases hx.symm.trans hy
  exact ⟨rfl, rfl⟩

theorem exists_memory? {k : Nat} {r : Sampler} (hr : s.sampler? k = some r) :
    ∃ m, s.memory? k = some m := by
  rw [sampler?, Option.map_eq_some_iff] at hr
  obtain ⟨y, hy, rfl⟩ := hr
  exact ⟨_, by rw [memory?, hy, Option.map_some]⟩

theorem map_plan_sampler? (s : Service σ) (k : Nat) :
    (s.sampler? k).map (·.plan) = (s.memory? k).map (·.plan) := by
  rw [sampler?, memory?, Option.map_map, Option.map_map]
  rfl

theorem Before.following? {previous : List Nat} {device : String} (h : Before device previous s)
    (further : Further s t) (plan : Plan) :
    t.following? previous plan = s.following? previous plan := by
  refine following?_congr (fun k hk => ?_) plan
  obtain ⟨m, hm, -⟩ := h k hk
  rw [map_plan_sampler?, map_plan_sampler?, hm, further.memory hm]

/-- A refusal stays on record. -/
theorem Refuses.onward {d : Device} {c : Command} {plan : Plan} (h : Refuses d c plan s t)
    (further : Further t u) : Refuses d c plan s u := by
  obtain ⟨new, ht, now, e, hx⟩ := h
  obtain ⟨newer, hu, -⟩ := further.noting
  exact ⟨newer ++ new, by rw [hu, ht, List.append_assoc], now, e, List.mem_append_right _ hx⟩

theorem Refuses.since {d : Device} {c : Command} {plan : Plan} (h : Refuses d c plan t u)
    (trace : ∃ new, t.site.trace = new ++ s.site.trace) : Refuses d c plan s u := by
  obtain ⟨new, hu, now, e, hx⟩ := h
  obtain ⟨old, ht⟩ := trace
  exact ⟨new ++ old, by rw [hu, ht, List.append_assoc], now, e, List.mem_append_left _ hx⟩

namespace Resumes

variable {d : Device} {previous : List Nat} {p : Command × Plan} {k : Nat}

/-- It stays so while others are launched. -/
theorem onward (h : Resumes d previous s t p k) (further : Further t u) :
    Resumes d previous s u p k := by
  obtain ⟨m, hm, plan, device⟩ := h.follows
  refine ⟨⟨m, further.memory hm, plan, device⟩, fun hj => ?_, fun hf => ?_,
    h.runs.imp further.runs fun refused => refused.onward further⟩
  · obtain ⟨same, memory⟩ := h.kept hj
    exact ⟨same, by rw [further.memory hm, ← memory, hm]⟩
  · obtain ⟨unknown, m', hm', snapshot⟩ := h.new hf
    exact ⟨unknown, m', further.memory hm', snapshot⟩

/-- It was so already, seen from before others were launched. -/
theorem since (h : Resumes d previous t u p k) (before : Before d.name previous s)
    (further : Further s t) : Resumes d previous s u p k := by
  have same := before.following? further p.2
  refine ⟨h.follows, fun {j} hj => ?_, fun hf => ?_, h.runs.imp_right fun refused =>
    refused.since (let ⟨new, ht, _⟩ := further.noting; ⟨new, ht⟩)⟩
  · obtain ⟨rfl, memory⟩ := h.kept (same.trans hj)
    obtain ⟨m, hm, -⟩ := before k (following?_some hj).1
    exact ⟨rfl, by rw [memory, further.memory hm, hm]⟩
  · obtain ⟨unknown, fresh⟩ := h.new (same.trans hf)
    exact ⟨further.memory?_eq_none unknown, fresh⟩

/-- A sampler that was not there is new to what came before it as well. -/
theorem unknown (h : Resumes d previous t u p k) (before : Before d.name previous s)
    (new : s.memory? k = none) : t.memory? k = none := by
  cases hf : t.following? previous p.2 with
  | none => exact (h.new hf).1
  | some j =>
    obtain ⟨rfl, -⟩ := h.kept hf
    obtain ⟨m, hm, -⟩ := before k (following?_some hf).1
    rw [new] at hm
    cases hm

end Resumes

variable (driver) in
theorem usable?_cases (s : Service σ) (d : Device) (a : AutoEvent) :
    (usable? driver s d a = none ∧ (Duration.interval? a.interval = none ∨
      (readable? driver d a.source).result s = none)) ∨
    ∃ interval c, Duration.interval? a.interval = some interval ∧
      (readable? driver d a.source).result s = some c ∧
      usable? driver s d a = some (c, ⟨a.source, interval, a.onChange⟩) := by
  unfold usable? AutoEvent.plan?
  cases Duration.interval? a.interval with
  | none => exact .inl ⟨rfl, .inl rfl⟩
  | some interval =>
    change (((commandsOf driver s d).resolve? a.source .get).filter fun c =>
      c.unreadable?.isNone) >>= _ = none ∧ _ ∨ _
    cases readable : (readable? driver d a.source).result s with
    | none =>
      change ((commandsOf driver s d).resolve? a.source .get).filter _ = none at readable
      refine .inl ⟨?_, .inr rfl⟩
      rw [readable]
      rfl
    | some c =>
      change ((commandsOf driver s d).resolve? a.source .get).filter _ = some c at readable
      refine .inr ⟨interval, c, rfl, rfl, ?_⟩
      show ((commandsOf driver s d).resolve? a.source .get).filter _ >>= _ = _
      rw [readable]
      rfl

variable (driver) in
/-- An auto-event that is of use gets a sampler, and any other none. -/
theorem startSampler_resumes {d : Device} {previous : List Nat} (before : Before d.name previous s)
    (a : AutoEvent) :
    let started := startSampler driver d previous a
    let t := started.after s
    Further s t ∧
      ((usable? driver s d a = none ∧ started.result s = none) ∨
        ∃ p k, usable? driver s d a = some p ∧ started.result s = some k ∧
          Resumes d previous s t p k) := by
  intro started t
  have aside : Aside s ((readable? driver d a.source).after s) :=
    index_aside driver d.registration s
  rcases usable?_cases driver s d a with ⟨useless, h⟩ | ⟨interval, c, hi, hc, useful⟩
  · rw [useless]
    unfold t started startSampler
    rcases h with hi | hc
    · rw [hi]
      exact ⟨.refl s, .inl ⟨rfl, rfl⟩⟩
    · cases Duration.interval? a.interval with
      | none => exact ⟨.refl s, .inl ⟨rfl, rfl⟩⟩
      | some interval =>
        dsimp only
        rw [after_bind, result_bind, hc]
        exact ⟨.aside aside, .inl ⟨rfl, rfl⟩⟩
  · rw [useful]
    unfold t started startSampler
    rw [hi]
    dsimp only
    rw [after_bind, result_bind, hc]
    dsimp only
    rw [after_get_bind, result_get_bind]
    have asked := Further.aside aside
    generalize (readable? driver d a.source).after s = u at aside asked ⊢
    let plan : Plan := ⟨a.source, interval, a.onChange⟩
    have same : u.following? previous plan = s.following? previous plan :=
      following?_congr (fun k _ => by rw [aside.sampler?]) plan
    have unchanged (k) : u.memory? k = s.memory? k := by
      rw [memory?, aside.controller]
      rfl
    rw [fitting?_eq]
    cases hf : u.following? previous plan with
    | some k =>
      obtain ⟨hk, r, hr, hp⟩ := following?_some hf
      obtain ⟨launched, runs⟩ := launched_further driver d c ⟨r, hr, hp⟩
      obtain ⟨m, hm, device⟩ := (before.further asked) k hk
      have whole := asked.trans launched
      refine ⟨whole, .inr ⟨_, k, rfl, result_launched driver d c k u, ⟨m, launched.memory hm, ?_,
        device⟩, fun {j} hj => ?_, fun missing => ?_, ?_⟩⟩
      · exact (plan_of_memory? hm hr).1.trans hp
      · obtain rfl := Option.some.inj (hf.symm.trans (same.trans hj))
        exact ⟨rfl, by rw [← unchanged, hm]; exact launched.memory hm⟩
      · rw [show s.following? previous plan = none from missing] at same
        cases hf.symm.trans same
      · obtain ⟨new, trace, -⟩ := asked.noting
        exact runs.imp_right fun refused => refused.since ⟨new, trace⟩
    | none =>
      have added := addSampler_added d.name a interval u
      have grown := Further.addSampler d.name a interval u
      have retains := Retains.addSampler (k := (addSampler d.name a interval).result u) d.name a
        interval u
      dsimp only
      rw [after_bind, result_bind]
      generalize (addSampler d.name a interval).result u = k at added retains ⊢
      generalize (addSampler d.name a interval).after u = v at added retains grown ⊢
      obtain ⟨r, hr, hd, hp, -⟩ := added.sampler
      obtain ⟨m, hm⟩ := exists_memory? hr
      obtain ⟨launched, runs⟩ := launched_further driver d c ⟨r, hr, hp⟩
      obtain ⟨samePlan, sameDevice⟩ := plan_of_memory? hm hr
      have unknown : u.memory? k = none := memory?_eq_none_iff.2 added.sampler?_eq_none
      have whole := asked.trans grown
      refine ⟨whole.trans launched, .inr ⟨_, k, rfl, result_launched driver d c k v, ⟨m,
        launched.memory hm, samePlan.trans hp, sameDevice.trans hd⟩, fun {j} hj => ?_, fun _ => ?_,
        ?_⟩⟩
      · rw [show s.following? previous plan = some j from hj] at same
        cases hf.symm.trans same
      · exact ⟨(unchanged k).symm.trans unknown, m, launched.memory hm, retains.new unknown hm⟩
      · obtain ⟨new, trace, -⟩ := whole.noting
        exact runs.imp_right fun refused => refused.since ⟨new, trace⟩

/-! ## All auto-events of a device -/

variable (driver) in
/-- Each auto-event that is of use gets a sampler, in order, and a new sampler is no other's. -/
theorem startSamplers_resumes {d : Device} {i : Index} {previous : List Nat}
    (before : Before d.name previous s) (commanded : Commanded driver d i s)
    (autoEvents : List AutoEvent) :
    let started := startSamplers driver d previous autoEvents
    let t := started.after s
    Further s t ∧
      List.Forall₂ (Resumes d previous s t) (autoEvents.filterMap (usable? driver s d))
        (started.result s) ∧
      (started.result s).Pairwise fun j k => s.memory? k = none → j ≠ k := by
  induction autoEvents generalizing s with
  | nil => exact ⟨.refl s, .nil, .nil⟩
  | cons a rest ih =>
    intro started t
    obtain ⟨first, found⟩ := startSampler_resumes driver before a
    have commanded' := commanded.startSampler previous a
    obtain ⟨others, resumed, distinct⟩ := ih (before.further first) commanded'
    have sameUse : usable? driver ((startSampler driver d previous a).after s) d =
        usable? driver s d := by
      funext a'
      unfold usable?
      rw [commanded'.commands, commanded.commands]
    rw [sameUse] at resumed
    have split : started.result s = ((startSampler driver d previous a).result s).toList ++
        (startSamplers driver d previous rest).result
          ((startSampler driver d previous a).after s) :=
      result_startSamplers_cons driver d previous a rest s
    have left : t = (startSamplers driver d previous rest).after
        ((startSampler driver d previous a).after s) :=
      after_startSamplers_cons driver d previous a rest s
    rw [← left] at others resumed
    rw [split]
    have later := resumed.imp fun _ _ h => h.since before first
    refine ⟨first.trans others, ?_⟩
    have onward : ((startSamplers driver d previous rest).result
        ((startSampler driver d previous a).after s)).Pairwise fun j k =>
          s.memory? k = none → j ≠ k := by
      refine distinct.imp_of_mem fun {j k} _ hk apart new => apart ?_
      obtain ⟨p, -, h⟩ := Index.exists_of_forall₂ resumed hk
      exact h.unknown before new
    rcases found with ⟨useless, nobody⟩ | ⟨p, k, useful, somebody, h⟩
    · rw [nobody, List.filterMap_cons_none useless, Option.toList_none, List.nil_append]
      exact ⟨later, onward⟩
    · rw [somebody, List.filterMap_cons_some useful, Option.toList_some, List.singleton_append]
      refine ⟨.cons (h.onward others) later, List.pairwise_cons.2 ⟨fun j hj new => ?_, onward⟩⟩
      obtain ⟨q, -, hq⟩ := Index.exists_of_forall₂ resumed hj
      have unknown := hq.unknown before new
      obtain ⟨m, hm, -⟩ := h.follows
      rintro rfl
      rw [hm] at unknown
      cases unknown

end Service

end FieldGateway
