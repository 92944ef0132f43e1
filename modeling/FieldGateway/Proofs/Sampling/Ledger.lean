import FieldGateway.Proofs.Service.Noting
import FieldGateway.Service.Management

/-
  Who holds what for sampling: which timers sample, which schedule a sampler is on, and how often
  the driver took up a sampling under a handle and was told to stop it. Relations between services
  say all that happens to this: nothing, but that timers may end (`SameSampling`) or not even that
  (`Aside`), a sampler is put on a schedule (`Scheduled`), a sampler is taken off the one it is on
  (`Unscheduled`).
-/

namespace FieldGateway

/-! ## Counting -/

namespace Numbered

variable {α : Type} (t : Numbered α) (p : α → Bool)

/-- How many of the things have a property. -/
def count : Nat := t.toList.countP p

theorem count_add (x : α) : (t.add x).count p = t.count p + if p x then 1 else 0 := by
  simp [count, toList, add, List.countP_cons]

theorem countP_modify (f : α → α) (xs : List α) (i : Nat) {x : α} (h : xs[i]? = some x) :
    (xs.modify i f).countP p + (if p x then 1 else 0) =
      xs.countP p + if p (f x) then 1 else 0 := by
  induction xs generalizing i with
  | nil => cases h
  | cons y ys ih =>
    cases i with
    | zero =>
      cases h
      simp only [List.modify_zero_cons, List.countP_cons]
      omega
    | succ i =>
      have := ih i (by simpa using h)
      simp only [List.modify_succ_cons, List.countP_cons]
      omega

theorem count_modify (f : α → α) (i : Nat) {x : α} (h : t.get? i = some x) :
    (t.modify i f).count p + (if p x then 1 else 0) = t.count p + if p (f x) then 1 else 0 := by
  have := countP_modify p f t.toList i (by simpa [get?, toList] using h)
  simpa [count, toList, modify] using this

theorem modify_of_get?_eq_none (f : α → α) (i : Nat) (h : t.get? i = none) :
    t.modify i f = t := by
  have hi : ¬ i < t.items.size := by simpa [get?] using h
  simp [modify, Array.modify, Array.modifyM, hi]

end Numbered

/-! ## Handles -/

namespace Effect

/-- The driver took up a sampling under this handle. -/
def starts (handle : Handle) : Effect → Bool
  | .driver (.startSampling _ _ _ _ _ (.ok h)) => h == handle
  | _ => false

/-- The driver was told to stop the sampling of this handle. -/
def stops (handle : Handle) : Effect → Bool
  | .driver (.stopSampling h) => h == handle
  | _ => false

/-- Nothing that has to do with the samplings of the driver. -/
def IsNoSampling (e : Effect) : Prop := ∀ h, e.starts h = false ∧ e.stops h = false

theorem isNoSampling_of_isExchange_eq_false {e : Effect} (h : e.isExchange = false) :
    e.IsNoSampling := by
  cases e with
  | driver x => cases h
  | _ => exact fun _ => ⟨rfl, rfl⟩

end Effect

namespace Service

variable {σ : Type} (s : Service σ)

/-- How often the driver took up a sampling under a handle. -/
def started (handle : Handle) : Nat := s.site.trace.countP (·.2.starts handle)

/-- How often the driver was told to stop the sampling of a handle. -/
def stopped (handle : Handle) : Nat := s.site.trace.countP (·.2.stops handle)

/-! ## Timers and samplers -/

/-- What a timer runs, if it is set. -/
def taskOf (timer : Nat) : Option Task := (s.controller.timers.get? timer).map (·.task)

/-- A sampler without what it remembers. -/
def sampler? (number : Nat) : Option Sampler :=
  (s.controller.samplers.get? number).map fun r => { r with snapshot := none }

def scheduleOf (number : Nat) : Option Schedule := (s.sampler? number).bind (·.schedule)

/-- How many samplers are on the driver's schedule of a handle. -/
def holders (handle : Handle) : Nat :=
  s.controller.samplers.count fun r => r.schedule == some (.driver handle)

/-! ## What happens to schedules -/

variable {s} {t u : Service σ}

/-- No sampler changes its schedule, and no schedule anything but that it may end. -/
structure SameSampling (s t : Service σ) : Prop where
  sampling : t.controller.sampling = s.controller.sampling
  sampler (k : Nat) : t.sampler? k = s.sampler? k
  task {i : Nat} {x : Task} : s.taskOf i = some x → t.taskOf i = some x
  fresh {i k : Nat} : t.taskOf i = some (.sample k) → s.taskOf i = some (.sample k)
  live {i k : Nat} : s.taskOf i = some (.sample k) → t.isLive i = true → s.isLive i = true
  started (h : Handle) : t.started h = s.started h
  stopped (h : Handle) : t.stopped h = s.stopped h
  holders (h : Handle) : t.holders h = s.holders h
  counters {i : Nat} : t.controller.countersTimer = some i →
    s.controller.countersTimer = some i ∨ t.taskOf i = some .counters

/-- Nothing happened but at the site, and nothing there to the samplings of the driver. -/
structure Aside (s t : Service σ) : Prop where
  controller : t.controller = s.controller
  noting : Noting Effect.IsNoSampling s t

/-- A sampler is put on a schedule, whatever it was on. A timer is a new one. -/
structure Scheduled (k : Nat) (x : Schedule) (s t : Service σ) : Prop where
  sampling : t.controller.sampling = s.controller.sampling
  sampler (j : Nat) : t.sampler? j =
    if j = k then (s.sampler? j).map fun r => { r with schedule := some x } else s.sampler? j
  task (i : Nat) : t.taskOf i = if x = .timer i then some (.sample k) else s.taskOf i
  fresh {i : Nat} : x = .timer i → s.taskOf i = none
  live (i : Nat) : t.isLive i = (decide (x = .timer i) || s.isLive i)
  started (h : Handle) : t.started h = s.started h + if x = .driver h then 1 else 0
  stopped (h : Handle) : t.stopped h = s.stopped h
  holders (h : Handle) : t.holders h + (if s.scheduleOf k = some (.driver h) then 1 else 0) =
    s.holders h + if x = .driver h then 1 else 0
  counters : t.controller.countersTimer = s.controller.countersTimer

/-- A sampler is taken off the schedule it is on, which ends; only a driver that samples can be
told. -/
structure Unscheduled (driver : Driver σ) (k : Nat) (s t : Service σ) : Prop where
  sampling : t.controller.sampling = s.controller.sampling
  sampler (j : Nat) : t.sampler? j =
    if j = k then (s.sampler? j).map fun r => { r with schedule := none } else s.sampler? j
  task (i : Nat) : t.taskOf i = s.taskOf i
  live (i : Nat) : t.isLive i = (s.isLive i && decide (s.scheduleOf k ≠ some (.timer i)))
  started (h : Handle) : t.started h = s.started h
  stopped (h : Handle) : t.stopped h = s.stopped h +
    if driver.sampling.isSome = true ∧ s.scheduleOf k = some (.driver h) then 1 else 0
  holders (h : Handle) :
    t.holders h + (if s.scheduleOf k = some (.driver h) then 1 else 0) = s.holders h
  counters : t.controller.countersTimer = s.controller.countersTimer

namespace SameSampling

theorem refl (s : Service σ) : SameSampling s s :=
  ⟨rfl, fun _ => rfl, id, id, fun _ => id, fun _ => rfl, fun _ => rfl, fun _ => rfl, .inl⟩

theorem trans (h : SameSampling s t) (h' : SameSampling t u) : SameSampling s u where
  sampling := h'.sampling.trans h.sampling
  sampler k := (h'.sampler k).trans (h.sampler k)
  task hx := h'.task (h.task hx)
  fresh hx := h.fresh (h'.fresh hx)
  live hx hl := h.live hx (h'.live (h.task hx) hl)
  started k := (h'.started k).trans (h.started k)
  stopped k := (h'.stopped k).trans (h.stopped k)
  holders k := (h'.holders k).trans (h.holders k)
  counters hi := (h'.counters hi).elim
    (fun hi => (h.counters hi).imp_right fun hx => h'.task hx) .inr

instance : Std.Refl (SameSampling (σ := σ)) := ⟨refl⟩

instance : IsTrans (Service σ) SameSampling := ⟨fun _ _ _ => trans⟩

end SameSampling

theorem SameSampling.scheduleOf (h : SameSampling s t) (k : Nat) :
    t.scheduleOf k = s.scheduleOf k := by
  rw [Service.scheduleOf, h.sampler]
  rfl

theorem Scheduled.scheduleOf {k : Nat} {x : Schedule} (h : Scheduled k x s t) (j : Nat) :
    t.scheduleOf j = if j = k then (s.sampler? j).map fun _ => x else s.scheduleOf j := by
  rw [Service.scheduleOf, h.sampler]
  split
  · cases s.sampler? j <;> rfl
  · rfl

/-- A timer that has a task is not the new one. -/
theorem Scheduled.ne_timer {k i : Nat} {x : Schedule} {task : Task} (h : Scheduled k x s t)
    (ht : s.taskOf i = some task) : x ≠ .timer i := by
  intro hx
  rw [h.fresh hx] at ht
  cases ht

theorem Scheduled.keeps_task {k i : Nat} {x : Schedule} {task : Task} (h : Scheduled k x s t)
    (ht : s.taskOf i = some task) : t.taskOf i = some task := by
  rw [h.task, if_neg (h.ne_timer ht), ht]

theorem Scheduled.keeps_device {k j : Nat} {x : Schedule} {device : String}
    (h : Scheduled k x s t) (hj : ∃ r, s.sampler? j = some r ∧ r.device = device) :
    ∃ r, t.sampler? j = some r ∧ r.device = device := by
  obtain ⟨r, hr, hd⟩ := hj
  rw [h.sampler, hr]
  split
  · exact ⟨_, rfl, hd⟩
  · exact ⟨r, rfl, hd⟩

theorem Unscheduled.keeps_device {driver : Driver σ} {k j : Nat} {device : String}
    (h : Unscheduled driver k s t) (hj : ∃ r, s.sampler? j = some r ∧ r.device = device) :
    ∃ r, t.sampler? j = some r ∧ r.device = device := by
  obtain ⟨r, hr, hd⟩ := hj
  rw [h.sampler, hr]
  split
  · exact ⟨_, rfl, hd⟩
  · exact ⟨r, rfl, hd⟩

theorem Unscheduled.scheduleOf {driver : Driver σ} {k : Nat} (h : Unscheduled driver k s t)
    (j : Nat) : t.scheduleOf j = if j = k then none else s.scheduleOf j := by
  rw [Service.scheduleOf, h.sampler]
  split
  · cases s.sampler? j <;> rfl
  · rfl

end Service

end FieldGateway
