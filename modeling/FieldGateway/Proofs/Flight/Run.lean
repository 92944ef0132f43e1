import FieldGateway.Proofs.Service.Run

/-
  Work in flight. A command, a probe and the reading of a sampler begin by looking their device up
  and end with what the driver answers; anything may happen in between. An `Errand` is such work
  while it waits: it holds the incarnation it began with, whatever became of its name. What the
  driver says is asked at the end; since the devices behind the driver may change at any time, no
  answer is left out by this.

  `atOnce_get`, `atOnce_put`, `atOnce_fire`: work that is begun and ended at once is the work of
  the service. So runs with work in flight (`Flight.run`) are more than the runs of operations.
-/

namespace FieldGateway

namespace Service

open FieldGateway.Action
open Timer (Control)

variable {σ : Type}

/-- Work that waits for the driver. -/
inductive Errand where
  | get (d : Device) (c : Command)
  | put (d : Device) (c : Command) (values : List Value)
  /-- Of a timer that fired at an instant. -/
  | probe (timer fired : Nat) (d : Device) (c : Command)
  | sample (timer fired number : Nat) (r : Sampler) (d : Device) (c : Command)

/-- The incarnation that an errand began with. -/
def Errand.device : Errand → Device
  | get d _ | put d _ _ | probe _ _ d _ | sample _ _ _ _ d _ => d

/-- What may wait for the driver once it has begun. -/
inductive Start where
  | get (device command : String)
  | put (device command : String) (params : Params)
  | fire (timer : Nat)

variable (driver : Driver σ)

/-- What a timer runs, up to where it asks the driver; it is done if there is nothing to ask. -/
def beginTask (timer fired : Nat) : Task → Action σ (Except Control Errand)
  | .probe name => do
    match ← beginProbe driver name with
    | none => return .error .retire
    | some (d, c) => return .ok (.probe timer fired d c)
  | .sample number => do
    let s ← get
    match s.controller.samplers.get? number with
    | none => return .error .retire
    | some r =>
      match s.device? r.device with
      | none => return .error .retire
      | some d =>
        if s.controller.locked || s.site.isLocked d || s.site.isDown d then return .error .again
        else
          let index ← onSite (Site.index driver d.registration)
          match index.resolve? r.source .get with
          | none => return .error .retire
          | some c => return .ok (.sample timer fired number r d c)
  | .counters => return .error (← announceCounters)

/-- A timer waits for the driver, or settles. -/
def settleBegun (timer fired : Nat) : Except Control Errand → Action σ (Option Errand)
  | .error control => do
    settleTimer timer fired control
    return none
  | .ok e => return some e

/-- Does all up to where the driver is asked; nothing waits if there is nothing to ask. -/
def begin : Start → Action σ (Option Errand)
  | .get device command => do
    match ← authorize driver device command .get with
    | .error _ => return none
    | .ok (d, c) =>
      match c.unreadable? with
      | some _ => return none
      | none => return some (.get d c)
  | .put device command params => do
    match ← authorize driver device command .put with
    | .error _ => return none
    | .ok (d, c) =>
      match (← get).intake.values params c.steps with
      | .error _ => return none
      | .ok values => return some (.put d c values)
  | .fire timer => do
    let s ← get
    match s.controller.timers.get? timer with
    | none => return none
    | some t =>
      let (begun, lifecycle) := t.lifecycle.beginFire
      if begun then
        changeLifecycle timer lifecycle
        let fired := s.site.now * Timer.nanosPerMilli
        settleBegun timer fired (← beginTask driver timer fired t.task)
      else return none

/-- Asks the driver, and does what is left to do. -/
def finish : Errand → Action σ Unit
  | .get d c => do
    let _ ← read driver d c
  | .put d c values => do
    let _ ← write driver d c values
  | .probe timer fired d c => do
    let control ← endProbe d (← ask driver d c.requests)
    settleTimer timer fired control
  | .sample timer fired number r d c => do
    sampleNow driver number r d c
    settleTimer timer fired .again

/-- Begins, and ends if anything is left to do. -/
def atOnce (x : Start) : Action σ Unit := do
  match ← begin driver x with
  | none => return
  | some e => finish driver e

/-! ## What begins -/

section

variable {driver} {R : Service σ → Service σ → Prop} [Std.Refl R] [IsTrans (Service σ) R]

/-- Only the commands of a device that is registered are looked up. -/
theorem beginTask_sample_at {s : Service σ} (index : ∀ {name d}, s.device? name = some d →
      Within R (onSite (Site.index driver d.registration))) (timer fired number : Nat) :
    R s ((beginTask driver timer fired (.sample number)).after s) := by
  rw [beginTask, after_get_bind]
  cases s.controller.samplers.get? number with
  | none => exact Std.Refl.refl s
  | some r =>
    dsimp only
    cases hd : s.device? r.device with
    | none => exact Std.Refl.refl s
    | some d =>
      refine Within.ite (.pure _) (.bind (index hd) fun index => ?_) s
      cases index.resolve? r.source .get <;> exact .pure _

theorem beginTask_sample_within (index : ∀ r, Within R (onSite (Site.index driver r)))
    (timer fired number : Nat) : Within R (beginTask driver timer fired (.sample number)) :=
  fun _ => beginTask_sample_at (fun _ => index _) timer fired number

theorem beginTask_at {s : Service σ} (begin : ∀ name, R s ((beginProbe driver name).after s))
    (index : ∀ {name d}, s.device? name = some d →
      Within R (onSite (Site.index driver d.registration)))
    (counters : Within R (announceCounters (σ := σ))) (timer fired : Nat) (task : Task) :
    R s ((beginTask driver timer fired task).after s) := by
  cases task with
  | probe name =>
    rw [beginTask, after_bind]
    cases (beginProbe driver name).result s <;> exact begin name
  | sample number => exact beginTask_sample_at index timer fired number
  | counters => exact Within.bind counters (fun _ => .pure _) s

theorem beginTask_within (begin : ∀ name, Within R (beginProbe driver name))
    (index : ∀ r, Within R (onSite (Site.index driver r)))
    (counters : Within R (announceCounters (σ := σ))) (timer fired : Nat) (task : Task) :
    Within R (beginTask driver timer fired task) :=
  fun s => beginTask_at (fun name => begin name s) (fun _ => index _) counters timer fired task

theorem settleBegun_within {timer fired : Nat}
    (settle : ∀ control, Within R (settleTimer timer fired control))
    (found : Except Control Errand) : Within R (settleBegun timer fired found) := by
  cases found with
  | error control => exact .bind (settle control) fun _ => .pure _
  | ok e => exact .pure _

theorem begin_get_within {device command : String}
    (authorize : Within R (authorize driver device command .get)) :
    Within R (begin driver (.get device command)) := by
  refine .bind authorize fun found => ?_
  cases found with
  | error e => exact .pure _
  | ok p =>
    dsimp only
    cases p.2.unreadable? <;> exact .pure _

theorem begin_put_within {device command : String} {params : Params}
    (authorize : Within R (authorize driver device command .put)) :
    Within R (begin driver (.put device command params)) := by
  refine .bind authorize fun found => ?_
  cases found with
  | error e => exact .pure _
  | ok p =>
    refine .bind .get fun s => ?_
    cases s.intake.values params p.2.steps <;> exact .pure _

theorem begin_fire_within {timer : Nat} (life : ∀ l, Within R (changeLifecycle timer l))
    (task : ∀ fired task, Within R (beginTask driver timer fired task))
    (settle : ∀ fired control, Within R (settleTimer timer fired control)) :
    Within R (begin driver (.fire timer)) := by
  refine .bind .get fun s => ?_
  cases s.controller.timers.get? timer with
  | none => exact .pure _
  | some t =>
    exact .ite (.bind (life _) fun _ => .bind (task _ _) (settleBegun_within (settle _))) (.pure _)

/-- All that begins is within what its parts are within. -/
theorem begin_within
    (authorize : ∀ device command m, Within R (authorize driver device command m))
    (life : ∀ timer l, Within R (changeLifecycle timer l))
    (task : ∀ timer fired task, Within R (beginTask driver timer fired task))
    (settle : ∀ timer fired control, Within R (settleTimer timer fired control)) (x : Start) :
    Within R (begin driver x) := by
  cases x with
  | get device command => exact begin_get_within (authorize device command .get)
  | put device command params => exact begin_put_within (authorize device command .put)
  | fire timer => exact begin_fire_within (life timer) (task timer) (settle timer)

end

/-! ## Work that is ended at once -/

theorem atOnce_get (device command : String) (s : Service σ) :
    (atOnce driver (.get device command)).after s = (runGet driver device command).after s := by
  unfold atOnce begin runGet
  simp only [after_bind, result_bind]
  cases (authorize driver device command .get).result s with
  | error e => rfl
  | ok p =>
    dsimp only
    cases p.2.unreadable? <;> rfl

theorem atOnce_put (device command : String) (params : Params) (s : Service σ) :
    (atOnce driver (.put device command params)).after s =
      (runPut driver device command params).after s := by
  unfold atOnce begin runPut
  simp only [after_bind, result_bind]
  cases (authorize driver device command .put).result s with
  | error e => rfl
  | ok p =>
    simp only [after_get_bind, result_get_bind]
    cases ((authorize driver device command .put).after s).intake.values params p.2.steps <;> rfl

/-- What is left of a task that was begun. -/
def finishTask (timer fired : Nat) : Except Control Errand → Action σ Unit
  | .error control => settleTimer timer fired control
  | .ok e => finish driver e

theorem beginTask_bind (timer fired : Nat) (task : Task) :
    beginTask driver timer fired task >>= finishTask driver timer fired =
      run driver task >>= settleTimer timer fired := by
  cases task with
  | probe name =>
    simp only [beginTask, Service.run, probe, bind_assoc]
    refine bind_congr fun found => ?_
    cases found <;> simp [finishTask, finish]
  | sample number =>
    simp only [beginTask, Service.run, sample, bind_assoc]
    refine bind_congr fun s => ?_
    cases s.controller.samplers.get? number with
    | none => simp [finishTask]
    | some r =>
      dsimp only
      cases s.device? r.device with
      | none => simp [finishTask]
      | some d =>
        dsimp only
        split
        · simp [finishTask]
        · simp only [bind_assoc]
          refine bind_congr fun index => ?_
          cases index.resolve? r.source .get <;> simp [finishTask, finish]
  | counters => simp [beginTask, Service.run, finishTask]

theorem atOnce_fire (timer : Nat) : atOnce driver (.fire timer) = fireTimer driver timer := by
  simp only [atOnce, begin, fireTimer, bind_assoc]
  refine bind_congr fun s => ?_
  cases s.controller.timers.get? timer with
  | none => simp
  | some t =>
    dsimp only
    split
    · simp only [bind_assoc]
      refine bind_congr fun _ => ?_
      rw [← beginTask_bind]
      refine bind_congr fun found => ?_
      cases found <;> simp [settleBegun, finishTask]
    · simp

end Service

/-! ## Runs with work in flight -/

/-- A service, and the work that waits for its driver, the latest last. -/
structure Flight (σ : Type) where
  service : Service σ
  pending : List Service.Errand := []

namespace Flight

open FieldGateway.Action
open Service (Errand Start)

variable {σ : Type}

inductive Move (σ : Type) where
  | perform (op : Service.Operation σ)
  | begin (x : Start)
  /-- The driver answers the errand at a place. -/
  | finish (place : Nat)

variable (driver : Driver σ)

def move (f : Flight σ) : Move σ → Flight σ
  | .perform op => { f with service := f.service.perform driver op }
  | .begin x =>
    let begun := Service.begin driver x
    ⟨begun.after f.service, f.pending ++ (begun.result f.service).toList⟩
  | .finish place =>
    match f.pending[place]? with
    | none => f
    | some e => ⟨(Service.finish driver e).after f.service, f.pending.eraseIdx place⟩

def run (f : Flight σ) (moves : List (Move σ)) : Flight σ := moves.foldl (move driver) f

@[simp] theorem run_nil (f : Flight σ) : f.run driver [] = f := rfl

@[simp] theorem run_cons (f : Flight σ) (m : Move σ) (moves : List (Move σ)) :
    f.run driver (m :: moves) = (f.move driver m).run driver moves := rfl

/-- What every move keeps, every run keeps. -/
theorem run_keeps {driver : Driver σ} {P : Flight σ → Prop}
    (step : ∀ f m, P f → P (move driver f m)) (f : Flight σ) (moves : List (Move σ)) (h : P f) :
    P (f.run driver moves) := by
  induction moves generalizing f with
  | nil => exact h
  | cons m moves ih => exact ih _ (step f m h)

/-- Without work in flight a run is a run of the service. -/
theorem run_perform (f : Flight σ) (ops : List (Service.Operation σ)) :
    f.run driver (ops.map .perform) = { f with service := f.service.performAll driver ops } := by
  induction ops generalizing f with
  | nil => rfl
  | cons op ops ih => exact ih _

end Flight

end FieldGateway
