import FieldGateway.Proofs.Service.Within
import Mathlib.Logic.Relation

/-
  Work with a device: what reading, writing, sampling and probing are made of. `WorkStep` lists
  the steps, `Work` is any number of them. Whatever holds of every step holds of all work
  (`Work.keeps`), so what commands, samplers and probes do to a service is looked at once, step
  by step. All of it but the work of samplers leaves every sampler as it is: it is `Chores`
  (`read_chores`, `write_chores`, `execute_chores`, `postReadings_chores`, `probe_chores`, and
  `sample_work`).
-/

namespace FieldGateway.Service

open FieldGateway.Action

variable {σ : Type} (driver : Driver σ)

inductive WorkStep (d : Device) : Service σ → Service σ → Prop
  | index (s) : WorkStep d s ((onSite (Site.index driver d.registration)).after s)
  | address (s) : WorkStep d s ((onSite (Site.address driver d)).after s)
  | read (a : Address) (requests : List Request) (s) :
      WorkStep d s ((onSite (Site.read driver d a requests)).after s)
  | write (a : Address) (requests : List Request) (values : List Value) (s) :
      WorkStep d s ((onSite (Site.write driver d a requests values)).after s)
  | success (s) : WorkStep d s ((reportSuccess d).after s)
  | failure (reason : String) (s) : WorkStep d s ((reportFailure d reason).after s)
  | violation (reason : String) (s) : WorkStep d s ((forceDown d reason).after s)
  | countRead (s) : WorkStep d s ((countRead : Action σ Unit).after s)
  | touch (s) : WorkStep d s ((touch d).after s)
  | cook (c : Command) (results : List Result) (s) : WorkStep d s ((cook d c results).after s)
  | publish (e : CookedEvent) (s) : WorkStep d s ((publish e).after s)
  /-- A sampler remembers results. -/
  | remember (number : Nat) (results : List Result) (s) :
      WorkStep d s
        ((changeSampler number fun r => { r with snapshot := some results }).after s)

def Work (d : Device) : Service σ → Service σ → Prop := Relation.ReflTransGen (WorkStep driver d)

instance (d : Device) : Std.Refl (Work driver d) := ⟨fun _ => .refl⟩

instance (d : Device) : IsTrans (Service σ) (Work driver d) := ⟨fun _ _ _ => .trans⟩

/-- What every step keeps, all work keeps. -/
theorem Work.keeps {driver : Driver σ} {d : Device} {P : Service σ → Prop}
    (step : ∀ {s t}, WorkStep driver d s t → P s → P t) {s t : Service σ}
    (h : Work driver d s t) (hs : P s) : P t := by
  induction h with
  | refl => exact hs
  | tail _ hstep ih => exact step hstep ih

theorem WorkStep.within {driver : Driver σ} {d : Device} {α : Type} {a : Action σ α}
    (h : ∀ s, WorkStep driver d s (a.after s)) : Within (Work driver d) a :=
  fun s => .single (h s)

/-! ## What no sampler remembers -/

/-- Every sampler is on the same schedule and remembers the same. -/
def SameSamplers (s t : Service σ) : Prop := t.controller.samplers = s.controller.samplers

namespace SameSamplers

instance : Std.Refl (SameSamplers (σ := σ)) := ⟨fun _ => rfl⟩

instance : IsTrans (Service σ) SameSamplers := ⟨fun _ _ _ h h' => h'.trans h⟩

theorem cancelProbe (name : String) : Within SameSamplers (cancelProbe (σ := σ) name) :=
  cancelProbe_within name (fun _ => rfl) fun _ _ => rfl

theorem reporting (d : Device) : Reporting d (SameSamplers (σ := σ)) where
  enter _ _ := rfl
  sayUp _ := rfl
  sayDown _ _ := rfl
  report _ := report_within fun _ => rfl
  arm := armProbe_within d.name (fun _ _ => rfl) fun _ _ => rfl
  cancel := cancelProbe d.name

theorem touch (d : Device) : Within SameSamplers (touch (σ := σ) d) := touch_within fun _ => rfl

theorem publish (e : CookedEvent) : Within SameSamplers (publish (σ := σ) e) :=
  publish_within e (fun _ _ => rfl) (fun _ => rfl) fun _ => rfl

end SameSamplers

/-- Work in which no sampler remembers anything new. -/
structure Chores (d : Device) (s t : Service σ) : Prop where
  work : Work driver d s t
  samplers : SameSamplers s t

namespace Chores

instance (d : Device) : Std.Refl (Chores driver d) := ⟨fun _ => ⟨.refl, rfl⟩⟩

instance (d : Device) : IsTrans (Service σ) (Chores driver d) :=
  ⟨fun _ _ _ h h' => ⟨h.work.trans h'.work, h'.samplers.trans h.samplers⟩⟩

variable (d : Device)

theorem index : Within (Chores driver d) (onSite (Site.index driver d.registration)) :=
  fun s => ⟨.single (.index s), rfl⟩

theorem success : Within (Chores driver d) (reportSuccess d) :=
  fun s => ⟨.single (.success s), (SameSamplers.reporting d).success s⟩

theorem failure (reason : String) : Within (Chores driver d) (reportFailure d reason) :=
  fun s => ⟨.single (.failure reason s), (SameSamplers.reporting d).failure reason s⟩

/-- All that asking the device takes. -/
theorem asking : Asking driver d (Chores driver d) where
  address s := ⟨.single (.address s), rfl⟩
  read a requests s := ⟨.single (.read a requests s), rfl⟩
  success := success driver d
  failure := failure driver d
  violation reason s :=
    ⟨.single (.violation reason s), (SameSamplers.reporting d).violation reason s⟩
  touch s := ⟨.single (.touch s), SameSamplers.touch d s⟩

theorem countRead : Within (Chores driver d) (countRead : Action σ Unit) :=
  fun s => ⟨.single (.countRead s), rfl⟩

theorem cook (c : Command) (results : List Result) : Within (Chores driver d) (cook d c results) :=
  fun s => ⟨.single (.cook c results s), rfl⟩

theorem publish (e : CookedEvent) : Within (Chores driver d) (publish e) :=
  fun s => ⟨.single (.publish e s), SameSamplers.publish e s⟩

variable {driver d}

theorem within_work {α : Type} {a : Action σ α} (h : Within (Chores driver d) a) :
    Within (Work driver d) a :=
  fun s => (h s).work

end Chores

/-! ## Parts of commands -/

theorem readRaw_chores (d : Device) (c : Command) : Within (Chores driver d) (readRaw driver d c) :=
  (Chores.asking driver d).readRaw (Chores.countRead driver d) c

theorem read_chores (d : Device) (c : Command) : Within (Chores driver d) (read driver d c) :=
  (Chores.asking driver d).readCooked (Chores.countRead driver d) c (Chores.cook driver d c)

theorem write_chores (d : Device) (c : Command) (values : List Value) :
    Within (Chores driver d) (write driver d c values) :=
  (Chores.asking driver d).write (fun a requests values s =>
    ⟨.single (.write a requests values s), rfl⟩) c values

/-! ## Commands -/

/-- Work with the device that is registered under a name, or nothing at all. -/
def WorkOn (name : String) (s t : Service σ) : Prop :=
  t = s ∨ ∃ d, s.device? name = some d ∧ Work driver d s t

/-- Work of this kind in which no sampler remembers anything new. -/
def ChoresOn (name : String) (s t : Service σ) : Prop :=
  t = s ∨ ∃ d, s.device? name = some d ∧ Chores driver d s t

variable {driver} in
theorem ChoresOn.workOn {name : String} {s t : Service σ} (h : ChoresOn driver name s t) :
    WorkOn driver name s t :=
  h.imp_right fun ⟨d, hd, chores⟩ => ⟨d, hd, chores.work⟩

variable {driver} in
theorem ChoresOn.samplers {name : String} {s t : Service σ} (h : ChoresOn driver name s t) :
    SameSamplers s t := by
  rcases h with rfl | ⟨_, _, chores⟩
  · rfl
  · exact chores.samplers

theorem ChoresOn.of_within {driver : Driver σ} {d : Device} {name : String} {α : Type}
    {a : Action σ α} {s : Service σ} (hd : s.device? name = some d)
    (h : Within (Chores driver d) a) : ChoresOn driver name s (a.after s) :=
  .inr ⟨d, hd, h s⟩

/-- Who may run a command now: nobody, and nothing was done, or the device that is registered. -/
theorem authorize_cases (device command : String) (m : Method) (s : Service σ) :
    (∃ e, (authorize driver device command m).result s = .error e ∧
      (authorize driver device command m).after s = s) ∨
    ∃ d, s.device? device = some d ∧
      Chores driver d s ((authorize driver device command m).after s) ∧
      ∀ p, (authorize driver device command m).result s = .ok p → p.1 = d := by
  unfold authorize
  simp only [after_get_bind, result_get_bind]
  by_cases hl : s.controller.locked = true
  · simp only [if_pos hl]
    exact .inl ⟨_, rfl, rfl⟩
  simp only [if_neg hl]
  cases hd : s.device? device with
  | none => exact .inl ⟨_, rfl, rfl⟩
  | some d =>
    refine .inr ⟨d, rfl, ?_⟩
    have hw := resolve_within (Chores.index driver d) command m s
    simp only [after_bind, result_bind]
    cases (resolve driver d command m).result s with
    | error e => exact ⟨hw, fun _ h => by cases h⟩
    | ok c =>
      simp only [after_get_bind, result_get_bind]
      cases ((resolve driver d command m).after s).obstacle? d c with
      | some e => exact ⟨hw, fun _ h => by cases h⟩
      | none => exact ⟨hw, fun _ h => by cases h; rfl⟩

/-- A command that is authorized and then worked on is chores on its device. -/
theorem authorized_chores {α : Type} (device command : String) (m : Method)
    (next : Except CommandError (Device × Command) → Action σ α)
    (refused : ∀ e s, (next (.error e)).after s = s)
    (granted : ∀ d c, Within (Chores driver d) (next (.ok (d, c)))) (s : Service σ) :
    ChoresOn driver device s ((authorize driver device command m >>= next).after s) := by
  rw [after_bind]
  rcases authorize_cases driver device command m s with ⟨e, hr, ha⟩ | ⟨d, hd, hw, hr⟩
  · rw [hr, ha]
    exact .inl (refused e s)
  · refine .inr ⟨d, hd, ?_⟩
    cases h : (authorize driver device command m).result s with
    | error e => rw [refused]; exact hw
    | ok p =>
      have hp : p.1 = d := hr p h
      obtain ⟨d', c⟩ := p
      cases hp
      exact IsTrans.trans _ _ _ hw (granted _ c _)

/-- Reads, if that was granted. -/
def readGranted (found : Except CommandError (Device × Command)) :
    Action σ (Except CommandError CookedEvent) :=
  match found with
  | .error e => return .error e
  | .ok (d, c) =>
    match c.unreadable? with
    | some resource => return .error (.notReadable resource)
    | none => do return (← read driver d c).map (·.2)

/-- A command that reads, and what is done with its event. -/
theorem runGet_bind_chores {α : Type} (device command : String)
    (next : Except CommandError CookedEvent → Action σ α)
    (refused : ∀ e s, (next (.error e)).after s = s)
    (granted : ∀ d event, Within (Chores driver d) (next (.ok event))) (s : Service σ) :
    ChoresOn driver device s ((runGet driver device command >>= next).after s) := by
  refine authorized_chores driver device command .get
    (fun found => readGranted driver found >>= next) refused (fun d c => ?_) s
  have finish (outcome : Except CommandError CookedEvent) :
      Within (Chores driver d) (next outcome) := by
    cases outcome with
    | error e => intro s; rw [refused]; exact Std.Refl.refl _
    | ok event => exact granted d event
  refine .bind ?_ finish
  unfold readGranted
  dsimp only
  split
  · exact .pure _
  · exact .bind (read_chores driver d c) fun _ => .pure _

theorem runPut_chores (device command : String) (params : Params) (s : Service σ) :
    ChoresOn driver device s ((runPut driver device command params).after s) := by
  refine authorized_chores driver device command .put _ (fun _ _ => rfl) (fun d c => ?_) s
  refine .bind .get fun t => ?_
  cases t.intake.values params c.steps with
  | error e => exact .pure _
  | ok values => exact write_chores driver d c values

theorem answerPut_chores (device command : String) (params : Params) (s : Service σ) :
    ChoresOn driver device s ((answerPut driver device command params).after s) := by
  have hs : (answerPut driver device command params).after s =
      (runPut driver device command params).after s := by
    unfold answerPut
    rw [after_bind]
    split <;> rfl
  rw [hs]
  exact runPut_chores driver device command params s

theorem deviceCommand_chores (device command : String) (m : Method) (params : Params)
    (s : Service σ) :
    ChoresOn driver device s ((deviceCommand driver device command m params).after s) := by
  cases m with
  | get =>
    unfold deviceCommand
    dsimp only
    refine runGet_bind_chores driver device command _ ?_ ?_ s
    · exact fun _ _ => rfl
    · exact fun _ _ => .pure _
  | put => exact answerPut_chores driver device command params s

theorem execute_chores (r : CommandRequest) (s : Service σ) :
    ChoresOn driver r.device s ((execute driver r).after s) := by
  unfold execute
  cases r.method with
  | get =>
    refine runGet_bind_chores driver r.device r.command _ (fun _ _ => rfl) (fun d event => ?_) s
    exact .ite (.bind (Chores.publish driver d event) fun _ => .pure _) (.pure _)
  | put => exact answerPut_chores driver r.device r.command r.params s

theorem postReadings_chores (device source : String) (results : List Result) (s : Service σ) :
    ChoresOn driver device s ((postReadings driver device source results).after s) := by
  unfold postReadings
  rw [after_get_bind]
  cases hd : s.device? device with
  | none => exact .inl rfl
  | some d =>
    dsimp only
    refine .of_within hd (.ite (.pure _) (.bind (Chores.index driver d) fun index => ?_))
    cases index.resolve? source .get with
    | none => exact .pure _
    | some c =>
      refine .ite (.bind (Chores.cook driver d c results) fun outcome => ?_)
        (.bind ((Chores.asking driver d).violated _) fun _ => .pure _)
      cases outcome with
      | error e => exact .pure _
      | ok event => exact .bind (Chores.publish driver d event) fun _ => .pure _

/-- A step on a device is chores on it, if it is made of such. -/
theorem withDevice_chores {step : Device → Action σ Unit}
    (h : ∀ d, Within (Chores driver d) (step d)) (name : String) (s : Service σ) :
    ChoresOn driver name s ((withDevice name step).after s) := by
  unfold withDevice
  rw [after_get_bind]
  cases hd : s.device? name with
  | none => exact .inl rfl
  | some d => exact .of_within hd (.bind (h d) fun _ => .pure _)

/-! ## What timers run -/

theorem publishResults_chores (d : Device) (c : Command) (results : List Result) :
    Within (Chores driver d) (publishResults d c results) :=
  publishResults_within (Chores.cook driver d c results) (Chores.publish driver d)

theorem sampleNow_work (number : Nat) (r : Sampler) (d : Device) (c : Command) :
    Within (Work driver d) (sampleNow driver number r d c) := by
  refine .bind (Chores.within_work (readRaw_chores driver d c)) fun outcome => ?_
  cases outcome with
  | error e => exact .pure _
  | ok results =>
    have publish := Chores.within_work (publishResults_chores driver d c results)
    exact .ite (.ite (.bind (WorkStep.within (.remember number results)) fun _ => publish)
      (.pure _)) publish

theorem sample_work (number : Nat) (s : Service σ) :
    ∃ name, WorkOn driver name s ((sample driver number).after s) := by
  unfold sample
  rw [after_get_bind]
  cases s.controller.samplers.get? number with
  | none => exact ⟨"", .inl rfl⟩
  | some r =>
    refine ⟨r.device, ?_⟩
    dsimp only
    cases hd : s.device? r.device with
    | none => exact .inl rfl
    | some d =>
      have index := Chores.within_work (Chores.index driver d)
      refine .inr ⟨d, hd, Within.ite (.pure _) (.bind index fun index => ?_) s⟩
      cases index.resolve? r.source .get with
      | none => exact .pure _
      | some c => exact .bind (sampleNow_work driver number r d c) fun _ => .pure _

theorem ask_chores (d : Device) (requests : List Request) :
    Within (Chores driver d) (ask driver d requests) :=
  (Chores.asking driver d).ask requests

/-- A probe works on the device, unless there is none any more; then it forgets itself. -/
theorem probe_chores (name : String) (s : Service σ) :
    ChoresOn driver name s ((probe driver name).after s) ∨
      s.device? name = none ∧ (probe driver name).after s = (forgetProbe name).after s := by
  unfold probe beginProbe
  rw [after_bind_assoc, after_get_bind]
  cases hd : s.device? name with
  | none => exact .inr ⟨rfl, rfl⟩
  | some d =>
    refine .inl ?_
    dsimp only
    split
    · rw [after_bind_assoc]
      refine .of_within hd (.bind (Chores.index driver d) fun index => .pure_bind ?_)
      cases index.probe? with
      | none => exact .pure _
      | some c =>
        refine .bind (ask_chores driver d c.requests) fun answer => ?_
        cases answer with
        | ok _ => exact .bind (Chores.success driver d) fun _ => .pure _
        | error e => exact .pure _
    · exact .inl rfl

/-- Work on a device, forgetting a probe and saying the counters are all that timers do. -/
theorem run_within {R : Service σ → Service σ → Prop}
    (work : ∀ {name s t}, WorkOn driver name s t → R s t)
    (forget : ∀ name, Within R (forgetProbe name)) (counters : Within R announceCounters)
    (task : Task) : Within R (run driver task) := by
  cases task with
  | probe device =>
    intro s
    rcases probe_chores driver device s with h | ⟨_, h⟩
    · exact work h.workOn
    · exact h ▸ forget device s
  | sample number =>
    intro s
    obtain ⟨_, h⟩ := sample_work driver number s
    exact work h
  | counters => exact counters

end FieldGateway.Service
