import FieldGateway.Proofs.Sampling.Ledger
import FieldGateway.Proofs.Service.Management
import FieldGateway.Proofs.Service.Run

/-
  What a sampler remembers. Nothing but the sampler itself changes that: commands and probes leave
  every sampler as it is (`Chores`), starts and stops change schedules, a restart takes the sampler
  over as it is, and a new sampler remembers nothing. `Retains` says so of one sampler, and
  `perform_retains` of every operation that does not make it read.
-/

namespace FieldGateway.Service

open FieldGateway.Action

variable {σ : Type}

/-- A sampler without its schedule: what it reads, how often, and what it remembers. -/
def memory? (s : Service σ) (k : Nat) : Option Sampler :=
  (s.controller.samplers.get? k).map fun r => { r with schedule := none }

/-- A sampler is what it was, its schedule apart; a new one remembers nothing. -/
structure Retains (k : Nat) (s t : Service σ) : Prop where
  known {m : Sampler} : s.memory? k = some m → t.memory? k = some m
  new {m : Sampler} : s.memory? k = none → t.memory? k = some m → m.snapshot = none

/-- A timer fires that makes the sampler read. -/
def Operation.samples (k : Nat) (s : Service σ) : Operation σ → Bool
  | .fire timer => s.taskOf timer == some (.sample k)
  | _ => false

namespace Retains

variable {k : Nat} {s t u : Service σ}

theorem of_eq (h : t.memory? k = s.memory? k) : Retains k s t where
  known hm := h.trans hm
  new hs ht := by
    rw [h, hs] at ht
    cases ht

theorem refl (s : Service σ) : Retains k s s := .of_eq rfl

theorem trans (h : Retains k s t) (h' : Retains k t u) : Retains k s u where
  known hm := h'.known (h.known hm)
  new {m} hs hu := by
    cases ht : t.memory? k with
    | none => exact h'.new ht hu
    | some m' =>
      cases (h'.known ht).symm.trans hu
      exact h.new hs ht

instance : Std.Refl (Retains (σ := σ) k) := ⟨refl⟩

instance : IsTrans (Service σ) (Retains k) := ⟨fun _ _ _ => trans⟩

theorem of_samplers (h : SameSamplers s t) : Retains k s t :=
  .of_eq (by rw [memory?, h]; rfl)

theorem same {α : Type} {a : Action σ α} (h : Within SameSamplers a) : Within (Retains k) a :=
  fun s => of_samplers (h s)

/-! ## Schedules -/

/-- What a schedule is changed to is no matter here. -/
theorem setSchedule (number : Nat) (x : Option Schedule) :
    Within (Retains k) (changeSampler (σ := σ) number fun r => { r with schedule := x }) := by
  refine fun s => .of_eq ?_
  show ((s.controller.samplers.modify number _).get? k).map _ = _
  rw [Numbered.get?_modify, memory?]
  split
  · cases s.controller.samplers.get? k <;> rfl
  · rfl

theorem addSampler (device : String) (a : AutoEvent) (interval : Duration) :
    Within (Retains k) (addSampler (σ := σ) device a interval) := by
  intro s
  let r : Sampler := { device, source := a.source, interval, onChange := a.onChange }
  have get : ((Service.addSampler device a interval).after s).memory? k =
      if k = s.controller.samplers.next then some r else s.memory? k := by
    show ((s.controller.samplers.add r).get? k).map _ = _
    rw [Numbered.get?_add]
    split <;> rfl
  -- the number of the new sampler was free, so nothing was remembered under it
  by_cases hk : k = s.controller.samplers.next
  · have none : s.memory? k = none := by
      rw [memory?, (Site.get?_eq_none_iff _ _).2 (Nat.le_of_eq hk.symm)]
      rfl
    refine ⟨fun hm => ?_, fun _ hm => ?_⟩
    · rw [none] at hm
      cases hm
    · rw [get, if_pos hk] at hm
      cases hm
      rfl
  · rw [if_neg hk] at get
    exact .of_eq get

variable (driver : Driver σ)

theorem scheduling : Scheduling driver (Retains (σ := σ) k) where
  take _ := same fun _ => rfl
  stop number :=
    stopSampler_within number (setSchedule number none) (fun _ => same fun _ => rfl)
      fun _ _ => same fun _ => rfl
  add := addSampler
  launched d c number := launched_within d c number fun r =>
    launch_within d c number r (same fun _ => rfl) (fun _ => same fun _ => rfl)
      fun x => setSchedule number (some x)
  hold _ _ := same fun _ => rfl

theorem stopAutoEvents (device : String) : Within (Retains k) (stopAutoEvents driver device) :=
  (scheduling driver).stopAutoEvents device

theorem startAutoEvents (device : String) : Within (Retains k) (startAutoEvents driver device) :=
  (scheduling driver).startAutoEvents (fun _ => same fun _ => rfl) device

/-! ## Profiles and devices -/

theorem sampleRegistered (registered : Except DeviceError Device) :
    Within (Retains k) (sampleRegistered driver registered) :=
  sampleRegistered_within (startAutoEvents driver) registered

theorem insertDevice (config : DeviceConfig) : Within (Retains k) (insertDevice driver config) :=
  same fun s => by
    rcases insertDevice_cases driver config s with ⟨_, _, ha⟩ | ⟨_, _, _, _, i, _⟩
    · rw [ha]
      rfl
    · exact congrArg Controller.samplers i.controller

theorem replaceDevice (config : DeviceConfig) : Within (Retains k) (replaceDevice driver config) :=
  same fun s => by
    rcases replaceDevice_cases driver config s with ⟨_, _, ha⟩ | ⟨_, _, _, _, _, i, _⟩
    · rw [ha]
      rfl
    · exact congrArg Controller.samplers i.controller

theorem dropDevice (name : String) : Within (Retains k) (dropDevice driver name) :=
  same fun s => by
    rcases dropDevice_cases driver name s with ⟨_, _, h⟩ | ⟨_, _, _, controller, _⟩
    · exact congrArg (·.controller.samplers) h
    · exact congrArg Controller.samplers controller

theorem removeDevice (name : String) : Within (Retains k) (removeDevice driver name) :=
  .bind (stopAutoEvents driver name) fun _ =>
    .bind (same (SameSamplers.cancelProbe name)) fun _ => dropDevice driver name

theorem addProfile (p : Profile) : Within (Retains k) (addProfile (σ := σ) p) :=
  addProfile_within p fun _ => same fun _ => rfl

theorem removeProfile (name : String) : Within (Retains k) (removeProfile (σ := σ) name) :=
  removeProfile_within name fun _ => same fun _ => rfl

theorem setAdminState (name : String) (state : AdminState) :
    Within (Retains k) (setAdminState (σ := σ) name state) := by
  refine withDevice_within (fun d => same ?_) name
  exact fun _ => rfl

/-! ## Start and stop -/

theorem start : Within (Retains k) (start driver) :=
  start_within (same fun _ => rfl) (startAutoEvents driver)
    (startCounters_within (fun _ => same fun _ => rfl) (fun _ => same fun _ => rfl)
      fun _ => same fun _ => rfl)
    (same fun _ => rfl)

theorem stop (force : Bool) : Within (Retains k) (stop driver force) :=
  stop_within force (same fun _ => rfl) (scheduling driver).stopAllAutoEvents
    (cancelAllProbes_within (fun _ => same fun _ => rfl) (same fun _ => rfl)) (same fun _ => rfl)
    (fun _ => same fun _ => rfl) (same fun _ => rfl)

/-! ## Timers -/

/-- A sampler remembers nothing for another one. -/
theorem sample {number : Nat} (h : number ≠ k) : Within (Retains k) (sample driver number) := by
  have remember (results : List Result) : Within (Retains k)
      (changeSampler (σ := σ) number fun r => { r with snapshot := some results }) := by
    refine fun s => .of_eq ?_
    show ((s.controller.samplers.modify number _).get? k).map _ = _
    rw [Numbered.get?_modify, if_neg h]
    rfl
  have chores {d : Device} {α : Type} {a : Action σ α} (h : Within (Chores driver d) a) :
      Within (Retains k) a := same fun s => (h s).samplers
  refine sample_within (fun _ => same fun _ => rfl) number fun r d c => ?_
  refine .bind (chores (readRaw_chores driver d c)) fun outcome => ?_
  cases outcome with
  | error e => exact .pure _
  | ok results =>
    have publish := chores (publishResults_chores driver d c results)
    exact .ite (.ite (.bind (remember results) fun _ => publish) (.pure _)) publish

theorem run {task : Task} (h : task ≠ .sample k) : Within (Retains k) (run driver task) := by
  cases task with
  | probe device =>
    intro s
    rcases probe_chores driver device s with chores | ⟨_, ha⟩
    · exact of_samplers chores.samplers
    · show Retains k s ((probe driver device).after s)
      rw [ha]
      exact of_samplers rfl
  | sample number => exact sample driver fun hn => h (hn ▸ rfl)
  | counters => exact same (announceCounters_within fun _ _ _ => rfl)

end Retains

theorem settleTimer_sameSamplers (number fired : Nat) (control : Timer.Control) :
    Within SameSamplers (settleTimer (σ := σ) number fired control) :=
  settleTimer_within number fired control (fun _ => rfl) fun _ _ => rfl

theorem fireTimer_retains (driver : Driver σ) {k timer : Nat} {s : Service σ}
    (h : s.taskOf timer ≠ some (.sample k)) :
    Retains k s ((fireTimer driver timer).after s) := by
  refine fireTimer_within (fun _ => .same fun _ => rfl)
    (fun fired control => .same (settleTimer_sameSamplers timer fired control)) fun x hx => ?_
  exact .run driver fun hk => h (by rw [taskOf, hx, Option.map_some, hk])

/-- An operation that does not make a sampler read leaves it as it is. -/
theorem perform_retains (driver : Driver σ) {k : Nat} {s : Service σ} {op : Operation σ}
    (h : op.samples k s = false) : Retains k s (perform driver s op) := by
  cases op with
  | addProfile p => exact .addProfile p s
  | removeProfile name => exact .removeProfile name s
  | addDevice config =>
    exact Within.bind (.insertDevice driver config) (fun _ => .sampleRegistered driver _) s
  | updateDevice config =>
    exact Within.bind (.replaceDevice driver config) (fun _ => .sampleRegistered driver _) s
  | removeDevice name => exact .removeDevice driver name s
  | setAdminState name state => exact .setAdminState name state s
  | setServiceAdminState state => exact .of_samplers rfl
  | deviceCommand | execute | postReadings | noteSuccess | noteFailure =>
    exact .of_samplers (perform_chores driver rfl s).samplers
  | startAutoEvents name => exact .startAutoEvents driver name s
  | stopAutoEvents name => exact .stopAutoEvents driver name s
  | start => exact .start driver s
  | stop force => exact .stop driver force s
  | fire timer => exact fireTimer_retains driver (by simpa [Operation.samples] using h)
  | pass millis timeOfDay => exact .of_samplers rfl
  | change f => exact .of_samplers rfl

end FieldGateway.Service
