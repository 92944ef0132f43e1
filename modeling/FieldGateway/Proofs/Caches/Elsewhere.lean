import FieldGateway.Proofs.Service.Noting

/-
  What has nothing to do with the values that are made on first use, the commands of a profile and
  the address of a device. `Elsewhere` relates services with the same registry, the same commands
  and the same addresses, of which the second has the trace of the first with anything on top but
  parsed attributes, addresses, readings and writings (`Effect.isElsewhere`). Reports, timers,
  samplers, announcements and events are all elsewhere.
-/

namespace FieldGateway

/-- No attributes are parsed, and nothing is asked of a device. -/
def Effect.isElsewhere : Effect → Bool
  | .driver (.parse ..) | .driver (.address ..) | .driver (.read ..) | .driver (.write ..) => false
  | _ => true

/-- What is in a list keeps its place while the list grows. -/
theorem getElem?_of_isPrefix {α : Type} {xs ys : List α} (h : xs <+: ys) {i : Nat} {x : α}
    (hx : xs[i]? = some x) : ys[i]? = some x := by
  obtain ⟨more, rfl⟩ := h
  rw [List.getElem?_append_left (List.getElem?_eq_some_iff.1 hx).1, hx]

/-- What is in a list that has grown by one was there before, or it is the new one. -/
theorem getElem?_of_concat {α : Type} {xs : List α} {x y : α} {i : Nat}
    (h : (xs ++ [x])[i]? = some y) : i < xs.length ∧ xs[i]? = some y ∨ i = xs.length ∧ y = x := by
  by_cases hi : i < xs.length
  · rw [List.getElem?_append_left hi] at h
    exact .inl ⟨hi, h⟩
  · have last := (List.getElem?_eq_some_iff.1 h).1
    rw [List.length_append, List.length_singleton] at last
    obtain rfl : i = xs.length := by omega
    rw [List.getElem?_concat_length] at h
    exact .inr ⟨rfl, (Option.some.inj h).symm⟩

/-- A report says nothing of the address. -/
theorem Condition.address_following (c : Condition) (allowed : Nat) (r : Report) :
    (c.following allowed r).address = c.address := by
  cases r with
  | success | violation => rfl
  | failure =>
    unfold following
    dsimp only
    split <;> rfl

namespace Site

variable {σ : Type}

/-- A condition with the address of the old one is in its place. -/
theorem address_setCondition {s : Site σ} {d : Device} {c : Condition}
    (same : c.address = (s.condition d).address) (e : Device) :
    ((s.setCondition d c).condition e).address = (s.condition e).address := by
  by_cases known : s.Knows d
  · rw [condition_setCondition known]
    split
    · rename_i serial
      rw [same, condition, condition, serial]
    · rfl
  · rw [setCondition_of_not_knows known]

end Site

namespace Service

open FieldGateway.Action
open Timer (Control)

variable {σ : Type} {s t u : Service σ}

structure Elsewhere (s t : Service σ) : Prop where
  noting : Noting (·.isElsewhere = true) s t
  registry : t.site.registry = s.site.registry
  indexes : t.site.indexes = s.site.indexes
  next : t.site.conditions.next = s.site.conditions.next
  address (d : Device) : (t.site.condition d).address = (s.site.condition d).address

namespace Elsewhere

theorem refl (s : Service σ) : Elsewhere s s := ⟨.of_eq rfl, rfl, rfl, rfl, fun _ => rfl⟩

theorem trans (h : Elsewhere s t) (h' : Elsewhere t u) : Elsewhere s u where
  noting := h.noting.trans h'.noting
  registry := h'.registry.trans h.registry
  indexes := h'.indexes.trans h.indexes
  next := h'.next.trans h.next
  address d := (h'.address d).trans (h.address d)

instance : Std.Refl (Elsewhere (σ := σ)) := ⟨refl⟩

instance : IsTrans (Service σ) Elsewhere := ⟨fun _ _ _ => trans⟩

theorem onSite (noting : Noting (·.isElsewhere = true) s t)
    (registry : t.site.registry = s.site.registry) (indexes : t.site.indexes = s.site.indexes)
    (conditions : t.site.conditions = s.site.conditions) : Elsewhere s t :=
  ⟨noting, registry, indexes, by rw [conditions], fun d => by rw [Site.condition, conditions]; rfl⟩

/-- Whatever the controller changes of itself. -/
theorem controller (f : Controller → Controller) :
    Within Elsewhere (changeController f : Action σ Unit) :=
  fun _ => onSite (.of_eq rfl) rfl rfl rfl

theorem note {e : Effect} (h : e.isElsewhere = true) :
    Within Elsewhere (changeSite (σ := σ) (Site.note e)) :=
  fun _ => onSite (.one rfl h) rfl rfl rfl

theorem announce (source : String) (a : Int64 → Announcement) :
    Within Elsewhere (announce (σ := σ) source a) :=
  fun _ => onSite (.one rfl rfl) rfl rfl rfl

/-! ## Timers, probes, and reports -/

theorem setTimer (rhythm : Timer.Rhythm) (task : Task) :
    Within Elsewhere (setTimer (σ := σ) rhythm task) :=
  fun _ => onSite (.of_eq rfl) rfl rfl rfl

theorem retireTimer (number : Nat) : Within Elsewhere (retireTimer (σ := σ) number) := controller _

theorem settleTimer (number fired : Nat) (control : Control) :
    Within Elsewhere (settleTimer (σ := σ) number fired control) :=
  settleTimer_within number fired control (fun _ => onSite (.of_eq rfl) rfl rfl rfl)
    fun _ => controller _

theorem cancelProbe (name : String) : Within Elsewhere (cancelProbe (σ := σ) name) :=
  cancelProbe_within name (controller _) retireTimer

/-- A report goes into the condition of the device, beside its address. -/
theorem reporting (d : Device) : Reporting d (Elsewhere (σ := σ)) where
  enter r _ :=
    { noting := .one rfl rfl
      registry := rfl
      indexes := rfl
      next := Numbered.next_modify _ _ _
      address := Site.address_setCondition (Condition.address_following _ _ r) }
  sayUp := announce _ _
  sayDown _ := announce _ _
  report _ := report_within (note rfl)
  arm := armProbe_within d.name (fun _ => setTimer _ _) fun _ => controller _
  cancel := cancelProbe d.name

theorem violated (d : Device) (reason : String) : Within Elsewhere (violated (σ := σ) d reason) :=
  violated_within ((reporting d).violation reason)

theorem driverFailed (d : Device) (e : DriverError) :
    Within Elsewhere (driverFailed (σ := σ) d e) :=
  driverFailed_within (reporting d).failure (reporting d).violation e

theorem touch (d : Device) : Within Elsewhere (touch (σ := σ) d) := touch_within (note rfl)

/-! ## Events -/

theorem cook (d : Device) (c : Command) (results : List Result) :
    Within Elsewhere (cook (σ := σ) d c results) :=
  fun _ => onSite (.of_eq rfl) rfl rfl rfl

theorem publish (e : CookedEvent) : Within Elsewhere (publish (σ := σ) e) :=
  publish_within e (fun _ => announce _ _) (controller _) (note rfl)

theorem publishResults (d : Device) (c : Command) (results : List Result) :
    Within Elsewhere (publishResults (σ := σ) d c results) :=
  publishResults_within (cook d c results) publish

theorem received (d : Device) (c : Command) (answer : Except DriverError (List Result)) :
    Within Elsewhere (received (σ := σ) d c answer) :=
  received_within (reporting d).success (controller _) (touch d) (driverFailed d) (violated d) c
    answer

theorem endProbe (d : Device) (answer : Except DriverError (List Result)) :
    Within Elsewhere (endProbe (σ := σ) d answer) := by
  cases answer with
  | error e => exact .pure _
  | ok results => exact .bind (reporting d).success fun _ => .pure _

theorem announceCounters : Within Elsewhere (announceCounters (σ := σ)) :=
  announceCounters_within fun _ _ => announce _ _

/-! ## Sampling and management -/

variable (driver : Driver σ)

theorem scheduling : Scheduling driver (Elsewhere (σ := σ)) where
  take _ _ := onSite (.of_eq rfl) rfl rfl rfl
  stop number := stopSampler_within number (controller _) retireTimer
    fun _ _ _ => onSite (.one rfl rfl) rfl rfl rfl
  add _ _ _ _ := onSite (.of_eq rfl) rfl rfl rfl
  launched d c number := launched_within d c number fun r =>
    launch_within d c number r (setTimer _ _) (fun _ _ => onSite (.one rfl rfl) rfl rfl rfl)
      fun _ => controller _
  hold _ _ := controller _

theorem startCounters : Within Elsewhere (startCounters (σ := σ)) :=
  startCounters_within (fun _ => setTimer _ _) (fun _ => controller _) retireTimer

theorem setAdminState (name : String) (state : AdminState) :
    Within Elsewhere (setAdminState (σ := σ) name state) := by
  refine withDevice_within (fun d s => ?_) name
  exact ⟨.of_eq rfl, rfl, rfl, Numbered.next_modify _ _ _, Site.address_setCondition rfl⟩

theorem stop (force : Bool) : Within Elsewhere (stop driver force) :=
  stop_within force (controller _) (scheduling driver).stopAllAutoEvents
    (cancelAllProbes_within retireTimer (controller _)) (controller _) retireTimer
    fun _ => onSite (.one rfl rfl) rfl rfl rfl

end Elsewhere

end Service

end FieldGateway
