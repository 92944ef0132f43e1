import FieldGateway.Proofs.Health.ClosedForm
import FieldGateway.Proofs.Service.Noting

/-
  What a report on a device comes to. Work with a device ends with one (`conclude`): the condition
  of the device changes, and if its operating state does, that is announced, the metadata service
  is told, and a probe is armed or cancelled (`conclude_cases`). Everything else that a service
  does is `Silent`: the health of every device stays as it is, and nothing is said of it.
-/

namespace FieldGateway

/-! ## What is said of health -/

namespace Effect

/-- The device and how it is now, where it is announced to have gone down or come up. -/
def health? : Effect → Option (String × OperatingState)
  | .announced _ (.deviceUp d _) => some (d, .up)
  | .announced _ (.deviceDown d _ _) => some (d, .down)
  | _ => none

/-- The device and how it is now, where the metadata service is told. -/
def stateReport? : Effect → Option (String × OperatingState)
  | .stateReported d state => some (d, state)
  | _ => none

def report? : Effect → Option (Device × Report)
  | .reported d r => some (d, r)
  | _ => none

/-- A device of that name is announced to be a new one. -/
def adds (name : String) : Effect → Bool
  | .announced _ (.deviceAdded d _ _) => d == name
  | _ => false

/-- How the device of a name is now, where that is announced. -/
def healthOf? (name : String) (e : Effect) : Option OperatingState :=
  e.health?.bind fun p => if p.1 = name then some p.2 else none

/-- Something is said of the health of a device, or a device is announced that has none yet. -/
def tellsOfHealth : Effect → Bool
  | .reported .. | .stateReported .. => true
  | .announced _ (.deviceUp ..) | .announced _ (.deviceDown ..)
  | .announced _ (.deviceAdded ..) => true
  | _ => false

structure Untelling (e : Effect) : Prop where
  health : e.health? = none
  state : e.stateReport? = none
  report : e.report? = none
  adds (name : String) : e.adds name = false

theorem untelling_iff (e : Effect) : e.tellsOfHealth = false ↔ e.Untelling := by
  constructor
  · intro h
    cases e with
    | announced source a => cases a <;> first | exact ⟨rfl, rfl, rfl, fun _ => rfl⟩ | cases h
    | reported d r => cases h
    | stateReported d state => cases h
    | _ => exact ⟨rfl, rfl, rfl, fun _ => rfl⟩
  · rintro ⟨health, state, report, adds⟩
    cases e with
    | announced source a =>
      cases a with
      | deviceUp d t => cases health
      | deviceDown d reason t => cases health
      | deviceAdded d p t => exact absurd (adds d) (by simp [Effect.adds])
      | _ => rfl
    | reported d r => cases report
    | stateReported d state => cases state
    | _ => rfl

end Effect

namespace Service

open FieldGateway.Action

variable {σ : Type}

/-! ## Silence -/

/-- The health of every device stays as it is, and nothing is said of it. -/
structure Silent (s t : Service σ) : Prop where
  health : SameHealth s t
  noting : Noting (·.tellsOfHealth = false) s t
  metadata : t.controller.reportsMetadata = s.controller.reportsMetadata

namespace Silent

theorem refl (s : Service σ) : Silent s s := ⟨.refl s, .of_eq rfl, rfl⟩

theorem trans {s t u : Service σ} (h : Silent s t) (h' : Silent t u) : Silent s u :=
  ⟨h.health.trans h'.health, h.noting.trans h'.noting, h'.metadata.trans h.metadata⟩

instance : Std.Refl (Silent (σ := σ)) := ⟨refl⟩

instance : IsTrans (Service σ) Silent := ⟨fun _ _ _ => trans⟩

theorem device? {s t : Service σ} (h : Silent s t) (name : String) :
    t.device? name = s.device? name := by
  rw [Service.device?, Registry.device?, h.health.devices]
  rfl

theorem isDown {s t : Service σ} (h : Silent s t) (d : Device) :
    t.site.isDown d = s.site.isDown d := by
  rw [Site.isDown, h.health.operating]
  rfl

end Silent

/-- All reports that were made, the latest first. -/
def reportsMade (s : Service σ) : List (Device × Report) :=
  s.site.trace.filterMap (·.2.report?)

/-- What is read off a trace stays, if it is only about health. -/
theorem Noting.filterMap {β : Type} {f : Nat × Effect → Option β}
    (hf : ∀ x, x.2.Untelling → f x = none) {s t : Service σ}
    (h : Noting (·.tellsOfHealth = false) s t) :
    t.site.trace.filterMap f = s.site.trace.filterMap f := by
  obtain ⟨new, ht, hnew⟩ := h
  have none : new.filterMap f = [] :=
    List.filterMap_eq_nil_iff.2 fun x hx => hf x ((Effect.untelling_iff x.2).1 (hnew x hx))
  rw [ht, List.filterMap_append, none, List.nil_append]

theorem Silent.reportsMade {s t : Service σ} (h : Silent s t) :
    t.reportsMade = s.reportsMade :=
  h.noting.filterMap fun _ hx => hx.report

/-! ## Reports -/

/-- Ends work with a device by a report. -/
def conclude (d : Device) (r : Report) (reason : String) : Action σ Unit :=
  match r with
  | .success => reportSuccess d
  | .failure => reportFailure d reason
  | .violation => forceDown d reason

/-- The operating state of a device, and what a report makes of it. -/
def turned (d : Device) (r : Report) (s : Service σ) : OperatingState × OperatingState :=
  let c := s.site.condition d
  (c.operating, (c.following s.controller.config.allowedFails r).operating)

theorem result_enter (d : Device) (r : Report) (s : Service σ) :
    (enter d r).result s = turned d r s := rfl

/-- What follows when a device came up. -/
def cameUp (d : Device) : Action σ Unit := do
  cancelProbe d.name
  announce healthSource (.deviceUp d.name)
  report (.stateReported d.name .up)

/-- Nothing but a success brings a device up. -/
theorem turned_of_down {d : Device} {r : Report} {s : Service σ} (hr : r ≠ .success)
    (h : (turned d r s).1 = .down) : (turned d r s).2 = .down := by
  cases r with
  | success => exact absurd rfl hr
  | failure =>
    simp only [turned, Condition.following] at h ⊢
    repeat' split
    · exact h
    · rfl
    · exact h
  | violation => rfl

theorem after_success (d : Device) (reason : String) (s : Service σ) :
    (conclude d .success reason).after s =
      if (turned d .success s).1 = .down then (cameUp d).after ((enter d .success).after s)
      else (enter d .success).after s := by
  show Action.after (reportSuccess d) s = _
  unfold reportSuccess
  rw [after_bind, result_enter, after_ite]
  rfl

/-- A report that is no success can only bring the device down. -/
theorem after_no_success (d : Device) {r : Report} (hr : r ≠ .success) (reason : String)
    (s : Service σ) :
    (conclude d r reason).after s =
      if turned d r s = (.up, .down) then (wentDown d reason).after ((enter d r).after s)
      else (enter d r).after s := by
  cases r with
  | success => exact absurd rfl hr
  | failure =>
    show Action.after (reportFailure d reason) s = _
    unfold reportFailure
    rw [after_bind, result_enter, after_ite]
    rfl
  | violation =>
    show Action.after (forceDown d reason) s = _
    unfold forceDown
    rw [after_bind, result_enter, after_ite]
    rfl

/-- No more comes of a report than that the condition changes, unless the operating state does. -/
theorem conclude_cases (d : Device) (r : Report) (reason : String) (s : Service σ) :
    let entered := (enter d r).after s
    let t := (conclude d r reason).after s
    (turned d r s).1 = (turned d r s).2 ∧ t = entered ∨
    turned d r s = (.down, .up) ∧ t = (cameUp d).after entered ∨
    turned d r s = (.up, .down) ∧ t = (wentDown d reason).after entered := by
  intro entered t
  by_cases hr : r = .success
  · subst hr
    have ht : t = _ := after_success d reason s
    have hup : (turned d .success s).2 = .up := rfl
    cases before : (turned d .success s).1 with
    | up => exact .inl ⟨hup.symm, by rw [ht, before]; rfl⟩
    | down => exact .inr (.inl ⟨Prod.ext before hup, by rw [ht, if_pos before]⟩)
  · have ht : t = _ := after_no_success d hr reason s
    by_cases hd : turned d r s = (.up, .down)
    · exact .inr (.inr ⟨hd, by rw [ht, if_pos hd]⟩)
    · refine .inl ⟨?_, by rw [ht, if_neg hd]⟩
      cases before : (turned d r s).1 with
      | down => exact (turned_of_down hr before).symm
      | up =>
        cases after : (turned d r s).2 with
        | up => rfl
        | down => exact absurd (Prod.ext before after) hd

theorem conclude_sameHealth (d : Device) (r : Report) (reason : String) (s : Service σ) :
    SameHealth ((enter d r).after s) ((conclude d r reason).after s) := by
  have up : Within SameHealth (cameUp (σ := σ) d) :=
    .bind (SameHealth.cancelProbe _) fun _ => .bind (SameHealth.announce _ _) fun _ =>
      SameHealth.report rfl
  rcases conclude_cases d r reason s with ⟨_, h⟩ | ⟨_, h⟩ | ⟨_, h⟩
  · rw [h]
    exact .refl _
  · rw [h]
    exact up _
  · rw [h]
    exact SameHealth.wentDown d reason _

theorem device?_conclude (d : Device) (r : Report) (reason : String) (name : String)
    (s : Service σ) : ((conclude d r reason).after s).device? name = s.device? name := by
  rw [device?, Registry.device?, (conclude_sameHealth d r reason s).devices]
  rfl

/-- The report is on one device, and no other device is in another operating state then. -/
theorem operating_conclude {d : Device} {s : Service σ} (hk : s.site.Knows d) (r : Report)
    (reason : String) (e : Device) :
    (((conclude d r reason).after s).site.condition e).operating =
      if d.serial = e.serial then (turned d r s).2 else (s.site.condition e).operating := by
  rw [(conclude_sameHealth d r reason s).operating]
  show ((s.site.setCondition d _).condition e).operating = _
  rw [Site.condition_setCondition hk]
  split <;> rfl

/-! ## What is said -/

/-- The announcement that a device is in an operating state from now on. -/
def tidings (d : Device) (reason : String) (time : Int64) : OperatingState → Announcement
  | .up => .deviceUp d.name time
  | .down => .deviceDown d.name (some reason) time

/-- What is said of a device that is in another operating state than before, the latest first. -/
def news (d : Device) (reason : String) (state : OperatingState) (s : Service σ) :
    List (Nat × Effect) :=
  (if s.controller.reportsMetadata then [(s.site.now, .stateReported d.name state)] else []) ++
    [(s.site.now, .announced healthSource (tidings d reason s.site.seconds state))]

@[simp] theorem site_cancelProbe (name : String) (s : Service σ) :
    ((cancelProbe name).after s).site = s.site := by
  unfold cancelProbe
  rw [after_get_bind]
  cases s.controller.probes.find? name <;> rfl

@[simp] theorem reportsMetadata_cancelProbe (name : String) (s : Service σ) :
    ((cancelProbe name).after s).controller.reportsMetadata = s.controller.reportsMetadata := by
  unfold cancelProbe
  rw [after_get_bind]
  cases s.controller.probes.find? name <;> rfl

/-- No more changes at the site than how many waits began. -/
theorem site_armProbe (name : String) (s : Service σ) :
    ∃ waits, ((armProbe name).after s).site = { s.site with waits } := by
  unfold armProbe
  rw [after_get_bind]
  cases s.controller.config.downTimeout? with
  | none => exact ⟨_, rfl⟩
  | some delay =>
    dsimp only
    rw [after_ite]
    split <;> exact ⟨_, rfl⟩

@[simp] theorem reportsMetadata_armProbe (name : String) (s : Service σ) :
    ((armProbe name).after s).controller.reportsMetadata = s.controller.reportsMetadata := by
  unfold armProbe
  rw [after_get_bind]
  cases s.controller.config.downTimeout? with
  | none => rfl
  | some delay =>
    dsimp only
    rw [after_ite]
    split <;> rfl

theorem after_report (e : Effect) (s : Service σ) :
    (report e).after s = if s.controller.reportsMetadata then { s with site := s.site.note e }
      else s := by
  unfold report
  rw [after_get_bind, after_ite]
  rfl

theorem controller_report (e : Effect) (s : Service σ) :
    ((report e).after s).controller = s.controller := by
  rw [after_report]
  split <;> rfl

theorem cameUp_trace (d : Device) (reason : String) (s : Service σ) :
    ((cameUp d).after s).site.trace = news d reason .up s ++ s.site.trace := by
  unfold cameUp
  rw [after_bind, after_bind, after_report]
  show Site.trace (Service.site (if ((cancelProbe d.name).after s).controller.reportsMetadata = true
    then _ else _)) = _
  rw [reportsMetadata_cancelProbe, news]
  split <;> simp [announce, Site.announce, Site.note, tidings]

theorem wentDown_trace (d : Device) (reason : String) (s : Service σ) :
    ((wentDown d reason).after s).site.trace = news d reason .down s ++ s.site.trace := by
  unfold wentDown
  rw [after_bind, after_bind]
  obtain ⟨waits, h⟩ := site_armProbe d.name ((report (.stateReported d.name .down)).after
    ((announce healthSource (.deviceDown d.name (some reason))).after s))
  rw [h, after_report, news]
  show Site.trace (Service.site (if s.controller.reportsMetadata = true then _ else _)) = _
  split <;> simp [announce, Site.announce, Site.note, tidings]

/-- A report is put on record, and if the device is in another operating state then, that is
said. -/
theorem conclude_trace (d : Device) (r : Report) (reason : String) (s : Service σ) :
    ((conclude d r reason).after s).site.trace =
      (if (turned d r s).1 = (turned d r s).2 then [] else news d reason (turned d r s).2 s) ++
        (s.site.now, .reported d r) :: s.site.trace := by
  rcases conclude_cases d r reason s with ⟨same, h⟩ | ⟨hup, h⟩ | ⟨hdown, h⟩
  · rw [h, if_pos same]
    rfl
  · rw [h, hup, if_neg nofun]
    exact cameUp_trace d reason _
  · rw [h, hdown, if_neg nofun]
    exact wentDown_trace d reason _

theorem reportsMetadata_conclude (d : Device) (r : Report) (reason : String) (s : Service σ) :
    ((conclude d r reason).after s).controller.reportsMetadata =
      s.controller.reportsMetadata := by
  rcases conclude_cases d r reason s with ⟨_, h⟩ | ⟨_, h⟩ | ⟨_, h⟩
  · rw [h]
    rfl
  · rw [h]
    unfold cameUp
    rw [after_bind, after_bind, controller_report]
    exact reportsMetadata_cancelProbe d.name _
  · rw [h]
    unfold wentDown
    rw [after_bind, after_bind, reportsMetadata_armProbe, controller_report]
    rfl

theorem reportsMade_conclude (d : Device) (r : Report) (reason : String) (s : Service σ) :
    ((conclude d r reason).after s).reportsMade = (d, r) :: s.reportsMade := by
  have none (state : OperatingState) : (news d reason state s).filterMap (·.2.report?) = [] := by
    unfold news
    cases state <;> cases s.controller.reportsMetadata <;> rfl
  rw [reportsMade, conclude_trace, List.filterMap_append]
  split
  · rfl
  · rw [none]
    rfl

end Service

end FieldGateway
