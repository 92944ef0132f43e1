import FieldGateway.Proofs.Health.Reports
import FieldGateway.Proofs.Service.Idle

/-
  What lies under a command. The ground is the lock of the service, the conditions of the devices
  and the state of the driver; whatever is done besides asking the driver and reporting leaves it
  alone (`SameGround`). A device is `Steady` if it may be asked again as before: its profile and
  commands, the settings, its lock and its address stay, whatever becomes of its health. A reading
  leaves the device `Ready`: steady and up, with an address that is known from then on
  (`readRaw_ok`). On the same ground a device gives the same answer, which leaves the same ground
  (`SameGround.asked`).
-/

namespace FieldGateway.Service

open FieldGateway.Action

variable {σ : Type} {driver : Driver σ} {s t u : Service σ} {d : Device}

/-- Neither the lock, nor the condition of a device, nor the driver is touched. -/
structure SameGround (s t : Service σ) : Prop where
  locked : t.controller.locked = s.controller.locked
  conditions : t.site.conditions = s.site.conditions
  driver : t.site.driverState = s.site.driverState

namespace SameGround

theorem trans (h : SameGround s t) (h' : SameGround t u) : SameGround s u :=
  ⟨h'.locked.trans h.locked, h'.conditions.trans h.conditions, h'.driver.trans h.driver⟩

instance : Std.Refl (SameGround (σ := σ)) := ⟨fun _ => ⟨rfl, rfl, rfl⟩⟩

instance : IsTrans (Service σ) SameGround := ⟨fun _ _ _ => trans⟩

theorem condition (h : SameGround s t) (d : Device) : t.site.condition d = s.site.condition d := by
  rw [Site.condition, h.conditions]
  rfl

theorem index (driver : Driver σ) (r : Registration) :
    Within SameGround (onSite (Site.index driver r)) := by
  intro s
  rw [after_onSite]
  rcases Site.index_cases driver r s.site with h | ⟨i, h⟩ <;> rw [h] <;> exact ⟨rfl, rfl, rfl⟩

theorem report (e : Effect) : Within SameGround (report (σ := σ) e) :=
  report_within fun _ => ⟨rfl, rfl, rfl⟩

theorem forgetProbe (name : String) : Within SameGround (forgetProbe (σ := σ) name) :=
  fun _ => ⟨rfl, rfl, rfl⟩

theorem cancelProbe (name : String) : Within SameGround (cancelProbe (σ := σ) name) :=
  cancelProbe_within name (forgetProbe name) fun _ _ => ⟨rfl, rfl, rfl⟩

theorem armProbe (name : String) : Within SameGround (armProbe (σ := σ) name) :=
  armProbe_within name (fun _ _ => ⟨rfl, rfl, rfl⟩) fun _ _ => ⟨rfl, rfl, rfl⟩

theorem settleTimer (number fired : Nat) (control : Timer.Control) :
    Within SameGround (settleTimer (σ := σ) number fired control) :=
  settleTimer_within number fired control (fun _ => ⟨rfl, rfl, rfl⟩) fun _ _ => ⟨rfl, rfl, rfl⟩

theorem touch (d : Device) : Within SameGround (touch (σ := σ) d) :=
  touch_within fun _ => ⟨rfl, rfl, rfl⟩

theorem cook (d : Device) (c : Command) (results : List Result) :
    Within SameGround (cook (σ := σ) d c results) := fun _ => ⟨rfl, rfl, rfl⟩

theorem publish (e : CookedEvent) : Within SameGround (publish (σ := σ) e) :=
  publish_within e (fun _ _ => ⟨rfl, rfl, rfl⟩) (fun _ => ⟨rfl, rfl, rfl⟩) fun _ => ⟨rfl, rfl, rfl⟩

/-- What is said of a report, and done about probes, is beside it. -/
theorem conclude (d : Device) (r : Report) (reason : String) (s : Service σ) :
    SameGround ((enter d r).after s) ((conclude d r reason).after s) := by
  have said (source : String) (a : Int64 → Announcement) :
      Within SameGround (announce (σ := σ) source a) := fun _ => ⟨rfl, rfl, rfl⟩
  have up : Within SameGround (cameUp (σ := σ) d) :=
    .bind (cancelProbe _) fun _ => .bind (said _ _) fun _ => report _
  have down : Within SameGround (wentDown (σ := σ) d reason) :=
    .bind (said _ _) fun _ => .bind (report _) fun _ => armProbe _
  rcases conclude_cases d r reason s with ⟨_, h⟩ | ⟨_, h⟩ | ⟨_, h⟩ <;> rw [h]
  · exact ⟨rfl, rfl, rfl⟩
  · exact up _
  · exact down _

end SameGround

/-! ## A device that may be asked again -/

/-- The device may be asked as before, if it is up. -/
structure Steady (d : Device) (s t : Service σ) : Prop where
  locked : t.controller.locked = s.controller.locked
  config : t.controller.config = s.controller.config
  transforms : t.controller.transforms = s.controller.transforms
  registry : t.site.registry = s.site.registry
  indexes : t.site.indexes = s.site.indexes
  next : t.site.conditions.next = s.site.conditions.next
  admin : (t.site.condition d).admin = (s.site.condition d).admin
  address {a : Address} : (s.site.condition d).address = some a →
    (t.site.condition d).address = some a

namespace Steady

theorem trans (h : Steady d s t) (h' : Steady d t u) : Steady d s u where
  locked := h'.locked.trans h.locked
  config := h'.config.trans h.config
  transforms := h'.transforms.trans h.transforms
  registry := h'.registry.trans h.registry
  indexes := h'.indexes.trans h.indexes
  next := h'.next.trans h.next
  admin := h'.admin.trans h.admin
  address known := h'.address (h.address known)

theorem knows (h : Steady d s t) (known : s.site.Knows d) : t.site.Knows d := by
  rw [Site.Knows, h.next]
  exact known

/-- Settings, profiles and commands stay, and so does what the device needs of its condition. -/
theorem of_condition (still : Still s t) (locked : t.controller.locked = s.controller.locked)
    (next : t.site.conditions.next = s.site.conditions.next)
    (admin : (t.site.condition d).admin = (s.site.condition d).admin)
    (address : ∀ {a}, (s.site.condition d).address = some a →
      (t.site.condition d).address = some a) : Steady d s t :=
  ⟨locked, still.config, still.transforms, still.registry, still.indexes, next, admin, address⟩

theorem of_ground (still : Still s t) (ground : SameGround s t) : Steady d s t :=
  of_condition still ground.locked (by rw [ground.conditions]) (by rw [ground.condition d])
    fun known => by rw [ground.condition d, known]

theorem publish (e : CookedEvent) (s : Service σ) : Steady d s ((publish e).after s) := by
  have ground := SameGround.publish e s
  have rest : ((Service.publish e).after s).controller.config = s.controller.config ∧
      ((Service.publish e).after s).controller.transforms = s.controller.transforms ∧
      ((Service.publish e).after s).site.registry = s.site.registry ∧
      ((Service.publish e).after s).site.indexes = s.site.indexes := by
    unfold Service.publish
    rw [after_get_bind]
    dsimp only
    cases s.controller.publisher <;> exact ⟨rfl, rfl, rfl, rfl⟩
  exact ⟨ground.locked, rest.1, rest.2.1, rest.2.2.1, rest.2.2.2, by rw [ground.conditions],
    by rw [ground.condition d], fun known => by rw [ground.condition d, known]⟩

theorem read (driver : Driver σ) (d : Device) (a : Address) (requests : List Request)
    (s : Service σ) : Steady d s ((onSite (Site.read driver d a requests)).after s) :=
  ⟨rfl, rfl, rfl, rfl, rfl, rfl, rfl, id⟩

/-- A report changes the health of the device, and not its lock and address. -/
theorem success (known : s.site.Knows d) : Steady d s ((reportSuccess d).after s) := by
  have ground := SameGround.conclude d .success "" s
  change SameGround _ ((reportSuccess d).after s) at ground
  have condition : ((reportSuccess d).after s).site.condition d =
      (s.site.condition d).following s.controller.config.allowedFails .success := by
    rw [ground.condition d]
    show (s.site.setCondition d _).condition d = _
    rw [Site.condition_setCondition known, if_pos rfl]
  refine of_condition (Still.reportSuccess d s) ground.locked ?_ ?_ ?_
  · rw [ground.conditions]
    exact Numbered.next_modify _ _ _
  · rw [condition]
    rfl
  · intro a address
    rw [condition]
    exact address

end Steady

/-- The device may be asked at once: it is as before, up, and has an address. -/
structure Ready (d : Device) (s t : Service σ) : Prop extends Steady d s t where
  up : t.site.isDown d = false
  known : ∃ a, (t.site.condition d).address = some a

theorem Ready.still (h : Ready d s t) (steady : Steady d t u) (ground : SameGround t u) :
    Ready d s u where
  toSteady := h.toSteady.trans steady
  up := by
    rw [Site.isDown, ground.condition d]
    exact h.up
  known := by
    obtain ⟨a, known⟩ := h.known
    exact ⟨a, steady.address known⟩

/-! ## Answers -/

theorem up_of_success (known : s.site.Knows d) :
    ((reportSuccess d).after s).site.isDown d = false := by
  have operating := operating_conclude known .success "" d
  rw [if_pos rfl] at operating
  have up : (((reportSuccess d).after s).site.condition d).operating = .up := operating
  rw [Site.isDown, up]
  rfl

/-- An address is known, or it is made and known from then on. -/
theorem makeAddress_ok (known : s.site.Knows d) {a : Address}
    (h : (onSite (Site.address driver d)).result s = .ok a) :
    let t := (onSite (Site.address driver d)).after s
    Steady d s t ∧ (t.site.condition d).address = some a := by
  intro t
  have still : Still s t := Still.makeAddress driver d s
  rw [result_onSite] at h
  rcases Site.address_cases driver d s.site with
    ⟨b, before, step⟩ | ⟨unknown, outcome, state, -, step⟩
  · have same : t = s := by
      show { s with site := (Site.address driver d s.site).2 } = s
      rw [step]
    rw [step] at h
    cases h
    rw [same]
    exact ⟨.of_ground (.refl s) ⟨rfl, rfl, rfl⟩, before⟩
  · rw [step] at h
    cases h
    let c : Condition := { s.site.condition d with address := some a }
    have site : t.site = _ := congrArg Prod.snd step
    have conditions : t.site.conditions = (s.site.setCondition d c).conditions := by
      rw [site]
      rfl
    have condition : t.site.condition d = c := by
      rw [Site.condition, conditions]
      show (s.site.setCondition d c).condition d = c
      rw [Site.condition_setCondition known, if_pos rfl]
    refine ⟨.of_condition still rfl ?_ (by rw [condition]) ?_, by rw [condition]⟩
    · rw [conditions]
      exact Numbered.next_modify _ _ _
    · intro b before
      rw [before] at unknown
      cases unknown

theorem address_ok {a : Address} (h : (Service.address driver d).result s = .ok a) :
    (onSite (Site.address driver d)).result s = .ok a ∧
      (Service.address driver d).after s = (onSite (Site.address driver d)).after s := by
  unfold Service.address at *
  rw [result_bind] at h
  rw [after_bind]
  cases found : (onSite (Site.address driver d)).result s with
  | ok b =>
    rw [found] at h
    cases h
    exact ⟨rfl, rfl⟩
  | error e =>
    rw [found] at h
    cases h

variable (driver) in
theorem address_of_known {a : Address} (known : (s.site.condition d).address = some a) :
    (Service.address driver d).result s = .ok a ∧ (Service.address driver d).after s = s := by
  have step : Site.address driver d s.site = (.ok a, s.site) := by
    unfold Site.address
    rw [known]
  unfold Service.address
  rw [result_bind, after_bind, result_onSite, after_onSite, step]
  exact ⟨rfl, rfl⟩

/-- An answer that is taken leaves the device up. -/
theorem received_ok (known : s.site.Knows d) {c : Command}
    {answer : Except DriverError (List Result)} {results : List Result}
    (h : (received d c answer).result s = .ok results) :
    let t := (received d c answer).after s
    answer = .ok results ∧ Steady d s t ∧ t.site.isDown d = false ∧
      t.site.driverState = s.site.driverState := by
  intro t
  unfold t received at *
  cases answer with
  | error e => cases h
  | ok found =>
    dsimp only at h ⊢
    by_cases length : found.length = c.size
    · rw [if_pos length] at h ⊢
      cases h
      rw [after_bind, after_bind, after_bind, after_pure]
      have succeeded := Steady.success (σ := σ) (s := s) known
      have up := up_of_success (σ := σ) (s := s) known
      have ground : SameGround ((enter d .success).after s) ((reportSuccess d).after s) :=
        SameGround.conclude d .success "" s
      generalize (reportSuccess d).after s = u at *
      have counted : Steady d u ((countRead).after u) := ⟨rfl, rfl, rfl, rfl, rfl, rfl, rfl, id⟩
      have ground' := SameGround.touch d ((countRead).after u)
      have touched : Steady d _ _ := .of_ground (Still.touch d ((countRead).after u)) ground'
      refine ⟨rfl, (succeeded.trans counted).trans touched, ?_, ?_⟩
      · rw [Site.isDown, ground'.condition d]
        exact up
      · rw [ground'.driver]
        exact ground.driver
    · rw [if_neg length] at h
      cases h

/-- The state of the driver once the device has an address. -/
def reached (driver : Driver σ) (s : Service σ) (d : Device) : σ :=
  ((onSite (Site.address driver d)).after s).site.driverState

theorem reached_cases (driver : Driver σ) (s : Service σ) (d : Device) :
    reached driver s d = s.site.driverState ∨
      reached driver s d = (driver.createAddress s.site.driverState d.name d.protocols).2 := by
  rw [reached, after_onSite]
  rcases Site.address_cases driver d s.site with ⟨a, -, h⟩ | ⟨-, outcome, state, made, h⟩
  · rw [h]
    exact .inl rfl
  · rw [h, made]
    cases outcome <;> exact .inr rfl

/-- What is read of a device leaves it ready for more, and is what the driver said. -/
theorem readRaw_ok (known : s.site.Knows d) {c : Command} {results : List Result}
    (h : (readRaw driver d c).result s = .ok results) :
    let t := (readRaw driver d c).after s
    Ready d s t ∧ ∃ a, driver.read (reached driver s d) d.name a c.requests =
      (.ok results, t.site.driverState) := by
  intro t
  unfold t
  rw [readRaw_eq, result_bind] at h
  rw [readRaw_eq, after_bind]
  cases found : (Service.address driver d).result s with
  | error e =>
    rw [found] at h
    cases h
  | ok a =>
    rw [found] at h
    obtain ⟨made, same⟩ := address_ok found
    obtain ⟨steady, address⟩ := makeAddress_ok known made
    rw [same] at h ⊢
    dsimp only at h ⊢
    rw [result_bind] at h
    rw [after_bind]
    generalize hu : (onSite (Site.address driver d)).after s = u at *
    have asked := Steady.read driver d a c.requests u
    obtain ⟨answer, taken, up, ground⟩ := received_ok ((steady.trans asked).knows known) h
    refine ⟨⟨(steady.trans asked).trans taken, up, a, taken.address (asked.address address)⟩, a, ?_⟩
    rw [ground, reached, hu]
    exact Prod.ext answer rfl

/-! ## Asking again -/

variable (driver) in
/-- What becomes of an address depends on the ground alone. -/
theorem SameGround.address (h : SameGround s t) (d : Device) :
    let made := onSite (Site.address driver d)
    made.result t = made.result s ∧ SameGround (made.after s) (made.after t) := by
  dsimp only
  rw [result_onSite, result_onSite, after_onSite, after_onSite]
  unfold Site.address Site.createAddress
  rw [h.condition, h.driver]
  cases (s.site.condition d).address with
  | some a => exact ⟨rfl, h⟩
  | none =>
    dsimp only
    cases (driver.createAddress s.site.driverState d.name d.protocols).1 with
    | error e => exact ⟨rfl, h.locked, h.conditions, rfl⟩
    | ok a =>
      refine ⟨rfl, h.locked, ?_, rfl⟩
      show t.site.conditions.modify _ _ = s.site.conditions.modify _ _
      rw [h.conditions]
      rfl

theorem SameGround.read (h : SameGround s t) (d : Device) (a : Address) (requests : List Request) :
    let read := onSite (Site.read driver d a requests)
    read.result t = read.result s ∧ SameGround (read.after s) (read.after t) := by
  have same : driver.read t.site.driverState d.name a requests =
      driver.read s.site.driverState d.name a requests := by
    rw [h.driver]
  obtain ⟨answer, driver⟩ := Prod.ext_iff.1 same
  exact ⟨answer, h.locked, h.conditions, driver⟩

variable (driver) in
/-- What a device answers depends on the ground alone, and so does what that leaves. -/
theorem SameGround.asked (h : SameGround s t) (d : Device) (requests : List Request) :
    let asked := Service.ask driver d requests
    asked.result t = asked.result s ∧ SameGround (asked.after s) (asked.after t) := by
  obtain ⟨same, ground⟩ := h.address driver d
  unfold Service.ask
  simp only [result_bind, after_bind, same]
  cases (onSite (Site.address driver d)).result s with
  | error e => exact ⟨rfl, ground⟩
  | ok a => exact ground.read d a requests

end FieldGateway.Service
