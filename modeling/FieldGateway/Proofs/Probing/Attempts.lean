import FieldGateway.Proofs.Flight.Founded
import FieldGateway.Proofs.Flight.Trespass

/-
  One attempt of a probe. A device is `Probing` if it is down and a probe of it waits that has a
  command to read. When the timer fires, the device is asked once, and that is put on record as an
  attempt. If it does not answer, it is probing again, as long after the attempt as the timer waits
  (`Probing.failed`); if it does, it is up, that is announced, and the timer waits no more
  (`Probing.answered`).
-/

namespace FieldGateway

/-- An attempt to read a device, and whether it answered; it cannot without an address. -/
def Effect.attempt? : Effect → Option (Device × Bool)
  | .driver (.address d (.error _)) => some (d, false)
  | .driver (.read d _ _ answer) => some (d, answer.isOk)
  | _ => none

theorem Effect.attempt?_of_quiet {e : Effect} (h : e.isExchange = false) : e.attempt? = none := by
  cases e with
  | driver e => cases h
  | _ => rfl

namespace Service

open FieldGateway.Action
open Timer (nanosPerMilli)

variable {σ : Type} {driver : Driver σ} {s t u : Service σ} {d : Device} {number allowed : Nat}

/-- All attempts to read devices, and when, first things first. -/
def attempts (s : Service σ) : List (Nat × Device × Bool) :=
  s.site.trace.reverse.filterMap fun x => x.2.attempt?.map (x.1, ·)

theorem Noting.attempts (h : Noting (·.attempt? = none) s t) : t.attempts = s.attempts := by
  obtain ⟨new, ht, hnew⟩ := h
  have none : new.reverse.filterMap (fun x => x.2.attempt?.map (x.1, ·)) = [] :=
    List.filterMap_eq_nil_iff.2 fun x hx => by rw [hnew x (List.mem_reverse.1 hx)]; rfl
  rw [Service.attempts, ht, List.reverse_append, List.filterMap_append, none, List.append_nil]
  rfl

theorem attempts_note {e : Effect} {now : Nat} (h : t.site.trace = (now, e) :: s.site.trace) :
    t.attempts = s.attempts ++ (e.attempt?.map (now, ·)).toList := by
  rw [Service.attempts, h, List.reverse_cons, List.filterMap_append]
  cases he : e.attempt? <;> simp [he, Service.attempts]

/-! ## Without any delay -/

/-- No time passes, and no timer but this one is touched. -/
structure Confined (number : Nat) (s t : Service σ) : Prop where
  now : t.site.now = s.site.now
  others (i : Nat) (other : i ≠ number) :
    t.controller.timers.get? i = s.controller.timers.get? i

namespace Confined

theorem trans (h : Confined number s t) (h' : Confined number t u) : Confined number s u :=
  ⟨h'.now.trans h.now, fun i other => (h'.others i other).trans (h.others i other)⟩

instance : Std.Refl (Confined (σ := σ) number) := ⟨fun _ => ⟨rfl, fun _ _ => rfl⟩⟩

instance : IsTrans (Service σ) (Confined number) := ⟨fun _ _ _ => trans⟩

theorem of_timers (now : t.site.now = s.site.now)
    (timers : t.controller.timers = s.controller.timers) : Confined number s t :=
  ⟨now, fun _ _ => by rw [timers]⟩

theorem modify (f : Timer → Timer) : Within (Confined number)
    (changeController (σ := σ) fun c => { c with timers := c.timers.modify number f }) :=
  fun _ => ⟨rfl, fun _ other => by
    rw [after_changeController, Numbered.get?_modify, if_neg (Ne.symm other)]⟩

theorem index (r : Registration) : Within (Confined number) (onSite (Site.index driver r)) := by
  intro s
  rw [after_onSite]
  rcases Site.index_cases driver r s.site with h | ⟨i, h⟩ <;> rw [h] <;> exact of_timers rfl rfl

theorem address (d : Device) : Within (Confined number) (onSite (Site.address driver d)) := by
  intro s
  rw [after_onSite]
  rcases Site.address_cases driver d s.site with ⟨a, -, h⟩ | ⟨-, outcome, state, -, h⟩
  · rw [h]
    exact of_timers rfl rfl
  · rw [h]
    cases outcome <;> exact of_timers rfl rfl

theorem ask (d : Device) (requests : List Request) :
    Within (Confined number) (ask driver d requests) :=
  ask_within (address d) (fun _ _ _ => of_timers rfl rfl) requests

theorem settleTimer (fired : Nat) (control : Timer.Control) :
    Within (Confined (σ := σ) number) (settleTimer number fired control) :=
  settleTimer_within number fired control (fun _ => of_timers rfl rfl) modify

theorem cancelProbe {name : String} (h : s.controller.probes.find? name = some number) :
    Confined number s ((cancelProbe name).after s) := by
  have forgotten : Confined number s ((forgetProbe name).after s) := of_timers rfl rfl
  unfold Service.cancelProbe
  rw [after_get_bind, h]
  exact forgotten.trans (modify _ _)

/-- The probe of a device that answered is cancelled, and no other timer is. -/
theorem success (h : s.controller.probes.find? d.name = some number) :
    Confined number s ((reportSuccess d).after s) := by
  have entered : Confined number s ((enter d .success).after s) := of_timers rfl rfl
  have said : Within (Confined (σ := σ) number) (announce healthSource (.deviceUp d.name)) :=
    fun _ => of_timers rfl rfl
  have told : Within (Confined (σ := σ) number) (report (.stateReported d.name .up)) :=
    report_within fun _ => of_timers rfl rfl
  have after : (reportSuccess d).after s = _ := after_success d "" s
  rw [after]
  split
  · have cancelled := entered.trans (cancelProbe (s := (enter d .success).after s) h)
    exact cancelled.trans (Within.bind said (fun _ => told) _)
  · exact entered

end Confined

/-! ## Asking -/

variable (driver) in
theorem controller_ask (d : Device) (requests : List Request) (s : Service σ) :
    ((ask driver d requests).after s).controller = s.controller := by
  unfold ask
  rw [after_bind]
  cases (onSite (Site.address driver d)).result s <;> rfl

variable (driver) in
/-- A device is asked once, whether or not it has an address. -/
theorem attempts_ask (d : Device) (requests : List Request) (s : Service σ) :
    ((ask driver d requests).after s).attempts =
      s.attempts ++ [(s.site.now, d, ((ask driver d requests).result s).isOk)] := by
  have read (a : Address) (u : Service σ) :
      ((onSite (Site.read driver d a requests)).after u).attempts =
        u.attempts ++
          [(u.site.now, d, ((onSite (Site.read driver d a requests)).result u).isOk)] :=
    attempts_note (e := .driver (.read d a requests _)) rfl
  let u := (onSite (Site.address driver d)).after s
  unfold ask
  rw [after_bind, result_bind]
  rcases Site.address_cases driver d s.site with ⟨a, -, h⟩ | ⟨-, outcome, state, -, h⟩
  · rw [result_onSite, after_onSite, h]
    exact read a s
  · have trace : u.site.trace = (s.site.now, .driver (.address d outcome)) :: s.site.trace := by
      show (Site.address driver d s.site).2.trace = _
      rw [h]
      cases outcome <;> rfl
    rw [result_onSite, h]
    cases outcome with
    | error e => exact attempts_note trace
    | ok a =>
      have made : u.attempts = s.attempts := by
        rw [attempts_note trace]
        exact List.append_nil _
      have now : u.site.now = s.site.now := by
        show (Site.address driver d s.site).2.now = _
        rw [h]
        rfl
      rw [← made, ← now]
      exact read a u

/-! ## A probe that waits -/

/-- A probe of a device: what it reads, and the timer that it is set on. -/
structure Probe where
  device : Device
  command : Command
  timer : Nat
  timeout : Duration

/-- The timer of a probe. -/
def Probe.task (p : Probe) : Task := .probe p.device.name

variable (driver) in
/-- What a probe asks. -/
def Probe.ask (p : Probe) : Action σ (Except DriverError (List Result)) :=
  Service.ask driver p.device p.command.requests

/-- How the work of a probe waits for the driver. -/
def Probe.errand (p : Probe) (fired : Nat) : Errand := .probe p.timer fired p.device p.command

variable {p : Probe} {due : Nat}

variable (driver) in
/-- The device of a probe is down, and the probe waits and is due at an instant. -/
structure Probing (p : Probe) (due : Nat) (s : Service σ) : Prop where
  registered : s.device? p.device.name = some p.device
  down : s.site.isDown p.device = true
  found : (commandsOf driver s p.device).probe? = some p.command
  recorded : s.controller.probes.find? p.device.name = some p.timer
  waits : ∃ waiting, waiting.due = due ∧ s.controller.timers.get? p.timer = some
    { rhythm := .retrying p.timeout, task := p.task, waiting }

variable (driver) in
/-- A probe that waited is about to ask. -/
structure AboutToAsk (p : Probe) (s u : Service σ) : Prop where
  silent : Silent s u
  ground : SameGround s u
  confined : Confined p.timer s u
  attempts : u.attempts = s.attempts
  kept : Kept p.device (commandsOf driver s p.device) u
  probes : u.controller.probes = s.controller.probes
  fires : ∃ waiting, u.controller.timers.get? p.timer = some
    { rhythm := .retrying p.timeout, task := p.task, waiting, lifecycle := { phase := .firing } }

theorem Probing.after_begin (h : Probing driver p due s) :
    (begin driver (.fire p.timer)).after s =
      (onSite (Site.index driver p.device.registration)).after
        ((changeLifecycle p.timer { phase := .firing }).after s) := by
  obtain ⟨waiting, -, timer⟩ := h.waits
  let u := (changeLifecycle p.timer { phase := .firing }).after s
  have registered : u.device? p.device.name = some p.device := h.registered
  have down : u.site.isDown p.device = true := h.down
  have begun : (beginProbe driver p.device.name).result u = some (p.device, p.command) :=
    beginProbe_iff.2 ⟨registered, down, h.found⟩
  have after : (beginProbe driver p.device.name).after u =
      (onSite (Site.index driver p.device.registration)).after u := by
    unfold beginProbe
    rw [after_get_bind, registered]
    dsimp only
    rw [after_ite, if_pos down]
    rfl
  have armed : ({} : Timer.Lifecycle).beginFire = (true, { phase := .firing }) := rfl
  unfold begin
  rw [after_get_bind, timer]
  dsimp only
  rw [armed, after_ite, if_pos rfl, after_bind, after_bind, Probe.task, beginTask, result_bind,
    after_bind]
  change (settleBegun _ _ (Action.result _ ((beginProbe driver p.device.name).after u))).after
    (Action.after _ ((beginProbe driver p.device.name).after u)) = _
  rw [begun, after]
  rfl

theorem Probing.begins (h : Probing driver p due s)
    (placed : p.device.registration.serial < s.site.indexes.next) :
    ∃ u, AboutToAsk driver p s u ∧ (fireTimer driver p.timer).after s =
      (finish driver (p.errand (s.site.now * nanosPerMilli))).after u := by
  obtain ⟨waiting, -, timer⟩ := h.waits
  let r := p.device.registration
  let life := (changeLifecycle p.timer { phase := .firing }).after s
  let u := (onSite (Site.index driver r)).after life
  have begun : (begin driver (.fire p.timer)).result s =
      some (p.errand (s.site.now * nanosPerMilli)) :=
    begin_fire_iff.2 ⟨_, timer, rfl, .probe h.registered h.down h.found⟩
  have commanded : Commanded driver p.device (commandsOf driver s p.device) life := ⟨placed, rfl⟩
  have confined : Confined p.timer s life := Confined.modify _ s
  have parsed : Noting (·.attempt? = none) life u := index_noting driver r (fun _ => rfl) life
  refine ⟨u, ⟨?_, ?_, confined.trans (Confined.index r life), parsed.attempts, commanded.index,
    rfl, waiting, ?_⟩, ?_⟩
  · have silent := begin_silent driver (.fire p.timer) s
    rwa [h.after_begin] at silent
  · have ground := begin_fire_ground driver p.timer s
    rwa [h.after_begin] at ground
  · show (s.controller.timers.modify p.timer _).get? p.timer = _
    rw [Numbered.get?_modify, if_pos rfl, timer]
    rfl
  · rw [← atOnce_fire, atOnce, after_bind, begun, h.after_begin]

/-! ## What is left to do -/

/-- A timer that retries waits again from where its work ended. -/
theorem settleTimer_retrying {task : Task} {timeout : Duration} {waiting : Timer.Waiting}
    (fired : Nat) (timer : s.controller.timers.get? number = some
      { rhythm := .retrying timeout, task, waiting, lifecycle := { phase := .firing } }) :
    ∃ next : Timer.Waiting, next.due = s.site.now * nanosPerMilli + Timer.wait timeout ∧
      ((settleTimer number fired .again).after s).controller.timers.get? number =
        some { rhythm := .retrying timeout, task, waiting := next } := by
  have settled : ({ phase := .firing } : Timer.Lifecycle).settle .again = (true, {}) := rfl
  let due := s.site.now * nanosPerMilli + Timer.wait timeout
  unfold settleTimer
  rw [after_get_bind, timer]
  dsimp only
  rw [settled, after_bind, after_changeSite, after_changeController]
  refine ⟨waiting.again due s.site.now s.site.waits, ?_, ?_⟩
  · unfold Timer.Waiting.again
    split <;> rfl
  · dsimp only
    rw [Numbered.get?_modify, if_pos rfl, timer, Option.map_some, if_pos rfl]
    rfl

/-- What is left to do once the device was asked takes no time, and is no attempt. -/
theorem AboutToAsk.attempt (b : AboutToAsk driver p s u)
    (recorded : s.controller.probes.find? p.device.name = some p.timer) (fired : Nat) :
    let t := (finish driver (p.errand fired)).after u
    t.attempts = s.attempts ++ [(s.site.now, p.device, ((p.ask driver).result u).isOk)] ∧
      Confined p.timer s t := by
  intro t
  let v := (p.ask driver).after u
  have asked : v.attempts =
      s.attempts ++ [(s.site.now, p.device, ((p.ask driver).result u).isOk)] := by
    rw [← b.attempts, ← b.confined.now]
    exact attempts_ask driver p.device p.command.requests u
  have confined : Confined p.timer s v := b.confined.trans (Confined.ask _ _ u)
  have settled (control : Timer.Control) (w : Service σ) :
      Noting (·.attempt? = none) w ((settleTimer p.timer fired control).after w) :=
    settleTimer_within (R := Noting (·.attempt? = none)) p.timer fired control
      (fun _ => .of_eq rfl) (fun _ _ => .of_eq rfl) w
  cases answer : (p.ask driver).result u with
  | error e =>
    rw [answer] at asked
    have left : t = _ := after_finish_error driver answer
    rw [left]
    exact ⟨((settled .again v).attempts).trans asked, confined.trans (Confined.settleTimer _ _ v)⟩
  | ok results =>
    rw [answer] at asked
    have left : t = _ := after_finish_ok driver answer
    have quiet : Noting (·.attempt? = none) v ((reportSuccess p.device).after v) :=
      (reportSuccess_quiet p.device v).mono fun _ => Effect.attempt?_of_quiet
    have success : Confined p.timer v ((reportSuccess p.device).after v) := Confined.success (by
      rw [← recorded, ← b.probes]
      exact congrArg (·.probes.find? p.device.name) (controller_ask driver _ _ u))
    rw [left]
    exact ⟨((quiet.trans (settled .retire _)).attempts).trans asked,
      (confined.trans success).trans (Confined.settleTimer _ _ _)⟩

/-- A device that does not answer is probed again, as long after the attempt as the timer waits. -/
theorem AboutToAsk.failed (b : AboutToAsk driver p s u) (h : Probing driver p due s)
    {e : DriverError} (unanswered : (p.ask driver).result u = .error e) (fired : Nat) :
    let t := (finish driver (p.errand fired)).after u
    Silent s t ∧ SameGround ((p.ask driver).after u) t ∧
      Probing driver p (s.site.now * nanosPerMilli + Timer.wait p.timeout) t := by
  intro t
  let v := (p.ask driver).after u
  let i := commandsOf driver s p.device
  have left : t = (settleTimer p.timer fired .again).after v :=
    after_finish_error driver unanswered
  have now : v.site.now = s.site.now := (b.confined.trans (Confined.ask _ _ u)).now
  have controller : v.controller = u.controller := controller_ask driver _ _ u
  have silent : Silent s t := by
    rw [left]
    exact (b.silent.trans (ask_silent driver _ _ u)).trans (settleTimer_silent _ _ _ v)
  have kept : Kept p.device i t := by
    have asked : Within (Onward (Kept p.device i)) (p.ask driver) :=
      ask_within (kept_of_still (Still.makeAddress driver p.device) _ i) (fun _ _ _ => id) _
    rw [left]
    exact kept_of_still (Still.settleTimer _ _ _) _ i _ (asked u b.kept)
  obtain ⟨waiting, timer⟩ := b.fires
  rw [← controller] at timer
  obtain ⟨next, again, waits⟩ := settleTimer_retrying fired timer
  obtain ⟨_, settled⟩ := settleTimer_modified timer fired .again
  refine ⟨silent, ?_, (silent.device? _).trans h.registered, (silent.isDown _).trans h.down, ?_, ?_,
    next, again.trans (by rw [now]), by rw [left]; exact waits⟩
  · rw [left]
    exact SameGround.settleTimer _ _ _ v
  · rw [kept.commanded.commands]
    exact h.found
  · rw [left, settled.plain.probes, controller, b.probes]
    exact h.recorded

/-- The device of a probe answered, and the timer does not wait any more. -/
structure Recovered (p : Probe) (s t : Service σ) : Prop where
  registered : t.device? p.device.name = some p.device
  up : t.site.isDown p.device = false
  inHand : (t.site.condition p.device).remainingFails = t.controller.config.allowedFails
  told : t.healthEvents = (s.site.now, p.device.name, .up) :: s.healthEvents
  ended : t.isLive p.timer = false

theorem AboutToAsk.answered (b : AboutToAsk driver p s u) (h : Probing driver p due s)
    (known : s.site.Knows p.device) {results : List Result}
    (answered : (p.ask driver).result u = .ok results) (fired : Nat) :
    Recovered p s ((finish driver (p.errand fired)).after u) := by
  let d := p.device
  let v := (p.ask driver).after u
  let w := (reportSuccess d).after v
  have silent : Silent s v := b.silent.trans (ask_silent driver _ _ u)
  have now : v.site.now = s.site.now := (b.confined.trans (Confined.ask _ _ u)).now
  have down : turned d .success v = (.down, .up) :=
    Prod.ext (beq_iff_eq.1 ((silent.isDown d).trans h.down)) rfl
  have known : v.site.Knows d := by
    rw [Site.Knows, silent.health.next]
    exact known
  have reported := conclude_sameHealth d .success "" v
  have condition : ((enter d .success).after v).site.condition d =
      (v.site.condition d).following v.controller.config.allowedFails .success := by
    show (v.site.setCondition d _).condition d = _
    rw [Site.condition_setCondition known, if_pos rfl]
  have said : w.healthEvents = _ := healthEvents_conclude d .success "" v
  have settled : Silent w ((settleTimer p.timer fired .retire).after w) :=
    settleTimer_silent p.timer fired .retire w
  have left : (finish driver (p.errand fired)).after u =
      (settleTimer p.timer fired .retire).after w := after_finish_ok driver answered
  rw [left]
  refine ⟨?_, (settled.isDown d).trans (up_of_success known), ?_, ?_, ?_⟩
  · rw [settled.device?]
    exact (device?_conclude d .success "" d.name v).trans
      ((silent.device? d.name).trans h.registered)
  · rw [settled.health.remaining, settled.health.config]
    show (((conclude d .success "").after v).site.condition d).remainingFails =
      ((conclude d .success "").after v).controller.config.allowedFails
    rw [reported.remaining, reported.config, condition]
    rfl
  · rw [settled.noting.healthEvents, said, down, if_neg (by decide),
      silent.noting.healthEvents, now]
    rfl
  · rw [(settleTimer_retire p.timer fired w).live, decide_eq_false (not_not.2 rfl), Bool.and_false]

/-! ## One attempt -/

/-- One attempt to read the device of a probe, which takes no time and of which no event comes. -/
structure Attempted (p : Probe) (answered : Bool) (s t : Service σ) : Prop where
  attempts : t.attempts = s.attempts ++ [(s.site.now, p.device, answered)]
  confined : Confined p.timer s t
  unsent : Unsent s t

theorem Probing.unsent (h : Probing driver p due s) :
    Unsent s ((fireTimer driver p.timer).after s) :=
  fireTimer_of_still Unsent.of_still fun task ht => by
    obtain ⟨waiting, -, timer⟩ := h.waits
    rw [taskOf, timer] at ht
    cases ht
    exact Unsent.probe driver p.device.name

/-- A probe fires, and the device does not answer. -/
theorem Probing.failed (h : Probing driver p due s) (tidy : Tidy allowed s) {e : DriverError}
    (unanswered : (p.ask driver).result s = .error e) :
    let t := (fireTimer driver p.timer).after s
    Attempted p false s t ∧ Silent s t ∧ SameGround ((p.ask driver).after s) t ∧
      Probing driver p (s.site.now * nanosPerMilli + Timer.wait p.timeout) t := by
  intro t
  obtain ⟨u, b, left⟩ := h.begins (tidy.catalogued.devices h.registered)
  obtain ⟨same, ground⟩ := b.ground.asked driver p.device p.command.requests
  have unanswered : (p.ask driver).result u = .error e := same.trans unanswered
  obtain ⟨attempts, confined⟩ := b.attempt h.recorded (s.site.now * nanosPerMilli)
  obtain ⟨silent, ended, again⟩ := b.failed h unanswered (s.site.now * nanosPerMilli)
  rw [unanswered] at attempts
  rw [← left] at attempts confined again silent ended
  exact ⟨⟨attempts, confined, h.unsent⟩, silent, ground.trans ended, again⟩

/-- A probe fires, and the device answers. -/
theorem Probing.answered (h : Probing driver p due s) (tidy : Tidy allowed s)
    {results : List Result} (answered : (p.ask driver).result s = .ok results) :
    let t := (fireTimer driver p.timer).after s
    Attempted p true s t ∧ Recovered p s t := by
  intro t
  obtain ⟨u, b, left⟩ := h.begins (tidy.catalogued.devices h.registered)
  obtain ⟨same, -⟩ := b.ground.asked driver p.device p.command.requests
  have answered : (p.ask driver).result u = .ok results := same.trans answered
  obtain ⟨attempts, confined⟩ := b.attempt h.recorded (s.site.now * nanosPerMilli)
  have recovered := b.answered h (tidy.accounted.known h.registered) answered
    (s.site.now * nanosPerMilli)
  rw [answered] at attempts
  rw [← left] at attempts confined recovered
  exact ⟨⟨attempts, confined, h.unsent⟩, recovered⟩

end Service

end FieldGateway
