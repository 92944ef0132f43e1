import FieldGateway.Proofs.Probing.Calm
import FieldGateway.Service.Sampling

/-
  What is told of a reading (`Tells`): the answer of the device, the report on it, the event that
  is published, in the order in which they are put on record, and how many reads are counted. All
  else that happens meanwhile tells nothing of it. `readRaw_cases` for the reading of a command,
  `publishResults_tells` for what is published of an answer.
-/

namespace FieldGateway

namespace Effect

/-- The answer to a read, if it has a result for each request. -/
def results? : Effect → Option (List Result)
  | .driver (.read _ _ requests (.ok results)) =>
    if results.length = requests.length then some results else none
  | _ => none

/-- An event goes to the bus or to a publisher of one's own. -/
def isEvent : Effect → Bool
  | .announced _ (.readings ..) | .handedOver .. => true
  | _ => false

/-- A device answers, a report is made on it, or an event is published. -/
def tellsOfReading (e : Effect) : Bool := e.results?.isSome || e.report?.isSome || e.isEvent

end Effect

namespace Service

open FieldGateway.Action

variable {σ : Type}

/-- How an event goes out. -/
def publication (s : Service σ) (e : CookedEvent) : Effect :=
  match s.controller.publisher with
  | .bus => .announced s.controller.config.serviceName (Announcement.ofCooked e s.site.seconds)
  | .own => .handedOver e.event.source e.readingCount

/-! ## What is told of reading -/

/-- These effects tell of reading, in this order, and so many reads are counted. -/
structure Tells (told : List Effect) (reads : Nat) (s t : Service σ) : Prop where
  trace : ∃ new, t.site.trace = new ++ s.site.trace ∧
    (new.reverse.map (·.2)).filter (·.tellsOfReading) = told
  reads : t.controller.metrics.readCommands = s.controller.metrics.readCommands + reads

namespace Tells

variable {s t u : Service σ} {told told' : List Effect} {reads reads' : Nat}

theorem of_eq (trace : t.site.trace = s.site.trace)
    (reads : t.controller.metrics = s.controller.metrics) : Tells [] 0 s t :=
  ⟨⟨[], trace, rfl⟩, by rw [reads]; rfl⟩

theorem trans (h : Tells told reads s t) (h' : Tells told' reads' t u) :
    Tells (told ++ told') (reads + reads') s u := by
  obtain ⟨⟨new, ht, hn⟩, count⟩ := h
  obtain ⟨⟨newer, hu, hn'⟩, count'⟩ := h'
  refine ⟨⟨newer ++ new, by rw [hu, ht, List.append_assoc], ?_⟩, ?_⟩
  · rw [List.reverse_append, List.map_append, List.filter_append, hn, hn']
  · rw [count', count, Nat.add_assoc]

theorem before (h : Tells [] 0 s t) (h' : Tells told reads t u) : Tells told reads s u := by
  simpa using h.trans h'

theorem after (h : Tells told reads s t) (h' : Tells [] 0 t u) : Tells told reads s u := by
  simpa using h.trans h'

theorem nothing (h : Noting (·.tellsOfReading = false) s t)
    (metrics : t.controller.metrics = s.controller.metrics) : Tells [] 0 s t := by
  obtain ⟨new, ht, hn⟩ := h
  refine ⟨⟨new, ht, List.filter_eq_nil_iff.2 fun e he => ?_⟩, by rw [metrics]; rfl⟩
  obtain ⟨x, hx, rfl⟩ := List.mem_map.1 he
  simp [hn x (List.mem_reverse.1 hx)]

theorem one {e : Effect} {now : Nat} (ht : t.site.trace = (now, e) :: s.site.trace)
    (he : e.tellsOfReading = true) (metrics : t.controller.metrics = s.controller.metrics) :
    Tells [e] 0 s t :=
  ⟨⟨[(now, e)], ht, by simp [he]⟩, by rw [metrics]; rfl⟩

instance : Std.Refl (Tells (σ := σ) [] 0) := ⟨fun _ => .of_eq rfl rfl⟩

instance : IsTrans (Service σ) (Tells [] 0) := ⟨fun _ _ _ h h' => h.trans h'⟩

/-! ## Parts of a reading -/

theorem announce (source : String) {a : Int64 → Announcement}
    (h : ∀ now, (Effect.announced source (a now)).tellsOfReading = false) :
    Within (Tells [] 0) (announce (σ := σ) source a) :=
  fun _ => .nothing (.one rfl (h _)) rfl

theorem report {e : Effect} (h : e.tellsOfReading = false) :
    Within (Tells [] 0) (report (σ := σ) e) :=
  report_within fun _ => .nothing (.one rfl h) rfl

theorem cancelProbe (name : String) : Within (Tells [] 0) (cancelProbe (σ := σ) name) :=
  cancelProbe_within name (fun _ => .of_eq rfl rfl) fun _ _ => .of_eq rfl rfl

theorem armProbe (name : String) : Within (Tells [] 0) (armProbe (σ := σ) name) :=
  armProbe_within name (fun _ _ => .of_eq rfl rfl) fun _ _ => .of_eq rfl rfl

theorem cameUp (d : Device) : Within (Tells [] 0) (cameUp (σ := σ) d) :=
  .bind (cancelProbe _) fun _ => .bind (announce _ fun _ => rfl) fun _ => report rfl

theorem wentDown (d : Device) (reason : String) :
    Within (Tells [] 0) (wentDown (σ := σ) d reason) :=
  .bind (announce _ fun _ => rfl) fun _ => .bind (report rfl) fun _ => armProbe _

theorem conclude (d : Device) (r : Report) (reason : String) (s : Service σ) :
    Tells [.reported d r] 0 s ((conclude d r reason).after s) := by
  have entered : Tells [.reported d r] 0 s ((enter d r).after s) := .one rfl rfl rfl
  rcases conclude_cases d r reason s with ⟨_, h⟩ | ⟨_, h⟩ | ⟨_, h⟩
  · rw [h]
    exact entered
  · rw [h]
    exact entered.trans (cameUp d _)
  · rw [h]
    exact entered.trans (wentDown d reason _)

theorem success (d : Device) (s : Service σ) :
    Tells [.reported d .success] 0 s ((reportSuccess d).after s) :=
  conclude d .success "" s

theorem failure (d : Device) (reason : String) (s : Service σ) :
    Tells [.reported d .failure] 0 s ((reportFailure d reason).after s) :=
  conclude d .failure reason s

theorem violation (d : Device) (reason : String) (s : Service σ) :
    Tells [.reported d .violation] 0 s ((forceDown d reason).after s) :=
  conclude d .violation reason s

variable (driver : Driver σ)

theorem index (r : Registration) : Within (Tells [] 0) (onSite (Site.index driver r)) :=
  fun s => .nothing (index_noting driver r (fun _ => rfl) s) rfl

theorem makeAddress (d : Device) : Within (Tells [] 0) (onSite (Site.address driver d)) :=
  fun s => .nothing (makeAddress_noting driver d (fun _ => rfl) s) rfl

/-- Of a read, an answer is told that has a result for each request. -/
theorem read (d : Device) (a : Address) (requests : List Request) (s : Service σ) :
    Tells ([.driver (.read d a requests ((onSite (Site.read driver d a requests)).result s))].filter
      (·.tellsOfReading)) 0 s ((onSite (Site.read driver d a requests)).after s) :=
  ⟨⟨[(s.site.now, _)], rfl, rfl⟩, rfl⟩

theorem touch (d : Device) : Within (Tells [] 0) (touch (σ := σ) d) :=
  touch_within fun _ => .nothing (.one rfl rfl) rfl

theorem countRead (s : Service σ) : Tells [] 1 s ((countRead : Action σ Unit).after s) :=
  ⟨⟨[], rfl, rfl⟩, rfl⟩

end Tells

/-- The same results would make the same event, and it would go out in the same way. -/
structure SameKitchen (s t : Service σ) : Prop where
  kitchen : t.kitchen = s.kitchen
  publication (e : CookedEvent) : t.publication e = s.publication e

namespace SameKitchen

theorem trans {s t u : Service σ} (h : SameKitchen s t) (h' : SameKitchen t u) :
    SameKitchen s u :=
  ⟨h'.kitchen.trans h.kitchen, fun e => (h'.publication e).trans (h.publication e)⟩

instance : Std.Refl (SameKitchen (σ := σ)) := ⟨fun _ => ⟨rfl, fun _ => rfl⟩⟩

instance : IsTrans (Service σ) SameKitchen := ⟨fun _ _ _ => trans⟩

variable (driver : Driver σ)

theorem index (r : Registration) : Within SameKitchen (onSite (Site.index driver r)) := fun s => by
  rw [after_onSite]
  rcases Site.index_cases driver r s.site with h | ⟨_, h⟩ <;> rw [h] <;> exact ⟨rfl, fun _ => rfl⟩

theorem makeAddress (d : Device) : Within SameKitchen (onSite (Site.address driver d)) := by
  intro s
  rw [after_onSite]
  rcases Site.address_cases driver d s.site with ⟨_, _, h⟩ | ⟨_, outcome, _, _, h⟩
  · rw [h]
    exact ⟨rfl, fun _ => rfl⟩
  · rw [h]
    cases outcome <;> exact ⟨rfl, fun _ => rfl⟩

theorem read (d : Device) (a : Address) (requests : List Request) :
    Within SameKitchen (onSite (Site.read driver d a requests)) :=
  fun _ => ⟨rfl, fun _ => rfl⟩

theorem countRead : Within SameKitchen (countRead : Action σ Unit) := fun _ => ⟨rfl, fun _ => rfl⟩

theorem touch (d : Device) : Within SameKitchen (touch (σ := σ) d) :=
  touch_within fun _ => ⟨rfl, fun _ => rfl⟩

/-- A success that brings no device up changes no more than a condition. -/
theorem success {d : Device} {s : Service σ} (up : s.site.isDown d = false) :
    SameKitchen s ((reportSuccess d).after s) := by
  have operating : ¬ (turned d .success s).1 = .down := by simpa [Site.isDown, turned] using up
  rw [show (reportSuccess d).after s = _ from after_success d "" s, if_neg operating]
  exact ⟨rfl, fun _ => rfl⟩

end SameKitchen

/-! ## Reading and publishing -/

variable (driver : Driver σ)

/-- A driver that fails is reported, and that is no success. -/
theorem driverFailed_tells (d : Device) (e : DriverError) (s : Service σ) :
    ∃ r, r ≠ .success ∧ Tells [.reported d r] 0 s ((driverFailed d e).after s) := by
  cases e with
  | assertionFailed reason =>
    simp only [driverFailed, violated, after_bind, after_pure]
    exact ⟨.violation, by decide, .violation d reason s⟩
  | _ =>
    simp only [driverFailed, after_bind, after_pure]
    exact ⟨.failure, by decide, .failure d _ s⟩

theorem address_tells (d : Device) (s : Service σ) :
    let t := (address driver d).after s
    (∃ a, (address driver d).result s = .ok a ∧ Tells [] 0 s t ∧ SameKitchen s t ∧ Silent s t) ∨
    ∃ e, (address driver d).result s = .error e ∧ Tells [.reported d .failure] 0 s t := by
  intro t
  have told := Tells.makeAddress driver d s
  have kitchen := SameKitchen.makeAddress driver d s
  have silent := (Calm.address driver d s).toSilent
  unfold t address
  rw [result_bind, after_bind]
  cases (onSite (Site.address driver d)).result s with
  | ok a => exact .inl ⟨a, rfl, told, kitchen, silent⟩
  | error e =>
    simp only [result_bind, after_bind, result_pure, after_pure]
    exact .inr ⟨_, rfl, told.trans (.failure d e.message _)⟩

/-- An answer is one result for each request, or there is one report that is no success. -/
theorem received_cases {d : Device} (c : Command) (answer : Except DriverError (List Result))
    {s : Service σ} (up : s.site.isDown d = false) :
    let t := (received d c answer).after s
    (∃ results, answer = .ok results ∧ results.length = c.requests.length ∧
      (received d c answer).result s = .ok results ∧ Tells [.reported d .success] 1 s t ∧
      SameKitchen s t) ∨
    (∀ results, answer = .ok results → results.length ≠ c.requests.length) ∧
      ∃ e r, (received d c answer).result s = .error e ∧ r ≠ .success ∧
        Tells [.reported d r] 0 s t := by
  intro t
  have size : c.requests.length = c.size := List.length_map _
  unfold t received
  cases answer with
  | error e =>
    obtain ⟨r, hr, told⟩ := driverFailed_tells d e s
    simp only [result_bind, after_bind, result_pure, after_pure]
    exact .inr ⟨by rintro _ ⟨⟩, _, r, rfl, hr, told⟩
  | ok results =>
    by_cases length : results.length = c.size
    · simp only [if_pos length, result_bind, after_bind, result_pure, after_pure]
      refine .inl ⟨results, rfl, length.trans size.symm, rfl, ?_, ?_⟩
      · exact ((Tells.success d s).trans (.countRead _)).trans (.touch d _)
      · exact (SameKitchen.success up).trans ((SameKitchen.countRead _).trans (.touch d _))
    · simp only [if_neg length, violated, result_bind, after_bind, result_pure, after_pure]
      refine .inr ⟨fun _ h => ?_, _, .violation, rfl, by decide, .violation d _ s⟩
      cases h
      rw [size]
      exact length

/-- A device that is up is read: the driver answers what was asked, or there is one report that is
no success. -/
theorem readRaw_cases {d : Device} (c : Command) {s : Service σ} (up : s.site.isDown d = false) :
    let t := (readRaw driver d c).after s
    (∃ a results, (readRaw driver d c).result s = .ok results ∧
      results.length = c.requests.length ∧
      Tells [.driver (.read d a c.requests (.ok results)), .reported d .success] 1 s t ∧
      SameKitchen s t) ∨
    ∃ e r, (readRaw driver d c).result s = .error e ∧ r ≠ .success ∧
      Tells [.reported d r] 0 s t := by
  intro t
  unfold t
  rw [readRaw_eq, result_bind, after_bind]
  have found := address_tells driver d s
  generalize (address driver d).after s = u at found ⊢
  rcases found with ⟨a, hr, found, kitchen, silent⟩ | ⟨e, hr, found⟩
  · rw [hr]
    dsimp only
    rw [result_bind, after_bind]
    have read := Tells.read driver d a c.requests u
    have kitchen := kitchen.trans (SameKitchen.read driver d a c.requests u)
    have up : ((onSite (Site.read driver d a c.requests)).after u).site.isDown d = false := by
      rw [(Calm.read driver d a c.requests u).toSilent.isDown, silent.isDown, up]
    generalize (onSite (Site.read driver d a c.requests)).result u = answer at *
    generalize (onSite (Site.read driver d a c.requests)).after u = v at *
    rcases received_cases c answer up with
      ⟨results, rfl, length, hr, told, served⟩ | ⟨wrong, e, r, hr, no, told⟩
    · have answered : Effect.tellsOfReading (.driver (.read d a c.requests (.ok results))) := by
        simp [Effect.tellsOfReading, Effect.results?, length]
      rw [List.filter_cons_of_pos answered] at read
      exact .inl ⟨a, results, hr, length, (found.before read).trans told, kitchen.trans served⟩
    · have unanswered : ¬ Effect.tellsOfReading (.driver (.read d a c.requests answer)) := by
        cases answer with
        | error e => exact Bool.false_ne_true
        | ok results =>
          simp [Effect.tellsOfReading, Effect.results?, wrong results rfl, Effect.report?,
            Effect.isEvent]
      rw [List.filter_cons_of_neg unanswered] at read
      exact .inr ⟨e, r, hr, no, (found.before read).before told⟩
  · rw [hr]
    exact .inr ⟨e, .failure, rfl, by decide, found⟩

/-- What can be cooked is published, and nothing else. -/
theorem publishResults_tells (d : Device) (c : Command) (results : List Result) (s : Service σ) :
    Tells ((s.kitchen.cook d.name c results).toOption.toList.map s.publication) 0 s
      ((publishResults d c results).after s) := by
  unfold publishResults
  rw [after_bind, show (cook d c results).result s = s.kitchen.cook d.name c results from rfl]
  cases s.kitchen.cook d.name c results with
  | error e => exact .of_eq rfl rfl
  | ok event =>
    show Tells [s.publication event] 0 s ((publish event).after ((cook d c results).after s))
    unfold publish publication
    rw [after_get_bind]
    show Tells [match s.controller.publisher with | .bus => _ | .own => _] 0 s
      (Action.after (match s.controller.publisher with | .bus => _ | .own => _) _)
    cases s.controller.publisher with
    | bus => exact ⟨⟨[_], rfl, rfl⟩, rfl⟩
    | own => exact ⟨⟨[_], rfl, rfl⟩, rfl⟩

end Service

end FieldGateway
