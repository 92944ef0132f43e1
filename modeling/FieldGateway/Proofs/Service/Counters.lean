import FieldGateway.Driver.Simulated
import FieldGateway.Proofs.Sampling.Ticks
import FieldGateway.Proofs.Service.Idle
import Mathlib.Algebra.GroupWithZero.Nat

/-
  What the counters of a service say. Events and readings are counted where an event goes to the
  bus, whoever made it; reads are counted where the driver answered with one result for each
  request, whatever becomes of the answer. `Metered` is the invariant of the first two, kept by
  every step of work with a device; `Counted` relates services between which as many reads were
  counted as the driver answered, and it holds of the operations that read on demand or on
  schedule. Everything else counts no read (`perform_adds`). Over a whole run the counters are
  what the record says (`counters_of_run`).
-/

namespace FieldGateway

namespace Effect

/-- How many readings an event has that goes to the bus. -/
def sent? : Effect → Option Nat
  | .announced _ (.readings _ _ _ count _ _ _) => some count
  | _ => none

theorem sent?_of_isEvent {e : Effect} (h : e.isEvent = false) : e.sent? = none := by
  unfold sent?
  split
  · cases h
  · rfl

theorem results?_of_isRead {e : Effect} (h : e.isRead = false) : e.results? = none := by
  unfold results?
  split
  · cases h
  · rfl

end Effect

namespace Service

open FieldGateway.Action

variable {σ : Type} (driver : Driver σ) {s t u : Service σ}

/-! ## Events -/

/-- The reading counts of the events that went to the bus, the latest first. -/
def sent (s : Service σ) : List Nat := s.site.trace.filterMap (·.2.sent?)

/-- The counters of events and readings are right for what went to the bus. -/
structure Metered (s : Service σ) : Prop where
  publisher : s.controller.publisher = .bus
  events : s.controller.metrics.eventsSent = s.sent.length
  readings : s.controller.metrics.readingsSent = s.sent.sum

theorem Noting.sent (h : Noting (·.isEvent = false) s t) : t.sent = s.sent := by
  obtain ⟨new, ht, hnew⟩ := h
  have none : new.filterMap (·.2.sent?) = [] :=
    List.filterMap_eq_nil_iff.2 fun x hx => Effect.sent?_of_isEvent (hnew x hx)
  rw [Service.sent, ht, List.filterMap_append, none]
  rfl

namespace Metered

theorem of_fresh (h : Fresh s) (publisher : s.controller.publisher = .bus) : Metered s := by
  refine ⟨publisher, ?_, ?_⟩ <;> rw [h.metrics, sent, h.trace] <;> rfl

theorem unsent (h : Metered s) (step : Unsent s t) : Metered t where
  publisher := step.publisher.trans h.publisher
  events := by rw [step.metrics, step.noting.sent, h.events]
  readings := by rw [step.metrics, step.noting.sent, h.readings]

theorem keeps {α : Type} {a : Action σ α} (h : Within Unsent a) : Keeps Metered a :=
  fun s hs => hs.unsent (h s)

theorem still {α : Type} {a : Action σ α} (h : Within Still a) : Keeps Metered a :=
  keeps (.of_still h)

/-- An event goes to the bus and is counted with its readings. -/
theorem publish (e : CookedEvent) : Keeps Metered (publish (σ := σ) e) := by
  intro s hs
  unfold Service.publish
  rw [after_get_bind]
  dsimp only
  rw [hs.publisher]
  refine ⟨hs.publisher, ?_, ?_⟩
  · show s.controller.metrics.eventsSent + 1 = (e.readingCount :: s.sent).length
    rw [hs.events]
    rfl
  · show s.controller.metrics.readingsSent + e.readingCount = (e.readingCount :: s.sent).sum
    rw [hs.readings, List.sum_cons, Nat.add_comm]

theorem countRead : Keeps Metered (countRead (σ := σ)) :=
  fun _ h => ⟨h.publisher, h.events, h.readings⟩

end Metered

variable {driver} in
theorem workStep_metered {d : Device} (h : WorkStep driver d s t) (hs : Metered s) : Metered t := by
  cases h with
  | index => exact hs.unsent (Idle.index driver d.registration s).unsent
  | address => exact Metered.still (Still.makeAddress driver d) s hs
  | read a requests => exact Metered.keeps (Unsent.read driver d a requests) s hs
  | write a requests values => exact Metered.still (Still.write driver d a requests values) s hs
  | success => exact Metered.still (Still.reportSuccess d) s hs
  | failure reason => exact Metered.still (Still.reportFailure d reason) s hs
  | violation reason => exact Metered.still (Still.forceDown d reason) s hs
  | countRead => exact Metered.countRead s hs
  | touch => exact Metered.still (Still.touch d) s hs
  | cook c results => exact Metered.still (Still.cook d c results) s hs
  | publish e => exact Metered.publish e s hs
  | remember number results => exact Metered.still (Still.changeSampler number _) s hs

variable {driver} in
theorem workOn_metered {name : String} (h : WorkOn driver name s t) (hs : Metered s) :
    Metered t := by
  rcases h with rfl | ⟨d, _, work⟩
  · exact hs
  · exact work.keeps workStep_metered hs

theorem run_metered (task : Task) : Keeps Metered (run driver task) :=
  run_within driver workOn_metered (fun name => Metered.still (Still.forgetProbe name))
    (Metered.still Still.announceCounters) task

theorem perform_metered (s : Service σ) (op : Operation σ) (hs : Metered s) :
    Metered (perform driver s op) := by
  cases op with
  | deviceCommand | execute | postReadings =>
    exact workOn_metered (perform_chores driver rfl s).workOn hs
  | fire timer => exact fireTimer_of_still Metered.still (fun task _ => run_metered driver task) hs
  | _ => exact hs.unsent (perform_idle driver rfl s).unsent

/-! ## Reads -/

/-- As many reads were counted as the driver answered with one result for each request. -/
def Counted (s t : Service σ) : Prop :=
  ∃ new, t.site.trace = new ++ s.site.trace ∧ t.controller.metrics.readCommands =
    s.controller.metrics.readCommands + (new.filterMap (·.2.results?)).length

namespace Counted

theorem trans (h : Counted s t) (h' : Counted t u) : Counted s u := by
  obtain ⟨new, ht, count⟩ := h
  obtain ⟨newer, hu, count'⟩ := h'
  refine ⟨newer ++ new, by rw [hu, ht, List.append_assoc], ?_⟩
  rw [count', count, List.filterMap_append, List.length_append]
  omega

/-- Nothing is answered, and nothing counted. -/
theorem of_noting (h : Noting (·.isRead = false) s t)
    (reads : t.controller.metrics.readCommands = s.controller.metrics.readCommands) :
    Counted s t := by
  obtain ⟨new, ht, hnew⟩ := h
  have none : new.filterMap (·.2.results?) = [] :=
    List.filterMap_eq_nil_iff.2 fun x hx => Effect.results?_of_isRead (hnew x hx)
  exact ⟨new, ht, by rw [reads, none]; rfl⟩

instance : Std.Refl (Counted (σ := σ)) := ⟨fun _ => of_noting (.of_eq rfl) rfl⟩

instance : IsTrans (Service σ) Counted := ⟨fun _ _ _ => trans⟩

theorem of_idle {α : Type} {a : Action σ α} (h : Within Idle a) : Within Counted a :=
  fun s => of_noting (h s).unread (by rw [(h s).metrics])

theorem of_still {α : Type} {a : Action σ α} (h : Within Still a) : Within Counted a :=
  of_idle (.of_still h)

theorem publish (e : CookedEvent) : Within Counted (publish (σ := σ) e) :=
  publish_within e (fun _ _ => of_noting (.one rfl rfl) rfl) (fun _ => of_noting (.of_eq rfl) rfl)
    fun _ => of_noting (.one rfl rfl) rfl

/-- An answer of one result for each request is counted, and no other. -/
theorem received (d : Device) (a : Address) (c : Command)
    (answer : Except DriverError (List Result)) (s : Service σ) :
    let t := (received d c answer).after s
    Noting (·.isRead = false) s t ∧ t.controller.metrics.readCommands =
      s.controller.metrics.readCommands +
        (Effect.driver (.read d a c.requests answer)).results?.toList.length := by
  intro t
  unfold t Service.received
  have size : c.requests.length = c.size := List.length_map _
  cases answer with
  | error e =>
    have failed := Still.driverFailed d e s
    exact ⟨failed.unread, congrArg Metrics.readCommands failed.metrics⟩
  | ok results =>
    dsimp only
    rw [Effect.results?, size]
    by_cases length : results.length = c.size
    · rw [if_pos length, if_pos length]
      have succeeded := Still.reportSuccess d s
      have touched := Still.touch d ((countRead).after ((reportSuccess d).after s))
      refine ⟨(succeeded.unread.trans (.of_eq rfl)).trans touched.unread, ?_⟩
      have counted := congrArg Metrics.readCommands touched.metrics
      refine counted.trans ?_
      show ((reportSuccess d).after s).controller.metrics.readCommands + 1 = _
      rw [succeeded.metrics]
      rfl
    · rw [if_neg length, if_neg length]
      have failed := Still.violated d
        (Text.natText results.length ++ " results for " ++ Text.natText c.size ++ " requests") s
      exact ⟨failed.unread, congrArg Metrics.readCommands failed.metrics⟩

theorem readRaw (d : Device) (c : Command) : Within Counted (readRaw driver d c) := by
  rw [readRaw_eq]
  refine .bind (of_still (Still.address driver d)) fun found => ?_
  cases found with
  | error e => exact .pure _
  | ok a =>
    intro s
    let answer := (onSite (Site.read driver d a c.requests)).result s
    obtain ⟨⟨new, ht, hnew⟩, count⟩ :=
      received d a c answer ((onSite (Site.read driver d a c.requests)).after s)
    have none : new.filterMap (·.2.results?) = [] :=
      List.filterMap_eq_nil_iff.2 fun x hx => Effect.results?_of_isRead (hnew x hx)
    refine ⟨new ++ [(s.site.now, .driver (.read d a c.requests answer))], ?_, count.trans ?_⟩
    · rw [List.append_assoc]
      exact ht
    · rw [List.filterMap_append, none, List.nil_append]
      cases h : (Effect.driver (.read d a c.requests answer)).results? <;>
        simp [h]

theorem read (d : Device) (c : Command) : Within Counted (read driver d c) := by
  refine .bind (readRaw driver d c) fun outcome => ?_
  cases outcome with
  | error e => exact .pure _
  | ok results => exact .bind (of_still (Still.cook d c results)) fun _ => .pure _

theorem runGet (device command : String) : Within Counted (runGet driver device command) := by
  refine .bind (of_idle (Idle.authorize driver device command .get)) fun found => ?_
  cases found with
  | error e => exact .pure _
  | ok p =>
    dsimp only
    cases p.2.unreadable? with
    | some resource => exact .pure _
    | none => exact .bind (read driver p.1 p.2) fun _ => .pure _

theorem publishResults (d : Device) (c : Command) (results : List Result) :
    Within Counted (publishResults (σ := σ) d c results) :=
  publishResults_within (of_still (Still.cook d c results)) publish

theorem sample (number : Nat) : Within Counted (sample driver number) := by
  refine sample_within (fun r => of_idle (Idle.index driver r)) number fun r d c => ?_
  refine .bind (readRaw driver d c) fun outcome => ?_
  cases outcome with
  | error e => exact .pure _
  | ok results =>
    have out := publishResults (σ := σ) d c results
    exact .ite (.ite (.bind (of_still (Still.changeSampler _ _)) fun _ => out) (.pure _)) out

end Counted

/-- No read was counted. -/
def SameReads (s t : Service σ) : Prop :=
  t.controller.metrics.readCommands = s.controller.metrics.readCommands

namespace SameReads

instance : Std.Refl (SameReads (σ := σ)) := ⟨fun _ => rfl⟩

instance : IsTrans (Service σ) SameReads := ⟨fun _ _ _ h h' => h'.trans h⟩

theorem unsent {α : Type} {a : Action σ α} (h : Within Unsent a) : Within SameReads a :=
  fun s => congrArg Metrics.readCommands (h s).metrics

theorem still {α : Type} {a : Action σ α} (h : Within Still a) : Within SameReads a :=
  unsent (.of_still h)

theorem publish (e : CookedEvent) : Within SameReads (publish (σ := σ) e) :=
  publish_within e (fun _ _ => rfl) (fun _ => rfl) fun _ => rfl

/-- Results that the driver came by on its own are not read. -/
theorem postReadings (device source : String) (results : List Result) :
    Within SameReads (postReadings driver device source results) :=
  postReadings_within (fun r => unsent (.of_idle (Idle.index driver r)))
    (fun d c results => still (Still.cook d c results))
    (fun d reason => still (Still.violated d reason)) publish device source results

end SameReads

/-! ## Runs -/

/-- Commands that read and samplers: what reads devices on demand or on schedule. -/
def Operation.reads (s : Service σ) : Operation σ → Bool
  | .deviceCommand _ _ m _ => m == .get
  | .execute r => r.method == .get
  | .fire timer =>
    match s.taskOf timer with
    | some (.sample _) => true
    | _ => false
  | _ => false

/-- How often meanwhile the driver answered with one result for each request. -/
def Tick.answers (x : Tick σ) : Nat := (x.noted.filterMap (·.results?)).length

theorem Counted.reads (h : Counted s t) : t.controller.metrics.readCommands =
    s.controller.metrics.readCommands + Tick.answers ⟨s, t⟩ := by
  obtain ⟨new, ht, count⟩ := h
  rw [count, Tick.answers, Tick.noted_eq (x := ⟨s, t⟩) ht, List.filterMap_map,
    List.filterMap_reverse, List.length_reverse]
  rfl

/-- What an operation reads on demand or on schedule. -/
def readsOf (s : Service σ) (op : Operation σ) : Nat :=
  if op.reads s then Tick.answers ⟨s, perform driver s op⟩ else 0

/-- What a run reads on demand or on schedule. -/
def readsOfAll (s : Service σ) : List (Operation σ) → Nat
  | [] => 0
  | op :: ops => readsOf driver s op + readsOfAll (perform driver s op) ops

theorem perform_counted {op : Operation σ} (h : op.reads s = true) :
    Counted s (perform driver s op) := by
  cases op with
  | deviceCommand device command m params =>
    obtain rfl : m = .get := eq_of_beq h
    refine Within.bind (Counted.runGet driver device command) (fun outcome => ?_) s
    cases outcome <;> exact .pure _
  | execute r =>
    obtain ⟨method, device, command, query, params⟩ := r
    obtain rfl : method = .get := eq_of_beq h
    refine Within.bind (Counted.runGet driver device command) (fun outcome => ?_) s
    cases outcome with
    | error e => exact .pure _
    | ok event => exact .ite (.bind (Counted.publish event) fun _ => .pure _) (.pure _)
  | fire timer =>
    refine fireTimer_of_still Counted.of_still fun task ht => ?_
    unfold Operation.reads at h
    cases task with
    | sample number => exact Counted.sample driver number
    | probe | counters => simp [ht] at h
  | _ => cases h

theorem perform_sameReads {op : Operation σ} (h : op.reads s = false) :
    SameReads s (perform driver s op) := by
  cases op with
  | deviceCommand device command m params =>
    obtain rfl : m = .put := by
      cases m
      · cases h
      · rfl
    exact SameReads.unsent (Unsent.answerPut driver device command params) s
  | execute r =>
    obtain ⟨method, device, command, query, params⟩ := r
    obtain rfl : method = .put := by
      cases method
      · cases h
      · rfl
    exact SameReads.unsent (Unsent.answerPut driver device command params) s
  | postReadings device source results =>
    exact SameReads.postReadings driver device source results s
  | fire timer =>
    refine fireTimer_of_still SameReads.still fun task ht => ?_
    cases task with
    | sample number => simp [Operation.reads, ht] at h
    | probe device => exact SameReads.unsent (Unsent.probe driver device)
    | counters => exact SameReads.still Still.announceCounters
  | _ => exact congrArg Metrics.readCommands (perform_idle driver rfl s).metrics

/-- A read is counted where a command that reads or a sampler gets its answer. -/
theorem perform_adds (s : Service σ) (op : Operation σ) :
    (perform driver s op).controller.metrics.readCommands =
      s.controller.metrics.readCommands + readsOf driver s op := by
  unfold readsOf
  cases h : op.reads s with
  | true => exact (perform_counted driver h).reads
  | false => exact perform_sameReads driver h

theorem performAll_adds (s : Service σ) (ops : List (Operation σ)) :
    (performAll driver s ops).controller.metrics.readCommands =
      s.controller.metrics.readCommands + readsOfAll driver s ops := by
  induction ops generalizing s with
  | nil => rfl
  | cons op ops ih =>
    rw [performAll_cons, ih, perform_adds, readsOfAll, Nat.add_assoc]

/-- At every point of a run the counters of a service that publishes to the bus are these: the
events that went to the bus, their readings taken together, and the answers of one result for each
request that commands that read and samplers got from the driver. What became of these answers
makes no difference, and neither probes, nor the reading that goes before a masked write, nor
results of the driver's own are counted as reads. The counters have no bound here: those that are
words of 64 bits agree with them as long as each of the three totals is less than `2 ^ 64`. -/
theorem counters_of_run {s₀ : Service σ} (h₀ : Fresh s₀) (bus : s₀.controller.publisher = .bus)
    (ops : List (Operation σ)) :
    let s := performAll driver s₀ ops
    s.controller.metrics =
      { eventsSent := s.sent.length
        readingsSent := s.sent.sum
        readCommands := readsOfAll driver s₀ ops } := by
  intro s
  have metered : Metered s := performAll_keeps (perform_metered driver) s₀ ops (.of_fresh h₀ bus)
  have reads : s.controller.metrics.readCommands = readsOfAll driver s₀ ops := by
    rw [performAll_adds, h₀.metrics, Nat.zero_add]
  calc s.controller.metrics
      = ⟨s.controller.metrics.eventsSent, s.controller.metrics.readingsSent,
          s.controller.metrics.readCommands⟩ := rfl
    _ = ⟨s.sent.length, s.sent.sum, readsOfAll driver s₀ ops⟩ := by
      rw [metered.events, metered.readings, reads]

/-- Two reads, one of them pushed, and a masked write, before which the driver reads as well. -/
theorem counters_of_two_reads :
    let driver := Simulation.driver false
    let s₀ := ofConfig { serviceName := "gateway" } 0 {}
    let ops : List (Operation Simulation) :=
      [.addProfile { name := "pump", resources :=
          [{ name := "level", properties := { type := .scalar (.int .int32), mask := some 15 } }] },
        .addDevice { name := "p1", profileName := "pump" },
        .execute { method := .get, device := "p1", command := "level", query := ⟨true, true⟩ },
        .deviceCommand "p1" "level" .put (Dict.ofList [("level", .text "3")]),
        .deviceCommand "p1" "level" .get ∅]
    Fresh s₀ ∧ s₀.controller.publisher = .bus ∧
      (performAll driver s₀ ops).controller.metrics =
        { eventsSent := 1, readingsSent := 1, readCommands := 2 } ∧
      ((performAll driver s₀ ops).site.trace.filter (·.2.isRead)).length = 3 := by
  intro driver s₀ ops
  have fresh : Fresh s₀ := ofConfig_fresh _ 0 _
  have three : ((performAll driver s₀ ops).site.trace.filter (·.2.isRead)).length = 3 := by
    decide +kernel
  have events : (performAll driver s₀ ops).sent = [1] := by decide +kernel
  have reads : readsOfAll driver s₀ ops = 2 := by decide +kernel
  have bus : s₀.controller.publisher = .bus := rfl
  refine ⟨fresh, bus, (counters_of_run driver fresh bus ops).trans ?_, three⟩
  rw [events, reads]
  rfl

end Service

end FieldGateway
