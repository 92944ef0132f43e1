import FieldGateway.Proofs.Sampling.Answers
import FieldGateway.Proofs.Sampling.Memory

/-
  What a sampler does when a timer fires for it. It gets no answer, for the device or the command
  is gone, locked, down, or does not answer as it should; then nothing is published and nothing new
  is remembered (`Unread`). Or the device answers, and all that comes of it follows from the answer
  and from what the sampler remembers (`Answered`). `fireTimer_cases` is the step of a run, and
  a `Tick` is that step seen from outside: by what it puts on record and by the count of reads.
-/

namespace FieldGateway

/-- A sampler publishes every answer, or those that are a change. -/
def Sampler.publishes (r : Sampler) (results : List Result) : Bool :=
  !r.onChange || r.isChange results

/-- A sampler for which only changes count, after an answer. -/
def Sampler.remembering (r : Sampler) (results : List Result) : Sampler :=
  if r.onChange && r.isChange results then { r with snapshot := some results } else r

namespace Service

open FieldGateway.Action

variable {σ : Type} (driver : Driver σ)

/-! ## Samplers -/

/-- The device that a sampler reads, and the command that it reads there. -/
def target? (s : Service σ) (k : Nat) : Option (Device × Command) := do
  let r ← s.controller.samplers.get? k
  let d ← s.device? r.device
  let c ← (Site.index driver d.registration s.site).1.resolve? r.source .get
  return (d, c)

theorem target?_eq_some {s : Service σ} {k : Nat} {r : Sampler} {d : Device} {c : Command}
    (hr : s.controller.samplers.get? k = some r) (hd : s.device? r.device = some d)
    (hc : (Site.index driver d.registration s.site).1.resolve? r.source .get = some c) :
    s.target? driver k = some (d, c) := by
  simp [target?, hr, hd, hc]

/-- The event of an answer to a sampler, if it can be cooked. -/
def event? (s : Service σ) (k : Nat) (results : List Result) : Option CookedEvent :=
  (s.target? driver k).bind fun p => (s.kitchen.cook p.1.name p.2 results).toOption

/-- What a sampler publishes of an answer. -/
def publications (s : Service σ) (k : Nat) (m : Sampler) (results : List Result) : List Effect :=
  if m.publishes results then (s.event? driver k results).toList.map s.publication else []

/-- The sampler got no answer. -/
structure Unread (k : Nat) (s t : Service σ) : Prop where
  told : ∃ reports : List (Device × Report), (∀ p ∈ reports, p.2 ≠ .success) ∧
    Tells (reports.map fun p => .reported p.1 p.2) 0 s t
  memory : t.memory? k = s.memory? k

/-- The sampler got an answer. -/
structure Answered (k : Nat) (m : Sampler) (results : List Result) (s t : Service σ) : Prop where
  known : s.memory? k = some m
  told : ∃ d c a, s.target? driver k = some (d, c) ∧ results.length = c.requests.length ∧
    Tells ([.driver (.read d a c.requests (.ok results)), .reported d .success] ++
      s.publications driver k m results) 1 s t
  memory : t.memory? k = some (m.remembering results)

/-- A schedule has no part in what is remembered. -/
theorem remembering_off (r : Sampler) (results : List Result) :
    { r with schedule := none : Sampler }.remembering results =
      { r.remembering results with schedule := none } := by
  show (if r.onChange && r.isChange results then _ else _) = _
  unfold Sampler.remembering
  split <;> rfl

theorem memory?_remember (s : Service σ) (k : Nat) (results : List Result) :
    ((changeSampler (σ := σ) k fun r => { r with snapshot := some results }).after s).memory? k =
      (s.memory? k).map fun m => { m with snapshot := some results } := by
  show ((s.controller.samplers.modify k _).get? k).map _ = _
  rw [Numbered.get?_modify, if_pos rfl, memory?]
  cases s.controller.samplers.get? k <;> rfl

theorem remember_tells (k : Nat) (results : List Result) :
    Within (Tells [] 0)
      (changeSampler (σ := σ) k fun r => { r with snapshot := some results }) :=
  fun _ => .of_eq rfl rfl

theorem remember_sameKitchen (k : Nat) (results : List Result) :
    Within SameKitchen (changeSampler (σ := σ) k fun r => { r with snapshot := some results }) :=
  fun _ => ⟨rfl, fun _ => rfl⟩

theorem SameSamplers.memory? {s t : Service σ} (h : SameSamplers s t) (k : Nat) :
    t.memory? k = s.memory? k := by
  rw [Service.memory?, h]
  rfl

/-- In the same kitchen, the same is published. -/
theorem SameKitchen.published {s t : Service σ} (h : SameKitchen s t) (d : Device) (c : Command)
    (results : List Result) :
    Tells ((s.kitchen.cook d.name c results).toOption.toList.map s.publication) 0 t
      ((publishResults d c results).after t) := by
  rw [← h.kitchen, ← show t.publication = s.publication from funext h.publication]
  exact publishResults_tells d c results t

/-- A device that is up is read for a sampler. -/
theorem sampleNow_cases {k : Nat} {r : Sampler} {d : Device} {c : Command} {s : Service σ}
    (up : s.site.isDown d = false) :
    let t := (sampleNow driver k r d c).after s
    (∃ r, r ≠ .success ∧ Tells [.reported d r] 0 s t ∧ t.memory? k = s.memory? k) ∨
    ∃ a results, results.length = c.requests.length ∧
      Tells ([.driver (.read d a c.requests (.ok results)), .reported d .success] ++
        if r.publishes results then
          (s.kitchen.cook d.name c results).toOption.toList.map s.publication else []) 1 s t ∧
      t.memory? k = if r.onChange && r.isChange results then
        (s.memory? k).map fun m => { m with snapshot := some results } else s.memory? k := by
  intro t
  have same := (readRaw_chores driver d c s).samplers.memory? k
  have cases := readRaw_cases driver c up
  unfold t sampleNow
  rw [after_bind]
  generalize (readRaw driver d c).after s = u at same cases ⊢
  rcases cases with ⟨a, results, hr, length, told, kitchen⟩ | ⟨e, r, hr, no, told⟩
  · have kept (v : Service σ) : ((publishResults d c results).after v).memory? k = v.memory? k :=
      (publishResults_chores driver d c results v).samplers.memory? k
    rw [hr]
    refine .inr ⟨a, results, length, ?_⟩
    dsimp only
    cases onChange : r.onChange with
    | false =>
      have all : r.publishes results = true := by rw [Sampler.publishes, onChange]; rfl
      rw [if_neg Bool.false_ne_true, if_pos all, Bool.false_and, if_neg Bool.false_ne_true]
      exact ⟨told.trans (kitchen.published d c results), (kept u).trans same⟩
    | true =>
      have changes : r.publishes results = r.isChange results := by
        rw [Sampler.publishes, onChange]
        rfl
      rw [if_pos rfl, after_ite, changes, Bool.true_and]
      cases r.isChange results with
      | false =>
        simp only [if_neg Bool.false_ne_true, after_pure, List.append_nil]
        exact ⟨told, same⟩
      | true =>
        simp only [if_pos, after_bind]
        -- the snapshot is put down before the event is made, and makes no difference to it
        have kitchen := kitchen.trans (remember_sameKitchen k results u)
        refine ⟨told.trans ((remember_tells k results u).before
          (kitchen.published d c results)), ?_⟩
        rw [kept, memory?_remember, same]
  · rw [hr]
    exact .inl ⟨r, no, told, same⟩

theorem Unread.of_nothing {k : Nat} {s t : Service σ} (told : Tells [] 0 s t)
    (memory : t.memory? k = s.memory? k) : Unread k s t :=
  ⟨⟨[], by simp, told⟩, memory⟩

/-- A device that is ready is read for a sampler, if the command is known. -/
theorem sampleNow_answers {k : Nat} {r : Sampler} {d : Device} {c : Command} {s u : Service σ}
    (hr : s.controller.samplers.get? k = some r) (target : s.target? driver k = some (d, c))
    (indexed : Tells [] 0 s u) (kitchen : SameKitchen s u) (same : u.memory? k = s.memory? k)
    (up : u.site.isDown d = false) :
    let t := (sampleNow driver k r d c).after u
    Unread k s t ∨ ∃ m results, Answered driver k m results s t := by
  intro t
  have known : s.memory? k = some { r with schedule := none } := by
    rw [memory?, hr, Option.map_some]
  rcases sampleNow_cases driver (k := k) (r := r) (c := c) up with
    ⟨report, no, told, memory⟩ | ⟨a, results, length, told, memory⟩
  · exact .inl ⟨⟨[(d, report)], by simpa using no, indexed.before told⟩, memory.trans same⟩
  · refine .inr ⟨_, results, known, ⟨d, c, a, target, length, ?_⟩, memory.trans ?_⟩
    · have publications : s.publications driver k { r with schedule := none } results =
          if r.publishes results then
            (u.kitchen.cook d.name c results).toOption.toList.map u.publication else [] := by
        rw [publications, event?, target, Option.bind_some, kitchen.kitchen,
          show u.publication = s.publication from funext kitchen.publication]
        rfl
      rw [publications]
      exact indexed.before told
    · rw [same, known, remembering_off]
      unfold Sampler.remembering
      split <;> rfl

theorem sample_cases (k : Nat) (s : Service σ) :
    let t := (sample driver k).after s
    Unread k s t ∨ ∃ m results, Answered driver k m results s t := by
  intro t
  have stays : Unread k s s := .of_nothing (.of_eq rfl rfl) rfl
  unfold t sample
  rw [after_get_bind]
  cases hr : s.controller.samplers.get? k with
  | none => exact .inl stays
  | some r =>
    dsimp only
    cases hd : s.device? r.device with
    | none => exact .inl stays
    | some d =>
      dsimp only
      rw [after_ite, after_bind]
      split
      · exact .inl stays
      · rename_i ready
        have indexed := Tells.index driver d.registration s
        have kitchen := SameKitchen.index driver d.registration s
        have same : ((onSite (Site.index driver d.registration)).after s).memory? k =
            s.memory? k := rfl
        have up : ((onSite (Site.index driver d.registration)).after s).site.isDown d = false := by
          rw [(Calm.index driver d.registration s).toSilent.isDown]
          simp only [Bool.or_eq_true, not_or, Bool.not_eq_true] at ready
          exact ready.2
        -- from here on the service is one that knows the commands of the device
        generalize (onSite (Site.index driver d.registration)).after s = u at *
        generalize hi : (onSite (Site.index driver d.registration)).result s = i at *
        cases hc : i.resolve? r.source .get with
        | none => exact .inl (.of_nothing indexed same)
        | some c =>
          subst hi
          have target := target?_eq_some driver hr hd hc
          dsimp only
          rw [after_bind, after_pure]
          exact sampleNow_answers driver hr target indexed kitchen same up

theorem changeLifecycle_tells (timer : Nat) (l : Timer.Lifecycle) :
    Within (Tells [] 0) (changeLifecycle (σ := σ) timer l) := fun _ => .of_eq rfl rfl

theorem settleTimer_tells (timer fired : Nat) (control : Timer.Control) :
    Within (Tells [] 0) (settleTimer (σ := σ) timer fired control) :=
  settleTimer_within timer fired control (fun _ => .of_eq rfl rfl) fun _ _ => .of_eq rfl rfl

/-- A timer of a sampler fires: the sampler gets an answer, or it does not. -/
theorem fireTimer_cases {k timer : Nat} {s : Service σ} (h : s.taskOf timer = some (.sample k)) :
    let t := (fireTimer driver timer).after s
    Unread k s t ∨ ∃ m results, Answered driver k m results s t := by
  intro t
  obtain ⟨x, hx, task⟩ := Option.map_eq_some_iff.1 h
  unfold t fireTimer
  rw [after_get_bind, hx]
  dsimp only
  rw [after_ite, after_pure]
  split
  · rw [after_bind, after_bind, task]
    have begun := changeLifecycle_tells timer x.lifecycle.beginFire.2 s
    rcases sample_cases driver k ((changeLifecycle timer x.lifecycle.beginFire.2).after s) with
      ⟨⟨reports, no, told⟩, memory⟩ | ⟨m, results, known, ⟨d, c, a, target, length, told⟩, memory⟩
    · exact .inl ⟨⟨reports, no, (begun.before told).after (settleTimer_tells _ _ _ _)⟩,
        ((settleTimer_sameSamplers _ _ _ _).memory? k).trans memory⟩
    · exact .inr ⟨m, results, known, ⟨d, c, a, target, length,
        (begun.before told).after (settleTimer_tells _ _ _ _)⟩,
        ((settleTimer_sameSamplers _ _ _ _).memory? k).trans memory⟩
  · exact .inl (.of_nothing (.of_eq rfl rfl) rfl)

/-! ## Ticks -/

/-- A timer fires for a sampler. -/
structure Tick (σ : Type) where
  before : Service σ
  after : Service σ

namespace Tick

/-- What was put on record, first things first. -/
def noted (x : Tick σ) : List Effect :=
  let new := x.after.site.trace.length - x.before.site.trace.length
  (x.after.site.trace.take new).reverse.map (·.2)

/-- The answer that the sampler got. -/
def results? (x : Tick σ) : Option (List Result) := (x.noted.filterMap (·.results?)).head?

def reports (x : Tick σ) : List (Device × Report) := x.noted.filterMap (·.report?)

/-- The events that went out. -/
def published (x : Tick σ) : List Effect := x.noted.filter (·.isEvent)

/-- How many reads were counted. -/
def counted (x : Tick σ) : Nat :=
  x.after.controller.metrics.readCommands - x.before.controller.metrics.readCommands

variable {x : Tick σ} {told : List Effect} {reads : Nat}

theorem noted_eq {new : List (Nat × Effect)}
    (h : x.after.site.trace = new ++ x.before.site.trace) : x.noted = new.reverse.map (·.2) := by
  rw [noted, h, List.length_append, Nat.add_sub_cancel, List.take_left]

theorem filterMap_noted_of_records {β : Type} {pick : Effect → Option β} {picked : List β}
    (h : Records pick picked x.before x.after) : x.noted.filterMap pick = picked := by
  obtain ⟨new, ht, rfl⟩ := h
  rw [noted_eq ht, List.filterMap_map]
  rfl

theorem filter_noted (h : Tells told reads x.before x.after) :
    x.noted.filter (·.tellsOfReading) = told := by
  obtain ⟨⟨new, ht, hn⟩, -⟩ := h
  rw [noted_eq ht]
  exact hn

/-- What is read off the record of a tick is read off what is told of reading. -/
theorem filterMap_noted {α : Type} {f : Effect → Option α}
    (hf : ∀ e, e.tellsOfReading = false → f e = none) (h : Tells told reads x.before x.after) :
    x.noted.filterMap f = told.filterMap f := by
  rw [← filter_noted h, List.filterMap_filter]
  congr 1
  funext e
  cases he : e.tellsOfReading with
  | true => rfl
  | false => exact hf e he

theorem published_eq (h : Tells told reads x.before x.after) :
    x.published = told.filter (·.isEvent) := by
  rw [published, ← filter_noted h, List.filter_filter]
  congr 1
  funext e
  cases he : e.isEvent with
  | true => simp [Effect.tellsOfReading, he]
  | false => rfl

theorem published_eq_nil (h : Noting (·.isEvent = false) x.before x.after) : x.published = [] := by
  obtain ⟨new, ht, hnew⟩ := h
  refine List.filter_eq_nil_iff.2 fun e he => ?_
  rw [noted_eq ht] at he
  obtain ⟨y, hy, rfl⟩ := List.mem_map.1 he
  rw [hnew y (List.mem_reverse.1 hy)]
  exact Bool.false_ne_true

theorem results?_eq (h : Tells told reads x.before x.after) :
    x.results? = (told.filterMap (·.results?)).head? := by
  rw [results?, filterMap_noted (fun e he => ?_) h]
  simp only [Effect.tellsOfReading, Bool.or_eq_false_iff] at he
  exact Option.not_isSome_iff_eq_none.1 (by simp [he.1.1])

theorem reports_eq (h : Tells told reads x.before x.after) :
    x.reports = told.filterMap (·.report?) := by
  rw [reports, filterMap_noted (fun e he => ?_) h]
  simp only [Effect.tellsOfReading, Bool.or_eq_false_iff] at he
  exact Option.not_isSome_iff_eq_none.1 (by simp [he.1.2])

theorem counted_eq (h : Tells told reads x.before x.after) : x.counted = reads := by
  rw [counted, h.reads, Nat.add_sub_cancel_left]

end Tick

variable {driver} {k : Nat} {x : Tick σ}

theorem Unread.seen (h : Unread k x.before x.after) :
    x.results? = none ∧ x.published = [] ∧ (∀ p ∈ x.reports, p.2 ≠ .success) ∧ x.counted = 0 := by
  obtain ⟨⟨reports, no, told⟩, -⟩ := h
  refine ⟨?_, ?_, ?_, x.counted_eq told⟩
  · rw [x.results?_eq told, List.filterMap_map]
    simp [Function.comp_def, Effect.results?]
  · rw [x.published_eq told, List.filter_map]
    simp [Function.comp_def, Effect.isEvent]
  · rw [x.reports_eq told, List.filterMap_map]
    simpa [Function.comp_def, Effect.report?] using no

theorem Answered.seen {m : Sampler} {results : List Result}
    (h : Answered driver k m results x.before x.after) :
    x.results? = some results ∧
      x.published = x.before.publications driver k m results ∧
      (∃ d c, x.before.target? driver k = some (d, c) ∧ results.length = c.requests.length ∧
        x.reports = [(d, .success)]) ∧
      x.counted = 1 := by
  obtain ⟨-, ⟨d, c, a, target, length, told⟩, -⟩ := h
  have event (e) (he : e ∈ x.before.publications driver k m results) :
      e.isEvent = true ∧ e.results? = none ∧ e.report? = none := by
    unfold publications at he
    split at he
    · obtain ⟨cooked, _, rfl⟩ := List.mem_map.1 he
      unfold publication
      split <;> exact ⟨rfl, rfl, rfl⟩
    · cases he
  have events := List.filter_eq_self.2 fun e he => (event e he).1
  have answer : (Effect.driver (.read d a c.requests (.ok results))).results? = some results := by
    simp [Effect.results?, length]
  refine ⟨?_, ?_, ⟨d, c, target, length, ?_⟩, x.counted_eq told⟩
  · rw [x.results?_eq told, List.cons_append, List.filterMap_cons_some answer, List.head?_cons]
  · rw [x.published_eq told, List.filter_append, events]
    rfl
  · have none := List.filterMap_eq_nil_iff.2 fun e he => (event e he).2.2
    rw [x.reports_eq told, List.filterMap_append, none]
    rfl

/-! ## Runs -/

variable (driver) (k)

/-- The ticks of a sampler in a run. -/
def ticks (s : Service σ) : List (Operation σ) → List (Tick σ)
  | [] => []
  | op :: ops =>
    (if op.samples k s then [⟨s, perform driver s op⟩] else []) ++ ticks (perform driver s op) ops

end Service

end FieldGateway
