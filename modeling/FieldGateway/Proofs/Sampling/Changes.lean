import FieldGateway.Driver.Simulated
import FieldGateway.Proofs.Sampling.Ticks
import FieldGateway.Proofs.Value.Same
import Mathlib.Data.List.Basic
import Mathlib.Data.List.Induction

/-
  What is published by a sampler for which only changes count. Whatever else happens to the
  service, what the sampler remembers has the values of the last answer it got (`Remembers`), so it
  publishes the answers that differ from the one before them and can be cooked, each in its tick
  (`changes_published`). An answer that cannot be cooked is remembered all the same, and a later
  one with the same values is no change then, although nothing was published of them
  (`change_lost_iff`).
-/

namespace FieldGateway.Service

open FieldGateway.Action

variable {σ : Type} {driver : Driver σ} {k : Nat} {s t : Service σ}
  {last : Option (List Result)}

/-- The last answer among those that are seen in ticks. -/
def latest (seen : Tick σ → Option (List Result)) (xs : List (Tick σ)) : Option (List Result) :=
  (xs.filterMap seen).getLast?

/-- The answer that was published. -/
def Tick.carried? (x : Tick σ) : Option (List Result) :=
  if x.published.isEmpty then none else x.results?

/-- What a tick has to publish after a last answer: the event of an answer with other values. -/
def Tick.due (driver : Driver σ) (k : Nat) (last : Option (List Result)) (x : Tick σ) :
    List Effect :=
  let change := x.results?.filter fun results => !last.any (sameValues · results)
  (change.bind (x.before.event? driver k)).toList.map x.before.publication

/-- What is remembered is the last answer, or has the same values. -/
def Follows : Option (List Result) → Option (List Result) → Prop :=
  Option.Rel fun snapshot last => snapshot = last ∨ sameValues snapshot last = true

theorem latest_cons (seen : Tick σ → Option (List Result)) (x : Tick σ) (xs : List (Tick σ)) :
    latest seen (x :: xs) = (latest seen xs).or (seen x) := by
  unfold latest
  cases h : seen x with
  | none => rw [List.filterMap_cons_none h, Option.or_none]
  | some answer =>
    rw [List.filterMap_cons_some h, List.getLast?_cons]
    cases (xs.filterMap seen).getLast? <;> rfl

theorem latest_concat (seen : Tick σ → Option (List Result)) (xs : List (Tick σ)) (x : Tick σ) :
    latest seen (xs ++ [x]) = (seen x).or (latest seen xs) := by
  rw [latest, List.filterMap_append, List.getLast?_append]
  cases h : seen x with
  | none => rw [List.filterMap_cons_none h]; rfl
  | some answer => rw [List.filterMap_cons_some h]; rfl

/-! ## What is remembered -/

/-- Against what is remembered, the same answers are changes as against the last answer. -/
theorem Follows.isChange {m : Sampler} (follows : Follows m.snapshot last)
    (results : List Result) : m.isChange results = !last.any (sameValues · results) := by
  unfold Sampler.isChange
  generalize m.snapshot = snapshot at follows
  cases follows with
  | none => rfl
  | some h =>
    rcases h with rfl | h
    · rfl
    · exact congrArg not (sameValues_congr h results)

theorem Follows.of_remembering {m : Sampler} (on : m.onChange = true) (results : List Result) :
    Follows (m.remembering results).snapshot (some results) := by
  rw [Sampler.remembering, on, Bool.true_and]
  cases change : m.isChange results with
  | true => exact .some (.inl rfl)
  | false =>
    unfold Sampler.isChange at change
    cases hm : m.snapshot with
    | none =>
      rw [hm] at change
      cases change
    | some snapshot =>
      rw [hm] at change
      simp only [if_neg Bool.false_ne_true, hm]
      exact .some (.inr (by simpa using change))

/-- A sampler remembers the values of an answer; one that is yet to come remembers nothing. -/
structure Remembers (k : Nat) (last : Option (List Result)) (s : Service σ) : Prop where
  follows {m : Sampler} : s.memory? k = some m → Follows m.snapshot last
  missing : s.memory? k = none → last = none

theorem Remembers.ofFresh (h : Fresh s) : Remembers k none s := by
  have none : s.memory? k = none := by
    rw [memory?, h.samplers]
    rfl
  refine ⟨fun hm => ?_, fun _ => rfl⟩
  rw [none] at hm
  cases hm

theorem Remembers.retains (h : Remembers k last s) (same : Retains k s t) :
    Remembers k last t := by
  cases hs : s.memory? k with
  | none =>
    refine ⟨fun hm => ?_, fun _ => h.missing hs⟩
    rw [h.missing hs, same.new hs hm]
    exact .none
  | some m =>
    have ht := same.known hs
    refine ⟨fun hm => ?_, fun none => ?_⟩
    · cases ht.symm.trans hm
      exact h.follows hs
    · rw [ht] at none
      cases none

/-- Only changes count for the sampler, if it is there. -/
def OnChange (k : Nat) (s : Service σ) : Prop := ∀ m, s.memory? k = some m → m.onChange = true

/-! ## One tick -/

/-- A tick publishes what is due after the last answer, and its answer is the last one then. -/
theorem Tick.step {x : Tick σ} (h : Remembers k last x.before) (on : OnChange k x.before)
    (hx : Unread k x.before x.after ∨ ∃ m results, Answered driver k m results x.before x.after) :
    x.published = x.due driver k last ∧ Remembers k (x.results?.or last) x.after := by
  rcases hx with unread | ⟨m, results, answered⟩
  · obtain ⟨read, published, -, -⟩ := unread.seen
    rw [Tick.due, read, published]
    exact ⟨rfl, h.retains (.of_eq unread.memory)⟩
  · obtain ⟨read, published, -, -⟩ := answered.seen
    have known := answered.known
    have follows := h.follows known
    rw [read, published, publications, Sampler.publishes, on m known, follows.isChange, Tick.due,
      read, Option.some_or]
    refine ⟨?_, fun hm => ?_, fun none => ?_⟩
    · rw [Option.filter_some, Bool.not_true, Bool.false_or]
      split <;> rfl
    · cases answered.memory.symm.trans hm
      exact .of_remembering (on m known) results
    · rw [answered.memory] at none
      cases none

/-- An answer is one success and one read; without an answer there is neither. -/
theorem Tick.served {x : Tick σ}
    (hx : Unread k x.before x.after ∨ ∃ m results, Answered driver k m results x.before x.after) :
    (∀ results, x.results? = some results →
      (∃ d c, x.before.target? driver k = some (d, c) ∧ results.length = c.requests.length ∧
        x.reports = [(d, .success)]) ∧ x.counted = 1) ∧
    (x.results? = none → (∀ p ∈ x.reports, p.2 ≠ .success) ∧ x.counted = 0) := by
  rcases hx with unread | ⟨m, answer, answered⟩
  · obtain ⟨read, -, failure, uncounted⟩ := unread.seen
    rw [read]
    exact ⟨fun _ h => (by cases h), fun _ => ⟨failure, uncounted⟩⟩
  · obtain ⟨read, -, success, counted⟩ := answered.seen
    rw [read]
    refine ⟨fun results h => ?_, fun h => by cases h⟩
    cases h
    exact ⟨success, counted⟩

/-! ## Runs -/

theorem timer_of_samples {op : Operation σ} (h : op.samples k s = true) :
    ∃ timer, op = .fire timer ∧ s.taskOf timer = some (.sample k) := by
  cases op with
  | fire timer => exact ⟨timer, rfl, by simpa [Operation.samples] using h⟩
  | _ => cases h

variable (driver)

theorem perform_samples {op : Operation σ} (h : op.samples k s = true) :
    Unread k s (perform driver s op) ∨
      ∃ m results, Answered driver k m results s (perform driver s op) := by
  obtain ⟨timer, rfl, task⟩ := timer_of_samples h
  exact fireTimer_cases driver task

/-- A sampler stays, and what it is for. -/
theorem perform_memory? {m : Sampler} (h : s.memory? k = some m) (op : Operation σ) :
    ∃ m', (perform driver s op).memory? k = some m' ∧ m'.onChange = m.onChange := by
  cases hs : op.samples k s with
  | false => exact ⟨m, (perform_retains driver hs).known h, rfl⟩
  | true =>
    rcases perform_samples driver hs with unread | ⟨m', results, answered⟩
    · exact ⟨m, unread.memory.trans h, rfl⟩
    · cases answered.known.symm.trans h
      refine ⟨_, answered.memory, ?_⟩
      unfold Sampler.remembering
      split <;> rfl

theorem OnChange.of_performAll (ops : List (Operation σ))
    (h : OnChange k (performAll driver s ops)) : OnChange k s := by
  induction ops generalizing s with
  | nil => exact h
  | cons op ops ih =>
    intro m hm
    obtain ⟨m', hm', same⟩ := perform_memory? driver hm op
    exact same ▸ ih h m' hm'

variable {driver}

theorem ticks_cons {op : Operation σ} (ops : List (Operation σ)) (h : op.samples k s = true) :
    ticks driver k s (op :: ops) =
      ⟨s, perform driver s op⟩ :: ticks driver k (perform driver s op) ops := by
  rw [ticks, if_pos h, List.singleton_append]

theorem ticks_cons_of_not {op : Operation σ} (ops : List (Operation σ))
    (h : op.samples k s = false) :
    ticks driver k s (op :: ops) = ticks driver k (perform driver s op) ops := by
  rw [ticks, if_neg (Bool.not_eq_true _ ▸ h), List.nil_append]

theorem mem_ticks {ops : List (Operation σ)} {x : Tick σ} (h : x ∈ ticks driver k s ops) :
    Unread k x.before x.after ∨ ∃ m results, Answered driver k m results x.before x.after := by
  induction ops generalizing s with
  | nil => cases h
  | cons op ops ih =>
    cases hs : op.samples k s with
    | false =>
      rw [ticks_cons_of_not ops hs] at h
      exact ih h
    | true =>
      rw [ticks_cons ops hs, List.mem_cons] at h
      rcases h with rfl | h
      · exact perform_samples driver hs
      · exact ih h

/-- Every tick of a run publishes what is due after the answer before it. -/
theorem ticks_due (ops : List (Operation σ)) (h : Remembers k last s)
    (on : OnChange k (performAll driver s ops)) :
    Remembers k ((latest (·.results?) (ticks driver k s ops)).or last) (performAll driver s ops) ∧
    ∀ earlier x later, ticks driver k s ops = earlier ++ x :: later →
      x.published = x.due driver k ((latest (·.results?) earlier).or last) := by
  -- on the operations, with the last answer carried along in place of what is remembered
  induction ops generalizing s last with
  | nil =>
    refine ⟨h, fun earlier x later hx => ?_⟩
    cases List.nil_eq_append_iff.1 hx |>.2
  | cons op ops ih =>
    rw [performAll_cons] at on ⊢
    cases hs : op.samples k s with
    | false =>
      rw [ticks_cons_of_not ops hs]
      exact ih (h.retains (perform_retains driver hs)) on
    | true =>
      rw [ticks_cons ops hs, latest_cons, Option.or_assoc]
      have now : OnChange k s := .of_performAll driver (op :: ops) on
      obtain ⟨published, remembers⟩ := Tick.step (x := ⟨s, perform driver s op⟩) h now
        (perform_samples driver hs)
      obtain ⟨remembered, rest⟩ := ih remembers on
      refine ⟨remembered, fun earlier y later hy => ?_⟩
      cases earlier with
      | nil =>
        cases hy
        exact published
      | cons z earlier =>
        obtain ⟨rfl, tail⟩ := List.cons.inj hy
        rw [latest_cons, Option.or_assoc]
        exact rest earlier y later tail

/-- From a fresh service on, what is remembered follows the answers, and so do the events. -/
theorem ticks_due_of_fresh {s₀ : Service σ} (h₀ : Fresh s₀) (ops : List (Operation σ))
    {r : Sampler} (hr : (performAll driver s₀ ops).controller.samplers.get? k = some r)
    (onChange : r.onChange = true) :
    Follows r.snapshot (latest (·.results?) (ticks driver k s₀ ops)) ∧
    ∀ earlier x later, ticks driver k s₀ ops = earlier ++ x :: later →
      x.published = x.due driver k (latest (·.results?) earlier) := by
  have memory : (performAll driver s₀ ops).memory? k = some { r with schedule := none } := by
    rw [memory?, hr, Option.map_some]
  have on : OnChange k (performAll driver s₀ ops) := fun m hm => by
    cases memory.symm.trans hm
    exact onChange
  obtain ⟨remembers, due⟩ := ticks_due ops (.ofFresh h₀) on
  simp only [Option.or_none] at remembers due
  exact ⟨(remembers.follows memory :), due⟩

/-! ## What is published -/

variable (driver)

/-- A sampler for which only changes count remembers its last answer, or one with the same values.
Each of its ticks publishes the answer that it gets if this has other values than the answer before
it and can be cooked, as a first answer and an answer with a NaN do, and nothing else. An answer is
a success of the device and counts as one read, published or not; without an answer there is no
success, and nothing is counted. -/
theorem changes_published {s₀ : Service σ} (h₀ : Fresh s₀) (ops : List (Operation σ))
    {r : Sampler} (hr : (performAll driver s₀ ops).controller.samplers.get? k = some r)
    (onChange : r.onChange = true) :
    let xs := ticks driver k s₀ ops
    Follows r.snapshot (latest (·.results?) xs) ∧
    (∀ earlier x later, xs = earlier ++ x :: later →
      x.published = x.due driver k (latest (·.results?) earlier) ∧
      ∀ results, x.results? = some results → results.any (·.value.hasNaN) = true →
        x.published = (x.before.event? driver k results).toList.map x.before.publication) ∧
    ∀ x ∈ xs,
      (∀ results, x.results? = some results →
        (∃ d c, x.before.target? driver k = some (d, c) ∧ results.length = c.requests.length ∧
          x.reports = [(d, .success)]) ∧ x.counted = 1) ∧
      (x.results? = none → (∀ p ∈ x.reports, p.2 ≠ .success) ∧ x.counted = 0) := by
  intro xs
  obtain ⟨follows, due⟩ := ticks_due_of_fresh h₀ ops hr onChange
  refine ⟨follows, fun earlier x later split => ⟨due earlier x later split, ?_⟩,
    fun x hx => Tick.served (mem_ticks hx)⟩
  intro results read nan
  have change : ((latest (·.results?) earlier).any (sameValues · results)) = false := by
    cases latest (·.results?) earlier with
    | none => rfl
    | some last => exact sameValues_of_hasNaN last nan
  rw [due earlier x later split, Tick.due, read, Option.filter_some, change]
  rfl

/-- A level is read, read again, not read, read when it has changed, and, after a restart, read
when only its note has. -/
theorem changes_published_of_level :
    let driver := Simulation.driver false
    let s₀ := ofConfig {} 0 {}
    let hold (level : BitVec 32) (tags : TextMap) : Operation Simulation :=
      .change fun _ => { table := Dict.insert ∅ "level" ⟨.int .int32 level, none, tags⟩ }
    let ops : List (Operation Simulation) :=
      [.addProfile { name := "pump", resources :=
         [{ name := "level", properties := { type := .scalar (.int .int32) } }] },
       .addDevice { name := "p1", profileName := "pump", autoEvents := [⟨"level", "1s", true⟩] },
       .startAutoEvents "p1",
       hold 5 ∅, .fire 0, .fire 0,
       .change fun t => { t with script := { reads := Dict.insert ∅ "p1" (.communication "") } },
       .fire 0,
       hold 7 (Dict.insert ∅ "note" "high"), .fire 0,
       .startAutoEvents "p1", hold 7 ∅, .fire 1]
    let xs := ticks driver 0 s₀ ops
    (∃ r, (performAll driver s₀ ops).controller.samplers.get? 0 = some r ∧ r.onChange = true ∧
      Follows r.snapshot (latest (·.results?) xs)) ∧
    (∀ earlier x later, xs = earlier ++ x :: later →
      x.published = x.due driver 0 (latest (·.results?) earlier)) ∧
    xs.map (fun x => (x.published.length, x.counted)) =
      [(1, 1), (0, 1), (0, 0), (1, 1), (0, 1)] := by
  intro driver s₀ hold ops xs
  have known : ((performAll driver s₀ ops).controller.samplers.get? 0).any (·.onChange) = true := by
    decide +kernel
  obtain ⟨r, hr, onChange⟩ := (Option.any_eq_true _ _).1 known
  have fresh : Fresh s₀ := ofConfig_fresh _ _ _
  have h := changes_published driver fresh ops hr onChange
  exact ⟨⟨r, hr, onChange, h.1⟩, fun earlier x later split => (h.2.1 earlier x later split).1,
    by decide +kernel⟩

/-! ## What is lost -/

variable {driver}

/-- An answer that cannot be cooked leaves its values behind, and no answer after it has others. -/
def Shadowed (driver : Driver σ) (k : Nat) (results : List Result) (xs : List (Tick σ)) : Prop :=
  ∃ before q between refused, xs = before ++ q :: between ∧ q.results? = some refused ∧
    q.before.event? driver k refused = none ∧ sameValues refused results = true ∧
    ∀ y ∈ between, ∀ answer, y.results? = some answer → sameValues answer results = true

/-- After a refused answer, one with the same values is no change. -/
theorem Shadowed.unchanged {results : List Result} {xs : List (Tick σ)}
    (h : Shadowed driver k results xs) :
    (latest (·.results?) xs).any (sameValues · results) = true := by
  obtain ⟨before, q, between, refused, rfl, hq, -, same, after⟩ := h
  rw [latest, List.filterMap_append, List.filterMap_cons_some hq, List.getLast?_append,
    List.getLast?_cons, Option.some_or, Option.any_some]
  cases last : (between.filterMap (·.results?)).getLast? with
  | none => exact same
  | some answer =>
    obtain ⟨y, hy, read⟩ := List.mem_filterMap.1 (List.mem_of_getLast? last)
    exact after y hy answer read

theorem Shadowed.concat {results : List Result} {xs : List (Tick σ)} {x : Tick σ}
    (h : Shadowed driver k results xs)
    (hx : ∀ answer, x.results? = some answer → sameValues answer results = true) :
    Shadowed driver k results (xs ++ [x]) := by
  obtain ⟨before, q, between, refused, rfl, hq, none, same, after⟩ := h
  refine ⟨before, q, between ++ [x], refused, by simp, hq, none, same, fun y hy => ?_⟩
  rcases List.mem_append.1 hy with hy | hy
  · exact after y hy
  · rwa [List.mem_singleton.1 hy]

/-- An answer that is no change although it differs from what was published last has been refused
before. -/
theorem shadowed_of_last {results : List Result} {xs : List (Tick σ)}
    (due : ∀ earlier x later, xs = earlier ++ x :: later →
      x.published = x.due driver k (latest (·.results?) earlier))
    (same : (latest (·.results?) xs).any (sameValues · results) = true)
    (news : (latest (·.carried?) xs).any (sameValues · results) = false) :
    Shadowed driver k results xs := by
  -- from the last tick backward, as the answer to be found is the last one that was refused
  induction xs using List.reverseRecOn with
  | nil => cases same
  | append_singleton xs x ih =>
    have now := due xs x [] rfl
    have ih := ih fun earlier y later split => due earlier y (later ++ [x]) (by simp [split])
    -- a tick without an event leaves what was published last as it was
    have silent (empty : x.published = []) :
        (latest (·.carried?) xs).any (sameValues · results) = false := by
      have carried : x.carried? = none := by rw [Tick.carried?, empty]; rfl
      rwa [latest_concat, carried, Option.none_or] at news
    rw [latest_concat] at same
    cases read : x.results? with
    | none =>
      rw [read, Option.none_or] at same
      rw [Tick.due, read] at now
      exact (ih same (silent now)).concat (by simp [read])
    | some answer =>
      rw [read, Option.some_or, Option.any_some] at same
      rw [Tick.due, read, Option.filter_some] at now
      cases cooked : x.before.event? driver k answer with
      | none => exact ⟨xs, x, [], answer, rfl, read, cooked, same, by simp⟩
      | some event =>
        cases change : (latest (·.results?) xs).any (sameValues · answer) with
        | true =>
          rw [change] at now
          have before : (latest (·.results?) xs).any (sameValues · results) = true := by
            obtain ⟨previous, hp, h⟩ := (Option.any_eq_true _ _).1 change
            rw [hp, Option.any_some, sameValues_congr h, same]
          exact (ih before (silent now)).concat (by simpa [read] using same)
        | false =>
          rw [change, Bool.not_false, if_pos rfl, Option.bind_some, cooked] at now
          rw [latest_concat, Tick.carried?, now, read] at news
          cases news.symm.trans same

variable (driver)

/-- An answer that differs from what a sampler published last, and that can be cooked, is published
in its tick, unless its values came before in an answer that could not be cooked and there have been
no others since: then nothing is published, and the change is lost. -/
theorem change_lost_iff {s₀ : Service σ} (h₀ : Fresh s₀) (ops : List (Operation σ))
    {r : Sampler} (hr : (performAll driver s₀ ops).controller.samplers.get? k = some r)
    (onChange : r.onChange = true) {earlier later : List (Tick σ)} {x : Tick σ}
    (hx : ticks driver k s₀ ops = earlier ++ x :: later)
    {results : List Result} (read : x.results? = some results)
    {event : CookedEvent} (cooked : x.before.event? driver k results = some event)
    (news : (latest (·.carried?) earlier).any (sameValues · results) = false) :
    (x.published = [x.before.publication event] ∨ x.published = []) ∧
      (x.published = [] ↔ Shadowed driver k results earlier) := by
  obtain ⟨-, due⟩ := ticks_due_of_fresh h₀ ops hr onChange
  have now := due earlier x later hx
  rw [Tick.due, read, Option.filter_some] at now
  cases same : (latest (·.results?) earlier).any (sameValues · results) with
  | true =>
    rw [same] at now
    refine ⟨.inr now, fun _ => shadowed_of_last (fun before y between split => ?_) same news,
      fun _ => now⟩
    exact due before y (between ++ x :: later) (by simp [hx, split])
  | false =>
    rw [same, Bool.not_false, if_pos rfl, Option.bind_some, cooked] at now
    refine ⟨.inl now, fun none => ?_, fun shadowed => ?_⟩
    · rw [none] at now
      cases now
    · cases same.symm.trans shadowed.unchanged

/-- A level that is too large on one scale is not published either when the device has a profile
without that scale. -/
theorem change_lost_of_scale :
    let driver := Simulation.driver false
    let s₀ := ofConfig {} 0 {}
    let level (scale : Option Floating.Double) : Resource :=
      { name := "level", properties := { type := .scalar (.int .int32), scale } }
    let config (profile : String) : DeviceConfig :=
      { name := "p1", profileName := profile, autoEvents := [⟨"level", "1s", true⟩] }
    let ops : List (Operation Simulation) :=
      [.addProfile { name := "pump", resources := [level (some (.ofInt _ 1000000000))] },
       .addProfile { name := "well", resources := [level none] },
       .addDevice (config "pump"), .startAutoEvents "p1",
       .change fun _ => { table := Dict.insert ∅ "level" ⟨.int .int32 5, none, ∅⟩ },
       .fire 0, .updateDevice (config "well"), .fire 0]
    ∃ q x results event, ticks driver 0 s₀ ops = [q, x] ∧
      x.results? = some results ∧ x.before.event? driver 0 results = some event ∧
      x.published = [] ∧ Shadowed driver 0 results [q] := by
  intro driver s₀ level config ops
  have fresh : Fresh s₀ := ofConfig_fresh _ _ _
  have known : ((performAll driver s₀ ops).controller.samplers.get? 0).any (·.onChange) = true := by
    decide +kernel
  obtain ⟨r, hr, onChange⟩ := (Option.any_eq_true _ _).1 known
  have length : (ticks driver 0 s₀ ops).length = 2 := by decide +kernel
  obtain ⟨q, x, hx⟩ := List.length_eq_two.1 length
  have published : (ticks driver 0 s₀ ops).all (·.published.isEmpty) = true := by decide +kernel
  have cooked : (ticks driver 0 s₀ ops).getLast?.any
      (fun x => (x.results?.bind (x.before.event? driver 0)).isSome) = true := by decide +kernel
  rw [hx, List.all_cons, List.all_cons, Bool.and_eq_true, Bool.and_eq_true] at published
  rw [hx] at cooked
  obtain ⟨event, cooked⟩ := Option.isSome_iff_exists.1 cooked
  obtain ⟨results, read, cooked⟩ := Option.bind_eq_some_iff.1 cooked
  have nothing : x.published = [] := List.isEmpty_iff.1 published.2.1
  have news : (latest (·.carried?) [q]).any (sameValues · results) = false := by
    rw [latest_cons, Tick.carried?, if_pos published.1]
    rfl
  have split : ticks driver 0 s₀ ops = [q] ++ x :: [] := hx
  have h := change_lost_iff driver fresh ops hr onChange split read cooked news
  exact ⟨q, x, results, event, hx, read, cooked, nothing, h.2.1 nothing⟩

end FieldGateway.Service
