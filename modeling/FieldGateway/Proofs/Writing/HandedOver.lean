import FieldGateway.Driver.Simulated
import FieldGateway.Proofs.Commands.Refusal
import FieldGateway.Proofs.Event.RoundTrip
import FieldGateway.Proofs.Sampling.Ticks
import FieldGateway.Proofs.Value.Mask
import FieldGateway.Proofs.Writing.Refusal
import Mathlib.Data.List.Forall2

/-
  What a command hands to the driver to write. Each step has a value (`Intake.Yields`), and where
  the step has no mask that is what is written. Under a mask the driver is asked first for what
  it holds there, by itself and only once, and the value takes from the answer what the mask keeps
  (`Merging`). So a command that the driver is asked to write at all is one write after the masked
  reads (`put_hands_over`).
-/

namespace FieldGateway

/-! ## Values -/

/-- The types and the words of the values that a write hands over. -/
def Exchange.words : Exchange → List (ValueType × Option UInt64)
  | .write _ _ _ values _ => values.map fun v => (v.type, v.toBits?)
  | _ => []

namespace Intake

/-- What a step has to write: what was supplied for it, as it was meant, within the limits of its
resource and transformed, if values are transformed. -/
structure Yields (k : Intake) (params : Params) (step : Step) (v : Value) : Prop where
  writable : step.properties.access.writable = true
  raw : ∃ p w, supplied params step = some p ∧ k.meant step p = some w ∧
    if k.dataTransform then k.transforms.inRange step.properties w = true ∧
      k.transforms.incoming step.properties w = .ok v
    else v = w

variable {k : Intake} {params : Params}

theorem raw_eq_ok {step : Step} {w v : Value} (h : k.raw step w = .ok v) :
    if k.dataTransform then k.transforms.inRange step.properties w = true ∧
      k.transforms.incoming step.properties w = .ok v
    else v = w := by
  unfold raw at h
  split at h
  · rename_i on
    rw [if_pos on]
    split at h
    · rename_i within
      refine ⟨within, ?_⟩
      cases incoming : k.transforms.incoming step.properties w with
      | error e => rw [incoming] at h; cases h
      | ok u => rw [incoming] at h; cases h; rfl
    · cases h
  · rename_i off
    rw [if_neg off]
    cases h
    rfl

theorem yields_of_value {step : Step} {v : Value} (h : k.value params step = .ok v) :
    k.Yields params step v := by
  unfold value at h
  split at h
  · rename_i writable
    obtain ⟨w, given, raw⟩ := Except.bind_eq_ok h
    rw [given_eq] at given
    cases supply : supplied params step with
    | none => rw [supply] at given; cases given
    | some p =>
      rw [supply] at given
      dsimp only at given
      cases mean : k.meant step p with
      | none => rw [mean] at given; cases given
      | some u =>
        rw [mean] at given
        cases given
        exact ⟨writable, p, w, supply, mean, raw_eq_ok raw⟩
  · cases h

theorem yields_of_values {steps : List Step} {vs : List Value}
    (h : k.values params steps = .ok vs) : List.Forall₂ (k.Yields params) steps vs := by
  induction steps generalizing vs with
  | nil =>
    cases h
    exact .nil
  | cons step steps ih =>
    obtain ⟨v, first, h⟩ := Except.bind_eq_ok h
    obtain ⟨rest, others, h⟩ := Except.bind_eq_ok h
    cases h
    exact .cons (yields_of_value first) (ih others)

end Intake

/-! ## Merging -/

/-- Whole numbers are merged bit by bit, each in a word of 64 bits with its sign extended, and the
word is cut to the width of the value that is written. -/
theorem Mask.mergeValues_eq_some {m : Mask} {current value merged : Value}
    (h : m.mergeValues current value = some merged) :
    ∃ u y t x, current = .int u y ∧ value = .int t x ∧
      merged = .int t (((u.extend y &&& ~~~ m.bits.toBitVec) |||
        (t.extend x &&& m.bits.toBitVec)).setWidth t.width) := by
  obtain ⟨u, y, rfl⟩ | ⟨other, -⟩ := current.int_or_bitless
  · obtain ⟨t, x, rfl⟩ | ⟨other, -⟩ := value.int_or_bitless
    · cases h
      exact ⟨u, y, t, x, rfl, rfl, rfl⟩
    · rw [mergeValues_eq_none_iff.2 (.inr other)] at h
      cases h
  · rw [mergeValues_eq_none_iff.2 (.inl other)] at h
    cases h

/-- The values of requests, merged under the masks of those that have one, and what the driver is
asked for it: each masked request by itself, in their order. -/
inductive Merging (d : Device) (a : Address) :
    List (Request × Value) → List Exchange → List Value → Prop
  | nil : Merging d a [] [] []
  | plain {q : Request} {v : Value} {rest : List (Request × Value)} {reads : List Exchange}
      {values : List Value} (mask : q.mask = none) (others : Merging d a rest reads values) :
      Merging d a ((q, v) :: rest) reads (v :: values)
  | masked {q : Request} {m : Mask} {t u : IntType} {x : BitVec t.width} {y : BitVec u.width}
      {current : Result} {rest : List (Request × Value)} {reads : List Exchange}
      {values : List Value} (mask : q.mask = some m) (held : current.value = .int u y)
      (others : Merging d a rest reads values) :
      Merging d a ((q, .int t x) :: rest) (.read d a [q] (.ok [current]) :: reads)
        (.int t (((u.extend y &&& ~~~ m.bits.toBitVec) |||
          (t.extend x &&& m.bits.toBitVec)).setWidth t.width) :: values)

theorem Merging.length_eq {d : Device} {a : Address} {pairs : List (Request × Value)}
    {reads : List Exchange} {values : List Value} (h : Merging d a pairs reads values) :
    values.length = pairs.length := by
  induction h with
  | nil => rfl
  | plain _ _ ih | masked _ _ _ ih => exact congrArg (· + 1) ih

/-! ## What the driver is asked -/

/-- What the driver was asked to read or to write. -/
def Effect.access? : Effect → Option Exchange
  | .driver (.read d a requests outcome) => some (.read d a requests outcome)
  | .driver (.write d a requests values outcome) => some (.write d a requests values outcome)
  | _ => none

theorem Effect.access?_of_isExchange {e : Effect} (h : e.isExchange = false) :
    e.access? = none := by
  cases e with
  | driver x => cases h
  | _ => rfl

theorem Effect.eq_of_access? {e : Effect} {x : Exchange} (h : e.access? = some x) :
    e = .driver x := by
  unfold access? at h
  split at h <;> cases h <;> rfl

theorem Effect.isWrite_iff {e : Effect} : e.IsWrite ↔
    ∃ d a requests values outcome, e.access? = some (.write d a requests values outcome) := by
  constructor
  · intro h
    unfold IsWrite at h
    split at h
    · exact ⟨_, _, _, _, _, rfl⟩
    · cases h
  · rintro ⟨d, a, requests, values, outcome, h⟩
    rw [eq_of_access? h]
    trivial

theorem CommandError.status_ne_ok (e : CommandError) : e.status ≠ .ok := by
  cases e <;> exact ReplyStatus.noConfusion

namespace Service

open FieldGateway.Action

variable {σ : Type} (driver : Driver σ) {d : Device} {a : Address} {s : Service σ}

/-- Nothing is read or written. -/
abbrev Apart {α : Type} (action : Action σ α) : Prop := Within (Noting (·.access? = none)) action

theorem Quiet.apart {α : Type} {action : Action σ α} (h : Quiet action) : Apart action :=
  fun s => (h s).mono fun _ => Effect.access?_of_isExchange

theorem address_apart (d : Device) : Apart (address driver d) :=
  address_within (makeAddress_noting driver d fun _ => rfl)
    fun reason => (reportFailure_quiet d reason).apart

/-- Of what was picked out, nothing is a write. -/
theorem not_isWrite_of_records {p : List Exchange} {t : Service σ}
    (h : Records Effect.access? p s t) (reads : ∀ x ∈ p, ∀ d a requests values outcome,
      x ≠ .write d a requests values outcome) : Noting (¬ ·.IsWrite) s t := by
  obtain ⟨new, ht, rfl⟩ := h
  refine ⟨new, ht, fun x hx write => ?_⟩
  obtain ⟨d, a, requests, values, outcome, access⟩ := Effect.isWrite_iff.1 write
  exact reads _ (List.mem_filterMap.2 ⟨x, List.mem_reverse.2 hx, access⟩) _ _ _ _ _ rfl

/-- What is under a mask is merged with the one answer of one reading, or nothing comes of it. -/
theorem mergeMasked_outcome (d : Device) (a : Address) {q : Request} {m : Mask} (v : Value)
    (s : Service σ) :
    let merge := mergeMasked driver d a q m v
    (∃ w current, merge.result s = .ok w ∧ m.mergeValues current.value v = some w ∧
      Records Effect.access? [.read d a [q] (.ok [current])] s (merge.after s)) ∨
    ∃ e, merge.result s = .error e ∧ Noting (¬ ·.IsWrite) s (merge.after s) := by
  intro merge
  have asked : Records Effect.access?
      [.read d a [q] ((onSite (Site.read driver d a [q])).result s)] s
      ((onSite (Site.read driver d a [q])).after s) := ⟨[_], rfl, rfl⟩
  have ended {α : Type} {next : Action σ α} (h : Quiet next) :
      Noting (¬ ·.IsWrite) s (next.after ((onSite (Site.read driver d a [q])).after s)) :=
    not_isWrite_of_records (asked.after (h.apart _)) (by simp)
  unfold merge mergeMasked
  rw [result_bind, after_bind]
  match answer : (onSite (Site.read driver d a [q])).result s with
  | .error e => exact .inr ⟨_, rfl, ended (.bind (driverFailed_quiet d e) fun _ => .pure _)⟩
  | .ok [current] =>
    dsimp only
    cases merged : m.mergeValues current.value v with
    | none => exact .inr ⟨_, rfl, ended (.bind (reportFailure_quiet d _) fun _ => .pure _)⟩
    | some w =>
      rw [answer] at asked
      exact .inl ⟨w, current, rfl, merged, asked⟩
  | .ok [] => exact .inr ⟨_, rfl, ended (.bind (violated_quiet d _) fun _ => .pure _)⟩
  | .ok (_ :: _ :: _) =>
    exact .inr ⟨_, rfl, ended (.bind (violated_quiet d _) fun _ => .pure _)⟩

theorem merged_outcome (d : Device) (a : Address) (pairs : List (Request × Value))
    (s : Service σ) :
    let merge := merged driver d a pairs
    (∃ reads values, merge.result s = .ok values ∧ Merging d a pairs reads values ∧
      Records Effect.access? reads s (merge.after s)) ∨
    ∃ e, merge.result s = .error e ∧ Noting (¬ ·.IsWrite) s (merge.after s) := by
  intro merge
  unfold merge
  induction pairs generalizing s with
  | nil => exact .inl ⟨[], [], rfl, .nil, .nothing (.of_eq rfl)⟩
  | cons pair rest ih =>
    obtain ⟨q, v⟩ := pair
    rw [merged]
    cases mask : q.mask with
    | none =>
      dsimp only
      rw [result_bind, after_bind, result_pure, after_pure]
      dsimp only
      rw [result_bind, after_bind]
      rcases ih s with ⟨reads, values, done, merging, records⟩ | ⟨e, failed, noting⟩
      · rw [done]
        exact .inl ⟨reads, v :: values, rfl, .plain mask merging, records⟩
      · rw [failed]
        exact .inr ⟨e, rfl, noting⟩
    | some m =>
      dsimp only
      rw [result_bind, after_bind]
      rcases mergeMasked_outcome driver d a v s with
        ⟨w, current, first, merge, read⟩ | ⟨e, failed, noting⟩
      · rw [first]
        dsimp only
        rw [result_bind, after_bind]
        obtain ⟨u, y, t, x, held, rfl, rfl⟩ := Mask.mergeValues_eq_some merge
        rcases ih ((mergeMasked driver d a q m (.int t x)).after s) with
          ⟨reads, values, done, merging, records⟩ | ⟨e, failed, noting⟩
        · rw [done]
          exact .inl ⟨_, _, rfl, .masked mask held merging, read.trans records⟩
        · rw [failed]
          exact .inr ⟨e, rfl, (not_isWrite_of_records read (by simp)).trans noting⟩
      · rw [failed]
        exact .inr ⟨e, rfl, noting⟩

/-- The driver is asked to write once, after what the masks need, or not at all. -/
theorem write_outcome (d : Device) (c : Command) (vs : List Value) (s : Service σ) :
    (∃ a reads values outcome, Merging d a (c.requests.zip vs) reads values ∧
      Records Effect.access? (reads ++ [.write d a c.requests values outcome]) s
        ((write driver d c vs).after s) ∧
      ((write driver d c vs).result s = .ok () ↔ outcome = .ok ())) ∨
    Noting (¬ ·.IsWrite) s ((write driver d c vs).after s) := by
  have found := address_apart driver d s
  have unwritten : Noting (¬ ·.IsWrite) s ((address driver d).after s) :=
    not_isWrite_of_records (.nothing found) (by simp)
  unfold write
  rw [result_bind, after_bind]
  cases (address driver d).result s with
  | error e => exact .inr unwritten
  | ok a =>
    dsimp only
    rw [result_bind, after_bind]
    rcases merged_outcome driver d a (c.requests.zip vs) ((address driver d).after s) with
      ⟨reads, values, done, merging, records⟩ | ⟨e, failed, noting⟩
    · rw [done]
      dsimp only
      rw [result_bind, after_bind]
      generalize (merged driver d a (c.requests.zip vs)).after ((address driver d).after s) = u
        at records
      have asked : Records Effect.access? [.write d a c.requests values
          ((onSite (Site.write driver d a c.requests values)).result u)] u
          ((onSite (Site.write driver d a c.requests values)).after u) := ⟨[_], rfl, rfl⟩
      have all := (records.before found).trans asked
      refine .inl ⟨a, reads, values, (onSite (Site.write driver d a c.requests values)).result u,
        merging, ?_⟩
      cases answer : (onSite (Site.write driver d a c.requests values)).result u with
      | error e =>
        rw [answer] at all
        refine ⟨all.after (Quiet.apart (.bind (driverFailed_quiet d e) fun _ => .pure _) _), ?_⟩
        exact iff_of_false nofun nofun
      | ok _ =>
        rw [answer] at all
        exact ⟨all.after (Quiet.apart (.bind (reportSuccess_quiet d) fun _ =>
          .bind (touch_quiet d) fun _ => .pure _) _), iff_of_true rfl rfl⟩
    · rw [failed]
      exact .inr (unwritten.trans noting)

/-- An authorized command that has all its values comes to what writing them comes to. -/
theorem result_runPut_authorized {device command : String} {params : Params} {c : Command}
    (h : (authorize driver device command .put).result s = .ok (d, c)) {values : List Value}
    (found : s.intake.values params c.steps = .ok values) :
    (runPut driver device command params).result s =
      (write driver d c values).result ((authorize driver device command .put).after s) := by
  unfold runPut
  rw [result_bind, h]
  dsimp only
  rw [result_get_bind, (authorize_indexed driver device command .put s).intake, found]

/-- Asked for either way, a command that writes leaves what it left, and replies with a success
just if it came to one. -/
theorem after_answer_put (w : Surface) (device command : String) (query : Query) (params : Params)
    (s : Service σ) :
    let put := answer driver w ⟨.put, device, command, query, params⟩
    put.after s = (runPut driver device command params).after s ∧
      ((put.result s).status = .ok ↔ (runPut driver device command params).result s = .ok ()) := by
  intro put
  unfold put
  rw [answer_eq, result_bind, after_bind, after_runCommand_put, result_runCommand_put]
  cases (runPut driver device command params).result s with
  | error e => exact ⟨rfl, iff_of_false e.status_ne_ok nofun⟩
  | ok _ => exact ⟨rfl, iff_of_true rfl rfl⟩

/-- If the driver is asked to write for a command that was put, the command could be put, and there
is a value for each of its steps. The driver is asked to write once, the requests of the command
in order with a value for each: the value of the step, or merged with what the driver holds where
the request has a mask. Before that it is asked to read each masked request once and by itself, in
order, and nothing else is read or written. The reply is a success just if the driver wrote. -/
theorem put_hands_over (s : Service σ) (w : Surface) (device command : String) (query : Query)
    (params : Params) :
    let put := answer driver w ⟨.put, device, command, query, params⟩
    let noted := Tick.noted ⟨s, put.after s⟩
    (∃ e ∈ noted, e.IsWrite) →
    ∃ d c a vs reads values outcome,
      Allowed driver s ⟨.put, device, command, query, params⟩ d c ∧
      List.Forall₂ (s.intake.Yields params) c.steps vs ∧
      Merging d a (c.requests.zip vs) reads values ∧ values.length = c.requests.length ∧
      noted.filterMap (·.access?) = reads ++ [.write d a c.requests values outcome] ∧
      ((put.result s).status = .ok ↔ outcome = .ok ()) := by
  rintro put noted ⟨e, he, write⟩
  obtain ⟨after, status⟩ := after_answer_put driver w device command query params s
  -- what notes no write is not meant here
  have written {P : Prop} (unwritten : Noting (¬ ·.IsWrite) s (put.after s)) : P := by
    obtain ⟨new, ht, hnew⟩ := unwritten
    unfold noted at he
    rw [Tick.noted_eq (x := ⟨s, put.after s⟩) ht, List.mem_map] at he
    obtain ⟨x, hx, rfl⟩ := he
    exact absurd write (hnew x (List.mem_reverse.1 hx))
  rcases refusal_or_allowed driver s ⟨.put, device, command, query, params⟩ with
    ⟨e, refusal⟩ | ⟨d, c, allowed, -⟩
  · refine written ?_
    have refused := refusal.refused.2
    rw [after_runCommand_put] at refused
    rw [after, refused]
    obtain ⟨_, parses, ht, hall⟩ := authorize_indexed driver device command .put s
    refine ⟨parses, by rw [ht], fun x hx => ?_⟩
    obtain ⟨r, resource, hx⟩ := hall x hx
    rw [hx]
    exact id
  · have granted : (authorize driver device command .put).result s = .ok (d, c) :=
      allowed.result_authorize
    have looked : (authorize driver device command .put).after s =
        (onSite (Site.index driver d.registration)).after s := allowed.after_authorize
    have indexed := index_noting (p := (·.access? = none)) driver d.registration (fun _ => rfl) s
    rcases runPut_authorized driver params granted with ⟨_, _, _, left⟩ | ⟨vs, values, left⟩
    · refine written ?_
      rw [after, left, looked]
      exact not_isWrite_of_records (.nothing indexed) (by simp)
    · have result := result_runPut_authorized driver granted values
      rw [looked] at left result
      rcases write_outcome driver d c vs ((onSite (Site.index driver d.registration)).after s) with
        ⟨a, reads, merged, outcome, merging, records, done⟩ | unwritten
      · have steps := Intake.yields_of_values values
        have sizes : c.requests.length = vs.length := by
          rw [Command.requests, List.length_map, steps.length_eq]
        refine ⟨d, c, a, vs, reads, merged, outcome, allowed, steps, merging, ?_, ?_, ?_⟩
        · rw [merging.length_eq, List.length_zip, sizes, Nat.min_self]
        · have all := records.before indexed
          rw [← left, ← after] at all
          exact Tick.filterMap_noted_of_records all
        · rw [status, result, done]
      · refine written ?_
        rw [after, left]
        exact (not_isWrite_of_records (.nothing indexed) (by simp)).trans unwritten

/-- Of a register the low byte may be written: the other byte stays what it is. -/
theorem put_hands_over_register :
    let driver := Simulation.driver false
    let p : Profile :=
      { name := "pump"
        resources := [
          { name := "level", properties := { type := .scalar (.int .int16), mask := some 0xff } }] }
    let s := performAll driver (ofConfig {} 0 {})
      [.addProfile p, .addDevice { name := "p1", profileName := "pump" },
        .change fun _ => { table := Dict.ofList [("level", ⟨.int .int16 0x1234, none, ∅⟩)] }]
    let put := answer driver .named
      ⟨.put, "p1", "level", {}, Dict.ofList [("level", .text "342")]⟩
    let noted := Tick.noted ⟨s, put.after s⟩
    (∃ e ∈ noted, e.IsWrite) ∧ ∃ d a q v reads, noted.filterMap (·.access?) =
        reads ++ [.write d a [q] [v] (.ok ())] ∧
      v.type = .scalar (.int .int16) ∧ v.toBits? = some 0x1256 := by
  intro driver p s put noted
  have last : (noted.filterMap (·.access?)).getLast?.map Exchange.words =
      some [(.scalar (.int .int16), some 0x1256)] := by decide +kernel
  have replied : (put.result s).status = .ok := by decide +kernel
  have wrote : ∃ e ∈ noted, e.IsWrite := by
    obtain ⟨x, hx, values⟩ := Option.map_eq_some_iff.1 last
    obtain ⟨e, he, access⟩ := List.mem_filterMap.1 (List.mem_of_getLast? hx)
    refine ⟨e, he, Effect.isWrite_iff.2 ?_⟩
    unfold Exchange.words at values
    split at values
    · exact ⟨_, _, _, _, _, access⟩
    · cases values
  obtain ⟨d, c, a, vs, reads, values, outcome, -, -, -, length, all, success⟩ :=
    put_hands_over driver s .named "p1" "level" {} _ wrote
  rw [show noted.filterMap (·.access?) = _ from all, List.getLast?_concat, Option.map_some,
    Option.some_inj] at last
  obtain ⟨v, rfl, word⟩ := List.map_eq_singleton_iff.1 last
  obtain ⟨q, one⟩ := List.length_eq_one_iff.1 length.symm
  cases success.1 replied
  exact ⟨wrote, d, a, q, v, reads, all.trans (by rw [one]), congrArg Prod.fst word,
    congrArg Prod.snd word⟩

end Service

end FieldGateway
