import FieldGateway.Proofs.Writing.HandedOver
import FieldGateway.Proofs.Writing.Unwritten

/-
  The driver is asked to write values of the types it asked for. Whatever a value is decoded from,
  transformed to, or merged with, it keeps the type of its request (`Intake.Yields.type`,
  `Merging.typed`). So with the standard transforms every write on record is typed
  (`Effect.IsTyped`), in every run and with any work in flight (`writes_typed`).
-/

namespace FieldGateway

/-! ## Types of values -/

namespace Value

theorem type_of_decode {type : ValueType} {raw : String} {v : Value}
    (h : decode type raw = some v) : v.type = type := by
  unfold decode at h
  split at h
  · obtain ⟨x, -, rfl⟩ := Option.map_eq_some_iff.1 h
    rfl
  · obtain ⟨x, -, rfl⟩ := Option.map_eq_some_iff.1 h
    rfl
  · split at h <;> cases h
    rfl
  · split at h
    · obtain ⟨x, -, rfl⟩ := Option.map_eq_some_iff.1 h
      rfl
    · cases h

theorem type_of_decodeBytes {type : ValueType} {bytes : List UInt8} {v : Value}
    (h : decodeBytes type bytes = some v) : v.type = type := by
  unfold decodeBytes at h
  split at h <;> cases h
  rfl

/-- The items of an array, each as a value of its own. -/
def items : Value → List Value
  | array t xs => xs.map (scalar t)
  | _ => []

/-- A value is of a type, and if that is an array type, so is every item of its element type. -/
structure Suits (v : Value) (type : ValueType) : Prop where
  type_eq : v.type = type
  items_type {t : ScalarType} {item : Value} :
    type = .array t → item ∈ v.items → item.type = .scalar t

theorem suits_of_type {v : Value} {type : ValueType} (h : v.type = type) : v.Suits type := by
  refine ⟨h, fun {t item} array mem => ?_⟩
  cases v with
  | array u xs =>
    cases h.trans array
    obtain ⟨x, -, rfl⟩ := List.mem_map.1 mem
    rfl
  | scalar | binary | object => cases mem

end Value

namespace Transform

theorem type_of_ofDouble {type : ValueType} {x : Floating.Double} {v : Value}
    (h : ofDouble type x = .ok v) : v.type = type := by
  unfold ofDouble at h
  dsimp only at h
  split at h
  case isFalse => cases h
  split at h
  · split at h <;> cases h
    rfl
  · split at h <;> cases h
    rfl
  · cases h
    rfl
  · cases h

theorem type_of_incoming {p : Properties} {v w : Value} (h : incoming p v = .ok w) :
    w.type = v.type := by
  unfold incoming onNumber at h
  split at h
  · split at h
    · exact type_of_ofDouble h
    · cases h
      rfl
  · cases h
    rfl

end Transform

namespace Intake

variable {k : Intake} {params : Params} {step : Step}

theorem type_of_meant {p : Param} {v : Value} (h : k.meant step p = some v) :
    v.type = step.request.type := by
  cases p with
  | text raw => exact Value.type_of_decode h
  | bytes b => exact Value.type_of_decodeBytes h

theorem Yields.type (standard : k.transforms = Transform.standard) {v : Value}
    (h : k.Yields params step v) : v.type = step.request.type := by
  obtain ⟨-, p, w, -, mean, raw⟩ := h
  rw [← type_of_meant mean]
  split at raw
  · rw [standard] at raw
    exact Transform.type_of_incoming raw.2
  · rw [raw]

end Intake

/-- Each request with a value of its type. -/
abbrev Typed (requests : List Request) (values : List Value) : Prop :=
  List.Forall₂ (fun q v => v.Suits q.type) requests values

theorem Intake.typed_of_values {k : Intake} {params : Params} {c : Command}
    (standard : k.transforms = Transform.standard) {vs : List Value}
    (h : k.values params c.steps = .ok vs) : Typed c.requests vs := by
  rw [Typed, Command.requests, List.forall₂_map_left_iff]
  exact (yields_of_values h).imp fun step v yields =>
    Value.suits_of_type (yields.type standard)

/-- A merged value is of the type of the value that was merged. -/
theorem Merging.typed {d : Device} {a : Address} {requests : List Request} {vs : List Value}
    (typed : Typed requests vs) {reads : List Exchange} {values : List Value}
    (h : Merging d a (requests.zip vs) reads values) : Typed requests values := by
  induction typed generalizing reads values with
  | nil =>
    cases h
    exact .nil
  | cons first _ ih =>
    cases h with
    | plain _ others => exact .cons first (ih others)
    | masked _ _ others => exact .cons (Value.suits_of_type first.type_eq) (ih others)

/-- If the driver was asked to write, it was given a value of its type for each request. -/
def Effect.IsTyped : Effect → Prop
  | .driver (.write _ _ requests values _) => Typed requests values
  | _ => True

theorem Effect.isTyped_of_not_isWrite {e : Effect} (h : ¬ e.IsWrite) : e.IsTyped := by
  unfold IsTyped
  split
  · exact absurd trivial h
  · trivial

/-! ## Services -/

namespace Service

open FieldGateway.Action

variable {σ : Type} {driver : Driver σ} {s t : Service σ}

/-- Values are transformed as they are by default, and every write so far was typed. -/
structure Proper (s : Service σ) : Prop where
  transforms : s.controller.transforms = Transform.standard
  written : ∀ x ∈ s.site.trace, x.2.IsTyped

theorem Proper.unwritten (h : Proper s) (unwritten : Unwritten s t) : Proper t := by
  obtain ⟨new, trace, others⟩ := unwritten.noting
  refine ⟨unwritten.transforms.trans h.transforms, fun x hx => ?_⟩
  rw [trace] at hx
  rcases List.mem_append.1 hx with hx | hx
  · exact Effect.isTyped_of_not_isWrite (others x hx)
  · exact h.written x hx

/-- Writing what is typed keeps writes typed, whatever the masks are merged with. -/
theorem Proper.write (h : Proper s) {d : Device} {c : Command} {vs : List Value}
    (typed : Typed c.requests vs) : Proper ((Service.write driver d c vs).after s) := by
  have asking := Unwritten.asking driver d
  unfold Service.write
  rw [after_bind]
  have found := h.unwritten (asking.findAddress s)
  cases (address driver d).result s with
  | error e => exact found
  | ok a =>
    dsimp only
    rw [after_bind]
    have prepared := found.unwritten (asking.merged a (c.requests.zip vs) _)
    rcases merged_outcome driver d a (c.requests.zip vs) ((address driver d).after s) with
      ⟨reads, values, done, merging, -⟩ | ⟨e, failed, -⟩
    · rw [done]
      dsimp only
      rw [after_bind]
      generalize (merged driver d a (c.requests.zip vs)).after ((address driver d).after s) = t
        at prepared ⊢
      have wrote : Proper ((onSite (Site.write driver d a c.requests values)).after t) :=
        ⟨prepared.transforms,
          List.forall_mem_cons.2 ⟨Merging.typed typed merging, prepared.written⟩⟩
      cases (onSite (Site.write driver d a c.requests values)).result t with
      | error e => exact wrote.unwritten (Within.bind (asking.driverFailed e) (fun _ => .pure _) _)
      | ok _ =>
        exact wrote.unwritten
          (Within.bind asking.success (fun _ => .bind asking.touch fun _ => .pure _) _)
    · rw [failed]
      exact prepared

variable (driver) in
theorem Proper.answer_put (h : Proper s) (w : Surface) (device command : String) (query : Query)
    (params : Params) :
    Proper ((answer driver w ⟨.put, device, command, query, params⟩).after s) := by
  rw [(Service.after_answer_put driver w device command query params s).1]
  have granted := authorize_within (Unwritten.index driver) device command .put s
  cases authorized : (authorize driver device command .put).result s with
  | error e =>
    unfold runPut
    rw [after_bind, authorized]
    exact h.unwritten granted
  | ok p =>
    rcases runPut_authorized driver params authorized with ⟨_, _, _, left⟩ | ⟨vs, values, left⟩
    · rw [left]
      exact h.unwritten granted
    · rw [left]
      exact (h.unwritten granted).write (Intake.typed_of_values h.transforms values)

/-- Every operation keeps writes typed. -/
theorem perform_proper (op : Operation σ) (h : Proper s) : Proper (perform driver s op) := by
  cases reads : op.isWrite with
  | false => exact h.unwritten (perform_unwritten driver reads s)
  | true =>
    cases op with
    | deviceCommand device command m params =>
      cases m with
      | get => cases reads
      | put => exact h.answer_put driver .named device command {} params
    | execute r =>
      obtain ⟨method, device, command, query, params⟩ := r
      cases method with
      | get => cases reads
      | put => exact h.answer_put driver .requested device command query params
    | _ => cases reads

/-- What an errand is to write, it has a value for of each type. -/
def Errand.IsTyped : Errand → Prop
  | .put _ c vs => Typed c.requests vs
  | _ => True

theorem begin_typed (h : Proper s) {x : Start} {e : Errand}
    (begun : (begin driver x).result s = some e) : e.IsTyped := by
  cases x with
  | get device command =>
    obtain ⟨d, c, rfl⟩ := begin_get_cases begun
    trivial
  | put device command params =>
    rw [begin, result_bind] at begun
    split at begun
    · cases begun
    rw [result_get_bind] at begun
    have granted := h.unwritten (authorize_within (Unwritten.index driver) device command .put s)
    split at begun <;> cases begun
    rename_i values
    exact Intake.typed_of_values granted.transforms values
  | fire timer =>
    have timed := (begin_fire_iff.1 begun).isTimed
    cases e with
    | put => cases timed
    | _ => trivial

theorem finish_proper {e : Errand} (typed : e.IsTyped) (h : Proper s) :
    Proper ((finish driver e).after s) := by
  cases e with
  | put d c vs => exact h.write typed
  | _ => exact h.unwritten (finish_unwritten driver rfl s)

end Service

namespace Flight

open Service (Fresh Proper)

variable {σ : Type} {driver : Driver σ}

/-- All that was written is typed, and so is all that waits to be. -/
structure Proper (f : Flight σ) : Prop where
  service : Service.Proper f.service
  pending : ∀ e ∈ f.pending, e.IsTyped

theorem move_proper (f : Flight σ) (m : Move σ) (h : f.Proper) : (f.move driver m).Proper := by
  cases m with
  | perform op => exact ⟨Service.perform_proper op h.service, h.pending⟩
  | begin x =>
    refine ⟨h.service.unwritten (Service.begin_unwritten driver x _), fun e he => ?_⟩
    rcases List.mem_append.1 he with he | he
    · exact h.pending e he
    · exact Service.begin_typed h.service (Option.mem_toList.1 he)
  | finish place =>
    unfold move
    dsimp only
    cases waits : f.pending[place]? with
    | none => exact h
    | some e =>
      exact ⟨Service.finish_proper (h.pending e (List.mem_of_getElem? waits)) h.service,
        fun e he => h.pending e (List.mem_of_mem_eraseIdx he)⟩

variable (driver) in
/-- With the standard transforms, whatever happens and whatever work is in flight: when the driver
is asked to write, it gets one value for each request, of the type of the request, and the items of
an array are of its element type. -/
theorem writes_typed {s : Service σ} (fresh : Fresh s)
    (standard : s.controller.transforms = Transform.standard) (moves : List (Move σ)) {time : Nat}
    {d : Device} {a : Address} {requests : List Request} {values : List Value}
    {outcome : Except DriverError Unit}
    (written : (time, Effect.driver (.write d a requests values outcome)) ∈
      ((⟨s, []⟩ : Flight σ).run driver moves).service.site.trace) :
    values.length = requests.length ∧
    ∀ (i : Nat) (q : Request) (v : Value), requests[i]? = some q → values[i]? = some v →
      v.type = q.type ∧
        ∀ (t : ScalarType) (item : Value), q.type = .array t → item ∈ v.items →
          item.type = .scalar t := by
  have start : (⟨s, []⟩ : Flight σ).Proper :=
    ⟨⟨standard, by rw [fresh.trace]; exact fun _ hx => absurd hx List.not_mem_nil⟩,
      fun _ he => absurd he List.not_mem_nil⟩
  have typed : Typed requests values :=
    (run_keeps move_proper ⟨s, []⟩ moves start).service.written _ written
  refine ⟨typed.length_eq.symm, fun i q v hq hv => ?_⟩
  obtain ⟨hi, rfl⟩ := List.getElem?_eq_some_iff.1 hq
  obtain ⟨hj, rfl⟩ := List.getElem?_eq_some_iff.1 hv
  have suits := typed.get hi hj
  exact ⟨suits.type_eq, fun t item => suits.items_type⟩

/-- A list of numbers and a masked register are written, while values are transformed. -/
theorem writes_typed_registers :
    let driver := Simulation.driver false
    let p : Profile :=
      { name := "pump"
        resources := [
          { name := "curve", properties := { type := .array .float32 } },
          { name := "level", properties := { type := .scalar (.int .int16), mask := some 0xff,
                                             offset := some (Floating.Number.ofInt _ 2) } }]
        commands := [{ name := "All", operations := [
          { resource := "curve" }, { resource := "level", defaultText := some "88" }] }] }
    let table := Dict.ofList [("level", ⟨.int .uint8 0x12, none, ∅⟩)]
    let moves : List (Move Simulation) :=
      [.perform (.addProfile p), .perform (.addDevice { name := "p1", profileName := "pump" }),
       .perform (.change fun _ => { table }),
       .begin (.put "p1" "All" (Dict.ofList [("curve", .text "[1.5, 2]")])), .finish 0]
    let f := (⟨Service.ofConfig {} 0 {}, []⟩ : Flight Simulation).run driver moves
    ∃ time d a requests values outcome,
      (time, Effect.driver (.write d a requests values outcome)) ∈ f.service.site.trace ∧
      values.map (fun v => (v.type, v.toBits?)) =
        [(.array .float32, none), (.scalar (.int .int16), some 0x56)] ∧
      values.length = requests.length ∧ values.map (·.type) = requests.map (·.type) := by
  intro driver p table moves f
  have last : (f.service.site.trace.filterMap (·.2.access?)).head?.map Exchange.words =
      some [(.array .float32, none), (.scalar (.int .int16), some 0x56)] := by decide +kernel
  obtain ⟨x, hx, words⟩ := Option.map_eq_some_iff.1 last
  obtain ⟨⟨time, e⟩, he, access⟩ := List.mem_filterMap.1 (List.mem_of_head? hx)
  unfold Exchange.words at words
  split at words
  · rename_i d a requests values outcome
    obtain rfl : e = .driver (.write d a requests values outcome) := Effect.eq_of_access? access
    obtain ⟨length, types⟩ := writes_typed driver (Service.ofConfig_fresh _ _ _) rfl moves he
    refine ⟨time, d, a, requests, values, outcome, he, words, length, ?_⟩
    refine List.ext_getElem (by simpa using length) fun i hi hi' => ?_
    rw [List.length_map] at hi hi'
    rw [List.getElem_map, List.getElem_map]
    exact (types i _ _ (List.getElem?_eq_getElem hi') (List.getElem?_eq_getElem hi)).1
  · cases words

end Flight

end FieldGateway
