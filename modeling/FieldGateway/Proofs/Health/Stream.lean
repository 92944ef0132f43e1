import FieldGateway.Driver.Simulated
import FieldGateway.Proofs.Probing.Run
import Mathlib.Data.List.Chain

/-
  The stream of health. What was announced of the health of a device since it was added
  (`healthSince`) goes down and up by turns, and the last of it is how the device is; everything
  announced was reported to the metadata service as well, in the same order and at the same time
  (`Told`). Every turn keeps that, so every run does (`health_stream`).
-/

namespace FieldGateway

/-! ## Streams -/

/-- What was announced of the health of the device of a name since it was last added, the latest
first. -/
def healthSince (name : String) (trace : List (Nat × Effect)) : List OperatingState :=
  (trace.takeWhile fun x => !x.2.adds name).filterMap (·.2.healthOf? name)

/-- Each state, the latest first, is another than the one before, and the first is not up. -/
def Alternating (states : List OperatingState) : Prop :=
  (states ++ [OperatingState.up]).IsChain (· ≠ ·)

theorem healthSince_cons (name : String) (x : Nat × Effect) (older : List (Nat × Effect)) :
    healthSince name (x :: older) =
      if x.2.adds name then [] else (x.2.healthOf? name).toList ++ healthSince name older := by
  unfold healthSince
  rw [List.takeWhile_cons]
  cases x.2.adds name with
  | true => rfl
  | false =>
    cases h : x.2.healthOf? name <;> simp [h]

theorem healthSince_untelling {name : String} {new older : List (Nat × Effect)}
    (h : ∀ x ∈ new, x.2.Untelling) : healthSince name (new ++ older) = healthSince name older := by
  induction new with
  | nil => rfl
  | cons x rest ih =>
    obtain ⟨hx, hrest⟩ := List.forall_mem_cons.1 h
    rw [List.cons_append, healthSince_cons, hx.adds, ih hrest]
    simp [Effect.healthOf?, hx.health]

theorem Alternating.cons {state : OperatingState} {states : List OperatingState}
    (h : Alternating states) (hs : state ≠ states.headD .up) : Alternating (state :: states) := by
  cases states with
  | nil => exact List.isChain_cons_cons.2 ⟨hs, List.isChain_singleton _⟩
  | cons x rest => exact List.isChain_cons_cons.2 ⟨hs, h⟩

theorem Alternating.isChain {states : List OperatingState} (h : Alternating states) :
    states.IsChain (· ≠ ·) :=
  List.IsChain.left_of_append h

theorem Alternating.getLast {states : List OperatingState} (h : Alternating states)
    {first : OperatingState} (hf : states.getLast? = some first) : first = .down := by
  obtain ⟨before, rfl⟩ := List.getLast?_eq_some_iff.1 hf
  have hc : (before ++ (first :: [.up])).IsChain (· ≠ ·) := by simpa [Alternating] using h
  have hne := (List.isChain_cons_cons.1 (List.IsChain.right_of_append hc)).1
  cases first with
  | up => exact absurd rfl hne
  | down => rfl

/-! ## What was told -/

/-- The devices and their states in a trace, and when, the latest first. -/
def dated (f : Effect → Option (String × OperatingState)) (trace : List (Nat × Effect)) :
    List (Nat × String × OperatingState) :=
  trace.filterMap fun x => (f x.2).map (x.1, ·)

namespace Service

open FieldGateway.Action

variable {σ : Type} {driver : Driver σ} {s t u : Service σ} {allowed : Nat} {metadata : Bool}

/-- All devices that were announced to have gone down or come up. -/
def healthEvents (s : Service σ) : List (Nat × String × OperatingState) :=
  dated Effect.health? s.site.trace

/-- All devices of which the metadata service was told how they are. -/
def stateReports (s : Service σ) : List (Nat × String × OperatingState) :=
  dated Effect.stateReport? s.site.trace

/-- Every device that is registered is as was announced last since it was added. -/
def AsTold (s : Service σ) : Prop :=
  ∀ name d, s.device? name = some d →
    (s.site.condition d).operating = (healthSince name s.site.trace).headD .up

/-- The stream of health tells how devices are, and the metadata service hears the same, if there
is one. -/
structure Told (metadata : Bool) (s : Service σ) : Prop where
  reporting : s.controller.reportsMetadata = metadata
  alternating (name : String) : Alternating (healthSince name s.site.trace)
  current {name : String} {d : Device} : s.device? name = some d →
    (s.site.condition d).operating = (healthSince name s.site.trace).headD .up
  paired : s.stateReports = if metadata then s.healthEvents else []

theorem Told.asTold (h : Told metadata s) : AsTold s := fun _ _ hd => h.current hd

theorem asTold_of_fresh (h : Fresh s) : AsTold s := fun name d hd => by
  rw [device?, h.registry] at hd
  cases hd

theorem told_of_fresh (h : Fresh s) : Told s.controller.reportsMetadata s := by
  refine ⟨rfl, fun name => ?_, fun hd => asTold_of_fresh h _ _ hd, ?_⟩
  · rw [h.trace]
    exact List.isChain_singleton _
  · rw [stateReports, healthEvents, h.trace]
    split <;> rfl

/-! ## Silence -/

theorem Noting.healthEvents (h : Noting (·.tellsOfHealth = false) s t) :
    t.healthEvents = s.healthEvents :=
  h.filterMap fun x hx => by rw [hx.health]; rfl

theorem Noting.stateReports (h : Noting (·.tellsOfHealth = false) s t) :
    t.stateReports = s.stateReports :=
  h.filterMap fun x hx => by rw [hx.state]; rfl

theorem Noting.healthSince (h : Noting (·.tellsOfHealth = false) s t) (name : String) :
    healthSince name t.site.trace = healthSince name s.site.trace := by
  obtain ⟨new, ht, hnew⟩ := h
  rw [ht]
  exact healthSince_untelling fun x hx => (Effect.untelling_iff x.2).1 (hnew x hx)

theorem AsTold.silent (h : AsTold s) (silent : Silent s t) : AsTold t := fun name d hd => by
  rw [silent.health.operating, silent.noting.healthSince]
  exact h name d (silent.device? name ▸ hd)

theorem Told.silent (h : Told metadata s) (silent : Silent s t) : Told metadata t := by
  refine ⟨silent.metadata.trans h.reporting, fun name => ?_,
    fun hd => h.asTold.silent silent _ _ hd, ?_⟩
  · rw [silent.noting.healthSince]
    exact h.alternating name
  · rw [silent.noting.stateReports, silent.noting.healthEvents]
    exact h.paired

/-! ## Reports -/

theorem healthSince_reported (name : String) (d : Device) (r : Report) (now : Nat)
    (older : List (Nat × Effect)) :
    healthSince name ((now, .reported d r) :: older) = healthSince name older := by
  rw [healthSince_cons]
  rfl

theorem healthSince_news (name : String) (d : Device) (reason : String) (state : OperatingState)
    (s : Service σ) (older : List (Nat × Effect)) :
    healthSince name (news d reason state s ++ older) =
      if d.name = name then state :: healthSince name older else healthSince name older := by
  have told : healthSince name
      ((s.site.now, .announced healthSource (tidings d reason s.site.seconds state)) :: older) =
        if d.name = name then state :: healthSince name older else healthSince name older := by
    rw [healthSince_cons]
    cases state <;> by_cases hn : d.name = name <;>
      simp [tidings, Effect.adds, Effect.healthOf?, Effect.health?, hn]
  unfold news
  split
  · rw [List.append_assoc, List.singleton_append, healthSince_cons]
    exact told
  · exact told

theorem dated_health_news (d : Device) (reason : String) (state : OperatingState)
    (s : Service σ) :
    dated Effect.health? (news d reason state s) = [(s.site.now, d.name, state)] := by
  unfold news
  cases state <;> cases s.controller.reportsMetadata <;> rfl

theorem dated_stateReport_news (d : Device) (reason : String) (state : OperatingState)
    (s : Service σ) :
    dated Effect.stateReport? (news d reason state s) =
      if s.controller.reportsMetadata then [(s.site.now, d.name, state)] else [] := by
  unfold news
  cases state <;> cases s.controller.reportsMetadata <;> rfl

/-- A report is announced if the operating state is another one then, and not otherwise. -/
theorem healthEvents_conclude (d : Device) (r : Report) (reason : String) (s : Service σ) :
    ((conclude d r reason).after s).healthEvents =
      (if (turned d r s).1 = (turned d r s).2 then []
        else [(s.site.now, d.name, (turned d r s).2)]) ++ s.healthEvents := by
  rw [healthEvents, conclude_trace, dated, List.filterMap_append]
  split
  · rfl
  · rw [← dated, dated_health_news]
    rfl

theorem stateReports_conclude (d : Device) (r : Report) (reason : String) (s : Service σ) :
    ((conclude d r reason).after s).stateReports =
      (if (turned d r s).1 = (turned d r s).2 then []
        else if s.controller.reportsMetadata then [(s.site.now, d.name, (turned d r s).2)]
        else []) ++ s.stateReports := by
  rw [stateReports, conclude_trace, dated, List.filterMap_append]
  split
  · rfl
  · rw [← dated, dated_stateReport_news]
    rfl

/-- A report is part of the stream of one device, if the operating state is another one then. -/
theorem healthSince_conclude (name : String) (d : Device) (r : Report) (reason : String)
    (s : Service σ) :
    healthSince name ((conclude d r reason).after s).site.trace =
      if d.name = name ∧ (turned d r s).1 ≠ (turned d r s).2
      then (turned d r s).2 :: healthSince name s.site.trace
      else healthSince name s.site.trace := by
  rw [conclude_trace]
  by_cases same : (turned d r s).1 = (turned d r s).2
  · rw [if_pos same, List.nil_append, healthSince_reported, if_neg fun hn => hn.2 same]
  · rw [if_neg same, healthSince_news, healthSince_reported]
    simp [same]

theorem Told.concluded (h : Told metadata s) (hs : Accounted allowed s) {d : Device}
    (hd : s.device? d.name = some d) (r : Report) (reason : String) :
    Told metadata ((conclude d r reason).after s) := by
  have stream (name : String) := healthSince_conclude name d r reason s
  refine ⟨(reportsMetadata_conclude d r reason s).trans h.reporting, fun name => ?_,
    fun {name e} he => ?_, ?_⟩
  · rw [stream]
    split
    · rename_i hn
      refine (h.alternating name).cons ?_
      rw [← h.current (hn.1 ▸ hd)]
      exact hn.2.symm
    · exact h.alternating name
  · rw [device?_conclude] at he
    rw [operating_conclude (hs.known hd), stream]
    by_cases hn : d.name = name
    · subst hn
      cases hd.symm.trans he
      rw [if_pos rfl]
      split
      · rfl
      · rename_i same
        rw [← h.current hd]
        have : (turned d r s).1 = (turned d r s).2 := by simpa using same
        exact this.symm
    · rw [if_neg fun hserial => hn (hs.apart hd he hserial), if_neg fun hc => hn hc.1]
      exact h.current he
  · rw [stateReports_conclude, healthEvents_conclude, h.reporting, h.paired]
    split <;> split <;> simp

/-! ## Devices that come and go -/

/-- A device is added that is up, and nothing was announced of its health yet. -/
theorem insertDevice_stream (driver : Driver σ) (config : DeviceConfig) (s : Service σ) :
    let t := (insertDevice driver config).after s
    t = s ∨ ∃ d c, Installed d c s t ∧ c.operating = .up ∧
      (∀ name, healthSince name t.site.trace =
        if d.name = name then [] else healthSince name s.site.trace) ∧
      t.healthEvents = s.healthEvents ∧ t.stateReports = s.stateReports := by
  intro t
  rcases insertDevice_cases driver config s with ⟨_, _, ha⟩ | ⟨d, _, _, _, i, trace⟩
  · exact .inl ha
  refine .inr ⟨d, _, i, rfl, fun name => ?_, ?_, ?_⟩
  · rw [trace, healthSince_cons, healthSince_cons]
    by_cases hn : d.name = name <;> simp [Effect.adds, Effect.healthOf?, Effect.health?, hn]
  · rw [healthEvents, trace]
    rfl
  · rw [stateReports, trace]
    rfl

theorem dropDevice_noting (driver : Driver σ) (name : String) :
    Within (Noting (·.tellsOfHealth = false)) (dropDevice driver name) := fun s => by
  unfold dropDevice
  rw [after_get_bind]
  cases s.site.registry.removeDevice name with
  | error e => exact .of_eq rfl
  | ok registry => exact .two rfl rfl rfl

/-- The other devices are as they were, and the new one is as the stream tells. -/
theorem AsTold.installed (h : AsTold s)
    (known : ∀ name d, s.device? name = some d → s.site.Knows d) {d : Device} {c : Condition}
    (i : Installed d c s t)
    (stream : ∀ name, d.name ≠ name →
      healthSince name t.site.trace = healthSince name s.site.trace)
    (current : c.operating = (healthSince d.name t.site.trace).headD .up) : AsTold t := by
  intro name e he
  rw [i.device?] at he
  rw [i.condition]
  split at he
  · rename_i hn
    cases he
    rw [if_pos rfl, ← hn]
    exact current
  · rename_i hn
    have older : e.serial < d.serial := i.serial ▸ known name e he
    rw [if_neg (Nat.ne_of_lt older), stream name hn]
    exact h name e he

theorem AsTold.insertDevice (h : AsTold s)
    (known : ∀ name d, s.device? name = some d → s.site.Knows d) (config : DeviceConfig) :
    AsTold ((insertDevice driver config).after s) := by
  rcases insertDevice_stream driver config s with ha | ⟨d, c, i, up, stream, _, _⟩
  · rw [ha]
    exact h
  · refine h.installed known i (fun name hn => (stream name).trans (if_neg hn)) ?_
    rw [stream, if_pos rfl]
    exact up

theorem Told.insertDevice (h : Told metadata s) (hs : Accounted allowed s) (config : DeviceConfig) :
    Told metadata ((insertDevice driver config).after s) := by
  have current : AsTold ((Service.insertDevice driver config).after s) :=
    h.asTold.insertDevice (fun _ _ hd => hs.known hd) config
  rcases insertDevice_stream driver config s with ha | ⟨d, c, i, _, stream, events, reports⟩
  · rw [ha]
    exact h
  · refine ⟨by rw [i.controller]; exact h.reporting, fun name => ?_, fun hd => current _ _ hd, ?_⟩
    · rw [stream]
      split
      · exact List.isChain_singleton _
      · exact h.alternating name
    · rw [reports, events]
      exact h.paired

theorem replaceDevice_noting (driver : Driver σ) (config : DeviceConfig) :
    Within (Noting (·.tellsOfHealth = false)) (replaceDevice driver config) := fun s => by
  rcases replaceDevice_cases driver config s with ⟨_, _, ha⟩ | ⟨d, _, _, _, _, _, ht⟩
  · rw [ha]
    exact .of_eq rfl
  · exact .one ht rfl

/-- The new incarnation is in the state of the old one. -/
theorem AsTold.replaceDevice (h : AsTold s)
    (known : ∀ name d, s.device? name = some d → s.site.Knows d) (config : DeviceConfig) :
    AsTold ((replaceDevice driver config).after s) := by
  have stream (name : String) := (replaceDevice_noting driver config s).healthSince name
  rcases replaceDevice_cases driver config s with ⟨_, _, ha⟩ | ⟨d, old, _, _, hold, i, _⟩
  · rw [ha]
    exact h
  · refine h.installed known i (fun name _ => stream name) ?_
    rw [stream]
    exact h d.name old hold

theorem Told.replaceDevice (h : Told metadata s) (hs : Accounted allowed s)
    (config : DeviceConfig) : Told metadata ((replaceDevice driver config).after s) := by
  have noting := replaceDevice_noting driver config s
  have current : AsTold ((Service.replaceDevice driver config).after s) :=
    h.asTold.replaceDevice (fun _ _ hd => hs.known hd) config
  refine ⟨?_, fun name => ?_, fun hd => current _ _ hd, ?_⟩
  · rw [(replaceDevice_placed driver config s).controller]
    exact h.reporting
  · rw [noting.healthSince]
    exact h.alternating name
  · rw [noting.stateReports, noting.healthEvents]
    exact h.paired

theorem cancelProbe_silent (name : String) : Within Silent (cancelProbe (σ := σ) name) :=
  fun s => ⟨SameHealth.cancelProbe name s, .of_eq (by rw [site_cancelProbe]),
    reportsMetadata_cancelProbe name s⟩

theorem AsTold.dropDevice (h : AsTold s) (name : String) :
    AsTold ((dropDevice driver name).after s) := by
  have noting := dropDevice_noting driver name s
  rcases dropDevice_cases driver name s with ⟨_, _, ha⟩ | ⟨_, devices, conditions, _⟩
  · rw [ha]
    exact h
  · intro n d hd
    rw [device?, Registry.device?, devices, Dict.find?_erase] at hd
    rw [Site.condition, conditions, noting.healthSince]
    split at hd
    · cases hd
    · exact h n d hd

theorem Told.dropDevice (h : Told metadata s) (name : String) :
    Told metadata ((dropDevice driver name).after s) := by
  have noting := dropDevice_noting driver name s
  refine ⟨?_, fun n => ?_, fun hd => h.asTold.dropDevice name _ _ hd, ?_⟩
  · rw [(dropDevice_placed driver name s).controller]
    exact h.reporting
  · rw [noting.healthSince]
    exact h.alternating n
  · rw [noting.stateReports, noting.healthEvents]
    exact h.paired

/-! ## Runs -/

theorem Turns.told (turns : Turns driver s t) (hs : Tidy allowed s) (h : Told metadata s) :
    Told metadata t := by
  induction turns with
  | refl => exact h
  | @tail u v before turn ih =>
    have hu : Tidy allowed u := Turns.tidy driver before hs
    cases turn with
    | calm calm => exact ih.silent calm.toSilent
    | report r reason hd => exact ih.concluded hu.accounted hd r reason
    | insert config => exact ih.insertDevice hu.accounted config
    | remove name => exact (ih.silent (cancelProbe_silent name u)).dropDevice name
    | @forget name _ hd =>
      exact ih.silent ⟨SameHealth.forgetProbe name u, .of_eq rfl, rfl⟩
    | giveUp off hi hd => exact ih.silent ⟨off.health, off.plain.noting, off.plain.metadata⟩

variable (driver)

theorem perform_told (hs : Tidy allowed s) (h : Told metadata s) (op : Operation σ) :
    Told metadata (perform driver s op) := by
  rcases perform_turns driver hs op with ⟨config, rfl⟩ | ⟨force, rfl⟩ | turns
  · exact (h.replaceDevice hs.accounted config).silent
      (updateDevice_calm driver config s).toSilent
  · have stopped := h.silent (stopSampling_calm driver s).toSilent
    rw [perform, after_stop]
    exact (stopped.silent (cancelAllProbes_silent _)).silent (stopRest_calm driver force _).toSilent
  · exact turns.told hs h

theorem performAll_told (h : Fresh s) (ops : List (Operation σ)) :
    Told s.controller.reportsMetadata (performAll driver s ops) :=
  (performAll_keeps (P := fun t => Tidy s.controller.config.allowedFails t ∧
      Told s.controller.reportsMetadata t)
    (fun _ op ht => ⟨perform_tidy driver ht.1 op, perform_told driver ht.1 ht.2 op⟩) s ops
    ⟨tidy_of_fresh h, told_of_fresh h⟩).2

/-- After any run, what was announced of the health of a device since it was added goes down and
up by turns, down first, and the last of it is how the device is, up if there is none. The metadata
service was told all that was announced, in the same order, at the same time, and nothing else.
A report on a device is announced once if the operating state is another one then, and not at all
if it is the same; updates and locks are never announced. -/
theorem health_stream {s₀ : Service σ} (h₀ : Fresh s₀) (ops : List (Operation σ))
    (name : String) :
    let s := performAll driver s₀ ops
    let states := healthSince name s.site.trace
    states.IsChain (· ≠ ·) ∧ (∀ first, states.getLast? = some first → first = .down) ∧
    (∀ d, s.device? name = some d → (s.site.condition d).operating = states.headD .up) ∧
    (s.stateReports = if s₀.controller.reportsMetadata then s.healthEvents else []) ∧
    (∀ d r reason, s.device? name = some d →
      let t := (conclude d r reason).after s
      let before := (s.site.condition d).operating
      let now := (t.site.condition d).operating
      t.healthEvents = (if before = now then [] else [(s.site.now, name, now)]) ++ s.healthEvents) ∧
    (∀ config, (perform driver s (.updateDevice config)).healthEvents = s.healthEvents) ∧
    ∀ device state,
      (perform driver s (.setAdminState device state)).healthEvents = s.healthEvents := by
  intro s states
  have tidy : Tidy s₀.controller.config.allowedFails s := performAll_tidy driver h₀ ops
  have told : Told s₀.controller.reportsMetadata s := performAll_told driver h₀ ops
  refine ⟨(told.alternating name).isChain, fun _ => (told.alternating name).getLast,
    fun d hd => told.current hd, told.paired, fun d r reason hd => ?_, fun config => ?_,
    fun device state => ?_⟩
  · have hnow : (((conclude d r reason).after s).site.condition d).operating =
        (turned d r s).2 := by
      rw [operating_conclude (tidy.accounted.known hd), if_pos rfl]
    dsimp only
    rw [healthEvents_conclude, hnow, tidy.accounted.named hd]
    rfl
  · have sampled := updateDevice_calm driver config s
    exact sampled.noting.healthEvents.trans (replaceDevice_noting driver config s).healthEvents
  · exact (Calm.setAdminState device state s).noting.healthEvents

/-- A device that may fail once fails twice and then answers: it is announced to be down, and then
to be up, and the metadata service is told the same. -/
theorem down_then_up :
    let s₀ : Service Simulation :=
      ⟨{ timeOfDay := 0, driverState := {}, bus := Bus.ofName "gateway" },
        { config := { allowedFails := 1 }, reportsMetadata := true }⟩
    let s := performAll (Simulation.driver false) s₀
      [.addProfile { name := "pump" }, .addDevice { name := "p1", profileName := "pump" },
        .noteFailure "p1" "no answer", .noteFailure "p1" "no answer", .noteSuccess "p1"]
    healthSince "p1" s.site.trace = [.up, .down] ∧ s.stateReports = s.healthEvents := by
  intro s₀ s
  have fresh : Fresh s₀ := by constructor <;> rfl
  obtain ⟨-, -, -, paired, -⟩ := health_stream (Simulation.driver false) fresh
    [.addProfile { name := "pump" }, .addDevice { name := "p1", profileName := "pump" },
      .noteFailure "p1" "no answer", .noteFailure "p1" "no answer", .noteSuccess "p1"] "p1"
  exact ⟨by decide, paired.trans (if_pos rfl)⟩

end Service

end FieldGateway
