import FieldGateway.Proofs.Sampling.Pushed

/-
  What a query changes. A command that reads is run in the same way whoever asks for it, and
  publishes nothing; the surface and the query then decide whether its event goes out
  (`Surface.publishes`) and whether it comes back (`Surface.returns`). What is left `withoutEvents`
  is the same for all of them: the calls of the driver, health, and the reads that were counted.
  A command that writes is one and the same action on both surfaces (`queries_agree`).
-/

namespace FieldGateway

namespace Surface

/-- An event that was read goes out. -/
def publishes : Surface → Query → Bool
  | named, _ => false
  | requested, q => q.pushed

/-- An event that was read comes back in the reply. -/
def returns : Surface → Query → Bool
  | named, _ => true
  | requested, q => q.returned

end Surface

namespace Service

open FieldGateway.Action

variable {σ : Type} (driver : Driver σ)

/-- The service but for the events that were published: what else is on record, the state of the
driver, the registry, the conditions of the devices, the clock, settings and timers, and how many
reads were counted. -/
def withoutEvents (s : Service σ) : Service σ where
  site :=
    { s.site with
      trace := s.site.trace.filter fun e => !e.2.isEvent
      bus := .ofCapacity 0
      issued := 0 }
  controller :=
    { s.controller with metrics := { readCommands := s.controller.metrics.readCommands } }

@[simp] theorem withoutEvents_publish (e : CookedEvent) (s : Service σ) :
    ((publish e).after s).withoutEvents = s.withoutEvents := by
  unfold publish
  rw [after_get_bind]
  dsimp only
  cases s.controller.publisher <;> rfl

/-- Publishes what was read, if the surface and the query want it so. -/
theorem after_reply (w : Surface) (q : Query) (outcome : Except CommandError CookedEvent)
    (s : Service σ) :
    (reply w q (outcome.map some)).after s =
      if w.publishes q then (pushed outcome).after s else s := by
  cases outcome with
  | error e => exact (ite_self s).symm
  | ok event =>
    cases w with
    | named => rfl
    | requested =>
      obtain ⟨published, returned⟩ := q
      cases published <;> rfl

theorem event_reply (w : Surface) (q : Query) (outcome : Except CommandError CookedEvent)
    (s : Service σ) :
    ((reply w q (outcome.map some)).result s).event =
      if w.returns q then outcome.toOption else none := by
  cases outcome with
  | error e => exact (ite_self none).symm
  | ok event =>
    cases w with
    | named => rfl
    | requested =>
      obtain ⟨published, returned⟩ := q
      cases published <;> cases returned <;> rfl

/-! ## Commands that read -/

variable (device command : String) (w : Surface) (q : Query) (params : Params) (s : Service σ)

/-- The reading itself, and then perhaps the publishing. -/
theorem after_answer_get :
    let outcome := (runGet driver device command).result s
    let t := (runGet driver device command).after s
    (answer driver w ⟨.get, device, command, q, params⟩).after s =
      if w.publishes q then (pushed outcome).after t else t := by
  rw [answer_eq, after_bind]
  exact after_reply w q _ _

theorem withoutEvents_answer_get :
    ((answer driver w ⟨.get, device, command, q, params⟩).after s).withoutEvents =
      ((runGet driver device command).after s).withoutEvents := by
  rw [after_answer_get]
  split
  · cases (runGet driver device command).result s with
    | error e => rfl
    | ok event => exact withoutEvents_publish event _
  · rfl

theorem published_answer_get :
    let outcome := (runGet driver device command).result s
    Tick.published ⟨s, (answer driver w ⟨.get, device, command, q, params⟩).after s⟩ =
      if w.publishes q then outcome.toOption.toList.map s.publication else [] := by
  rw [after_answer_get]
  split
  · exact published_get driver device command s
  · exact Tick.published_eq_nil (x := ⟨s, _⟩) (Unpublished.runGet driver device command s)

theorem event_answer_get :
    ((answer driver w ⟨.get, device, command, q, params⟩).result s).event =
      if w.returns q then ((runGet driver device command).result s).toOption else none := by
  rw [answer_eq, result_bind]
  exact event_reply w q _ _

/-! ## All queries at once -/

/-- A command that writes takes no notice of the surface and the query. -/
theorem answer_put : answer driver w ⟨.put, device, command, q, params⟩ =
    answerPut driver device command params := by
  cases w <;> rfl

/-- A command that reads leaves the same service but for its event, whoever asks for it and with
whatever query. The event goes out once if there is one and a request wants it pushed, and never
otherwise; it is in the reply if there is one and it is to be returned. An error is answered with
the same reply everywhere, and that has no event. A command that writes is the same on both
surfaces, and publishes nothing. -/
theorem queries_agree (device command : String) (s : Service σ) :
    (∀ w q params,
      let outcome := (runGet driver device command).result s
      let a := answer driver w ⟨.get, device, command, q, params⟩
      (∀ w' q' params', (a.after s).withoutEvents =
        ((answer driver w' ⟨.get, device, command, q', params'⟩).after s).withoutEvents) ∧
      Tick.published ⟨s, a.after s⟩ =
        (if w.publishes q then outcome.toOption.toList.map s.publication else []) ∧
      (a.result s).event = (if w.returns q then outcome.toOption else none) ∧
      (∀ event, outcome = .ok event → (a.result s).status = .ok) ∧
      ∀ e, outcome = .error e → a.result s = .ofError e) ∧
    ∀ w q params,
      let a := answer driver w ⟨.put, device, command, q, params⟩
      (∀ w' q', a = answer driver w' ⟨.put, device, command, q', params⟩) ∧
      Tick.published ⟨s, a.after s⟩ = [] := by
  refine ⟨fun w q params => ⟨fun w' q' params' => ?_, ?_, ?_, fun event h => ?_, fun e h => ?_⟩,
    fun w q params => ⟨fun w' q' => ?_, ?_⟩⟩
  · rw [withoutEvents_answer_get, withoutEvents_answer_get]
  · exact published_answer_get driver device command w q params s
  · exact event_answer_get driver device command w q params s
  · have ran : (runCommand driver ⟨.get, device, command, q, params⟩).result s =
        .ok (some event) := by
      rw [result_runCommand_get, h]
      rfl
    exact (answer_of_ok driver ran w).1
  · have ran : (runCommand driver ⟨.get, device, command, q, params⟩).result s = .error e := by
      rw [result_runCommand_get, h]
      rfl
    exact (answer_of_error driver ran w).1
  · rw [answer_put, answer_put]
  · rw [answer_put]
    exact Tick.published_eq_nil (Unsent.answerPut driver device command params s).noting

end Service

end FieldGateway
