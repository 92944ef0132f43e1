import FieldGateway.Proofs.Service.Action

/-
  The two ways to ask for a command. Either of them runs the command (`runCommand`) and then puts
  what came of it into a reply (`reply`, `answer_eq`); nothing but the publishing of an event is
  done there.
-/

namespace FieldGateway

/-- The ways to ask for a command. -/
inductive Surface where
  /-- By the names of the device and the command. -/
  | named
  /-- By a request, with a query about the event. -/
  | requested
deriving DecidableEq, Repr

namespace Service

open FieldGateway.Action

variable {σ : Type} (driver : Driver σ)

def answer (w : Surface) (r : CommandRequest) : Action σ CommandReply :=
  match w with
  | .named => deviceCommand driver r.device r.command r.method r.params
  | .requested => execute driver r

/-- Runs the command of a request: the event that was read, nothing if it writes, or an error. -/
def runCommand (r : CommandRequest) : Action σ (Except CommandError (Option CookedEvent)) :=
  match r.method with
  | .get => do return (← runGet driver r.device r.command).map some
  | .put => do return (← runPut driver r.device r.command r.params).map fun _ => none

@[simp] theorem result_runCommand_get (device command : String) (q : Query) (params : Params)
    (s : Service σ) :
    (runCommand driver ⟨.get, device, command, q, params⟩).result s =
      ((runGet driver device command).result s).map some := rfl

@[simp] theorem after_runCommand_get (device command : String) (q : Query) (params : Params)
    (s : Service σ) :
    (runCommand driver ⟨.get, device, command, q, params⟩).after s =
      (runGet driver device command).after s := rfl

@[simp] theorem result_runCommand_put (device command : String) (q : Query) (params : Params)
    (s : Service σ) :
    (runCommand driver ⟨.put, device, command, q, params⟩).result s =
      ((runPut driver device command params).result s).map fun _ => none := rfl

@[simp] theorem after_runCommand_put (device command : String) (q : Query) (params : Params)
    (s : Service σ) :
    (runCommand driver ⟨.put, device, command, q, params⟩).after s =
      (runPut driver device command params).after s := rfl

/-- Puts into a reply what came of a command. -/
def reply (w : Surface) (q : Query) :
    Except CommandError (Option CookedEvent) → Action σ CommandReply
  | .error e => return .ofError e
  | .ok none => return .written
  | .ok (some event) =>
    match w with
    | .named => return .read event
    | .requested => do
      if q.pushed then publish event
      return .ofQuery q event

theorem reply_within {R : Service σ → Service σ → Prop} [Std.Refl R] [IsTrans (Service σ) R]
    (publish : ∀ e, Within R (publish (σ := σ) e)) (w : Surface) (q : Query)
    (outcome : Except CommandError (Option CookedEvent)) :
    Within R (reply (σ := σ) w q outcome) := by
  rcases outcome with e | _ | event
  · exact .pure _
  · exact .pure _
  · cases w with
    | named => exact .pure _
    | requested => exact .ite (.bind (publish event) fun _ => .pure _) (.pure _)

theorem answer_eq (w : Surface) (r : CommandRequest) :
    answer driver w r = runCommand driver r >>= reply w r.query := by
  obtain ⟨method, device, command, query, params⟩ := r
  funext s
  cases method with
  | get =>
    rcases hr : runGet driver device command s with ⟨outcome, t⟩
    have hrun : runCommand driver ⟨.get, device, command, query, params⟩ s =
        (outcome.map some, t) := by
      show ((runGet driver device command s).1.map some, (runGet driver device command s).2) = _
      rw [hr]
    cases w <;> cases outcome <;>
      simp [answer, deviceCommand, execute, bind, StateT.bind, hr, hrun, Except.map, reply]
  | put =>
    rcases hr : runPut driver device command params s with ⟨outcome, t⟩
    have hrun : runCommand driver ⟨.put, device, command, query, params⟩ s =
        (outcome.map fun _ => none, t) := by
      show ((runPut driver device command params s).1.map _,
        (runPut driver device command params s).2) = _
      rw [hr]
    cases w <;> cases outcome <;>
      simp [answer, deviceCommand, execute, answerPut, bind, StateT.bind, hr, hrun, Except.map,
        reply]

/-- An error is the reply, and the command left what it left. -/
theorem answer_of_error {r : CommandRequest} {s : Service σ} {e : CommandError}
    (h : (runCommand driver r).result s = .error e) (w : Surface) :
    (answer driver w r).result s = .ofError e ∧
      (answer driver w r).after s = (runCommand driver r).after s := by
  rw [answer_eq, result_bind, after_bind, h]
  exact ⟨rfl, rfl⟩

/-- Without an error the reply is a success, and at most an event was published then. -/
theorem answer_of_ok {r : CommandRequest} {s : Service σ} {event : Option CookedEvent}
    (h : (runCommand driver r).result s = .ok event) (w : Surface) :
    ((answer driver w r).result s).status = .ok ∧
      ((answer driver w r).after s = (runCommand driver r).after s ∨
        ∃ e, event = some e ∧
          (answer driver w r).after s = (publish e).after ((runCommand driver r).after s)) := by
  rw [answer_eq, result_bind, after_bind, h]
  cases event with
  | none => exact ⟨rfl, .inl rfl⟩
  | some e =>
    cases w with
    | named => exact ⟨rfl, .inl rfl⟩
    | requested =>
      obtain ⟨pushed, returned⟩ := r.query
      cases pushed <;> cases returned
      · exact ⟨rfl, .inl rfl⟩
      · exact ⟨rfl, .inl rfl⟩
      · exact ⟨rfl, .inr ⟨e, rfl, rfl⟩⟩
      · exact ⟨rfl, .inr ⟨e, rfl, rfl⟩⟩

end Service

end FieldGateway
