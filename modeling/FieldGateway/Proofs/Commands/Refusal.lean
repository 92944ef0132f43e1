import FieldGateway.Driver.Simulated
import FieldGateway.Proofs.Commands.Surface
import FieldGateway.Proofs.Service.Run
import FieldGateway.Proofs.Writing.Refusal

/-
  Who may run a command. `Refusal` has one constructor for each check, in their order; a command is
  refused for the first check that fails, and the refusal leaves no trace but the commands of the
  profile, once they are known (`refused_for_first_obstacle`). A command that reads and that no
  check keeps back goes on: the driver is asked for the address, unless it is known, and then for
  the reading (`read_asks`).
-/

namespace FieldGateway

/-- The other direction. -/
def Direction.opposite : Direction → Direction
  | get => set
  | set => get

/-- A command that is not found in one direction is known by its name only in the other. -/
theorem Index.hasCommand_iff {i : Index} {name : String} {d : Direction}
    (h : i.resolve? name d = none) :
    i.hasCommand name = true ↔ (i.resolve? name d.opposite).isSome = true := by
  simp only [resolve?, List.find?_eq_none, Bool.and_eq_true, beq_iff_eq, not_and] at h
  simp only [hasCommand, resolve?, List.any_eq_true, List.find?_isSome, Bool.and_eq_true,
    beq_iff_eq]
  refine exists_congr fun c => and_congr_right fun hc => ⟨fun hn => ⟨hn, ?_⟩, And.left⟩
  have hd := h c hc hn
  cases d <;> cases hx : c.direction <;> simp_all [Direction.opposite]

theorem Command.unreadable?_eq_some {c : Command} {before after : List Step} {step : Step}
    (steps : c.steps = before ++ step :: after)
    (readable : ∀ x ∈ before, x.properties.access.readable = true)
    (unreadable : step.properties.access.readable = false) :
    c.unreadable? = some step.request.resource := by
  have none : before.find? (fun x => !x.properties.access.readable) = none := by
    simpa using readable
  simp [Command.unreadable?, steps, List.find?_append, none, unreadable]

theorem Command.unreadable?_cases (c : Command) :
    c.unreadable? = none ∨ ∃ before step after, c.steps = before ++ step :: after ∧
      (∀ x ∈ before, x.properties.access.readable = true) ∧
      step.properties.access.readable = false := by
  unfold Command.unreadable?
  cases h : c.steps.find? fun x => !x.properties.access.readable with
  | none => exact .inl rfl
  | some step =>
    obtain ⟨hstep, before, after, hsteps, hbefore⟩ := List.find?_eq_some_iff_append.1 h
    exact .inr ⟨before, step, after, hsteps, by simpa using hbefore, by simpa using hstep⟩

namespace Service

open FieldGateway.Action

variable {σ : Type} (driver : Driver σ)

/-! ## The checks -/

/-- The commands of a device, as they are found when they are asked for. -/
def commandsOf (s : Service σ) (d : Device) : Index := (s.site.index driver d.registration).1

/-- The service is open, the device is registered, and it has the command in the direction of the
method. -/
structure Found (s : Service σ) (r : CommandRequest) (d : Device) (c : Command) : Prop where
  opened : s.controller.locked = false
  registered : s.device? r.device = some d
  resolved : (commandsOf driver s d).resolve? r.command r.method.direction = some c

/-- Nothing keeps the command from the device, and it is not too large. -/
structure Allowed (s : Service σ) (r : CommandRequest) (d : Device) (c : Command) : Prop
    extends Found driver s r d c where
  unlocked : s.site.isLocked d = false
  up : s.site.isDown d = false
  fits : s.controller.config.maxCommandOps = 0 ∨ c.size ≤ s.controller.config.maxCommandOps

/-- The first check that fails, and what is answered. -/
inductive Refusal (s : Service σ) (r : CommandRequest) : CommandError → Prop
  | serviceLocked (locked : s.controller.locked = true) : Refusal s r .serviceLocked
  | deviceNotFound (opened : s.controller.locked = false) (missing : s.device? r.device = none) :
      Refusal s r (.deviceNotFound r.device)
  | wrongDirection {d : Device} (opened : s.controller.locked = false)
      (registered : s.device? r.device = some d)
      (missing : (commandsOf driver s d).resolve? r.command r.method.direction = none)
      (other : ((commandsOf driver s d).resolve? r.command r.method.direction.opposite).isSome) :
      Refusal s r (.wrongDirection r.command r.method.name)
  | commandNotFound {d : Device} (opened : s.controller.locked = false)
      (registered : s.device? r.device = some d)
      (missing : ∀ direction, (commandsOf driver s d).resolve? r.command direction = none) :
      Refusal s r (.commandNotFound d.name r.command)
  | deviceLocked {d : Device} {c : Command} (found : Found driver s r d c)
      (locked : s.site.isLocked d = true) : Refusal s r (.deviceLocked d.name)
  | deviceDown {d : Device} {c : Command} (found : Found driver s r d c)
      (unlocked : s.site.isLocked d = false) (down : s.site.isDown d = true) :
      Refusal s r (.deviceDown d.name)
  | tooManyOperations {d : Device} {c : Command} (found : Found driver s r d c)
      (unlocked : s.site.isLocked d = false) (up : s.site.isDown d = false)
      (limited : 0 < s.controller.config.maxCommandOps)
      (large : s.controller.config.maxCommandOps < c.size) :
      Refusal s r (.tooManyOperations r.command c.size s.controller.config.maxCommandOps)
  | notReadable {d : Device} {c : Command} {before after : List Step} {step : Step}
      (allowed : Allowed driver s r d c) (get : r.method = .get)
      (steps : c.steps = before ++ step :: after)
      (readable : ∀ x ∈ before, x.properties.access.readable = true)
      (unreadable : step.properties.access.readable = false) :
      Refusal s r (.notReadable step.request.resource)

/-! ## What is found -/

variable {driver} {s : Service σ} {r : CommandRequest} {d : Device} {c : Command}

theorem Found.name (h : Found driver s r d c) : c.name = r.command := by
  have := List.find?_some h.resolved
  simp only [Bool.and_eq_true, beq_iff_eq] at this
  exact this.1

/-- The commands that are looked through are those that are found. -/
theorem result_resolve (d : Device) (command : String) (m : Method) :
    (resolve driver d command m).result s =
      match (commandsOf driver s d).resolve? command m.direction with
      | some c => .ok c
      | none =>
        if (commandsOf driver s d).hasCommand command then .error (.wrongDirection command m.name)
        else .error (.commandNotFound d.name command) := by
  unfold resolve
  rw [result_bind]
  show Action.result (match (commandsOf driver s d).resolve? command m.direction with
    | some c => _
    | none => _) _ = _
  cases (commandsOf driver s d).resolve? command m.direction with
  | some c => rfl
  | none => exact result_ite _ _ _ _

/-- Making the commands of a profile changes nothing that the checks look at. -/
theorem Indexed.obstacle? {t : Service σ} (h : Indexed s t) (d : Device) (c : Command) :
    t.obstacle? d c = s.obstacle? d c := by
  obtain ⟨_, _, rfl, _⟩ := h
  rfl

theorem result_authorize (opened : s.controller.locked = false)
    (registered : s.device? r.device = some d) :
    (authorize driver r.device r.command r.method).result s =
      match (resolve driver d r.command r.method).result s with
      | .error e => .error e
      | .ok c =>
        match s.obstacle? d c with
        | some e => .error e
        | none => .ok (d, c) := by
  unfold authorize
  rw [result_get_bind, opened, registered]
  simp only [Bool.false_eq_true, if_false, result_bind]
  cases (resolve driver d r.command r.method).result s with
  | error e => rfl
  | ok c =>
    dsimp only
    rw [result_get_bind, (resolve_indexed driver d r.command r.method s).obstacle?]
    cases s.obstacle? d c <;> rfl

theorem result_authorize_of_found (h : Found driver s r d c) :
    (authorize driver r.device r.command r.method).result s =
      match s.obstacle? d c with
      | some e => .error e
      | none => .ok (d, c) := by
  rw [result_authorize h.opened h.registered, result_resolve, h.resolved]

theorem Allowed.result_authorize (h : Allowed driver s r d c) :
    (authorize driver r.device r.command r.method).result s = .ok (d, c) := by
  have free : s.obstacle? d c = none := by
    have fits := h.fits
    simp only [Service.obstacle?, h.unlocked, h.up, Bool.false_eq_true, if_false,
      ite_eq_right_iff, reduceCtorEq, imp_false]
    omega
  rw [result_authorize_of_found h.toFound, free]

/-- The checks that a command passes leave nothing but the commands of the device. -/
theorem Allowed.after_authorize (h : Allowed driver s r d c) :
    (authorize driver r.device r.command r.method).after s =
      (onSite (Site.index driver d.registration)).after s := by
  have resolved : (resolve driver d r.command r.method).result s = .ok c := by
    rw [result_resolve, h.resolved]
  have looked : (resolve driver d r.command r.method).after s =
      (onSite (Site.index driver d.registration)).after s := by
    unfold resolve
    rw [after_bind]
    split
    · rfl
    · rw [after_ite, after_pure, after_pure, ite_self]
  unfold authorize
  rw [after_get_bind, h.opened, h.registered]
  simp only [Bool.false_eq_true, if_false, after_bind, resolved]
  rw [looked]
  split <;> rfl

/-! ## What is refused -/

theorem runCommand_of_refused {e : CommandError}
    (h : (authorize driver r.device r.command r.method).result s = .error e) :
    (runCommand driver r).result s = .error e ∧
      (runCommand driver r).after s =
        (authorize driver r.device r.command r.method).after s := by
  obtain ⟨method, device, command, query, params⟩ := r
  cases method with
  | get =>
    rw [result_runCommand_get, after_runCommand_get]
    unfold runGet
    rw [result_bind, after_bind, h]
    exact ⟨rfl, rfl⟩
  | put =>
    rw [result_runCommand_put, after_runCommand_put]
    unfold runPut
    rw [result_bind, after_bind, h]
    exact ⟨rfl, rfl⟩

/-- A command that fails a check is refused for it, and nothing else comes of it. -/
theorem Refusal.refused {e : CommandError} (h : Refusal driver s r e) :
    (runCommand driver r).result s = .error e ∧
      (runCommand driver r).after s =
        (authorize driver r.device r.command r.method).after s := by
  cases h with
  | serviceLocked locked =>
    refine runCommand_of_refused ?_
    unfold authorize
    rw [result_get_bind, locked]
    rfl
  | deviceNotFound opened missing =>
    refine runCommand_of_refused ?_
    unfold authorize
    rw [result_get_bind, opened, missing]
    rfl
  | wrongDirection opened registered missing other =>
    refine runCommand_of_refused ?_
    rw [result_authorize opened registered, result_resolve, missing]
    simp only [(Index.hasCommand_iff missing).2 other, if_true]
  | commandNotFound opened registered missing =>
    refine runCommand_of_refused ?_
    have unknown := mt (Index.hasCommand_iff (missing r.method.direction)).1 (by simp [missing])
    rw [result_authorize opened registered, result_resolve, missing]
    simp only [if_neg unknown]
  | deviceLocked found locked =>
    refine runCommand_of_refused ?_
    rw [result_authorize_of_found found]
    simp [Service.obstacle?, locked]
  | deviceDown found unlocked down =>
    refine runCommand_of_refused ?_
    rw [result_authorize_of_found found]
    simp [Service.obstacle?, unlocked, down]
  | tooManyOperations found unlocked up limited large =>
    refine runCommand_of_refused ?_
    rw [result_authorize_of_found found]
    simp [Service.obstacle?, unlocked, up, limited, large, found.name]
  | notReadable allowed get steps readable unreadable =>
    obtain ⟨method, device, command, query, params⟩ := r
    cases get
    rw [result_runCommand_get, after_runCommand_get]
    unfold runGet
    rw [result_bind, after_bind, allowed.result_authorize]
    dsimp only
    rw [Command.unreadable?_eq_some steps readable unreadable]
    exact ⟨rfl, rfl⟩

/-- A check fails, or the command may be run. -/
theorem refusal_or_allowed (driver : Driver σ) (s : Service σ) (r : CommandRequest) :
    (∃ e, Refusal driver s r e) ∨
      ∃ d c, Allowed driver s r d c ∧ (r.method = .get → c.unreadable? = none) := by
  cases opened : s.controller.locked with
  | true => exact .inl ⟨_, .serviceLocked opened⟩
  | false =>
  cases registered : s.device? r.device with
  | none => exact .inl ⟨_, .deviceNotFound opened registered⟩
  | some d =>
  cases resolved : (commandsOf driver s d).resolve? r.command r.method.direction with
  | none =>
    cases other : (commandsOf driver s d).resolve? r.command r.method.direction.opposite with
    | some c => exact .inl ⟨_, .wrongDirection opened registered resolved (by simp [other])⟩
    | none =>
      refine .inl ⟨_, .commandNotFound opened registered fun direction => ?_⟩
      cases hm : r.method.direction <;> cases direction <;> rw [hm] at resolved other <;>
        assumption
  | some c =>
  have found : Found driver s r d c := ⟨opened, registered, resolved⟩
  cases locked : s.site.isLocked d with
  | true => exact .inl ⟨_, .deviceLocked found locked⟩
  | false =>
  cases down : s.site.isDown d with
  | true => exact .inl ⟨_, .deviceDown found locked down⟩
  | false =>
  by_cases large : 0 < s.controller.config.maxCommandOps ∧
      s.controller.config.maxCommandOps < c.size
  · exact .inl ⟨_, .tooManyOperations found locked down large.1 large.2⟩
  have allowed : Allowed driver s r d c := ⟨found, locked, down, by omega⟩
  by_cases get : r.method = .get
  · rcases c.unreadable?_cases with readable | ⟨before, step, after, hsteps, hbefore, hstep⟩
    · exact .inr ⟨d, c, allowed, fun _ => readable⟩
    · exact .inl ⟨_, .notReadable allowed get hsteps hbefore hstep⟩
  · exact .inr ⟨d, c, allowed, fun h => absurd h get⟩

/-! ## What goes on -/

/-- The driver was asked for the address of a device, unless that was known, and then for the
reading of a command, and for nothing else. -/
inductive AskedToRead (d : Device) (c : Command) (s t : Service σ) : Prop
  | known {a : Address} {outcome : Except DriverError (List Result)} {now : Nat}
      {new : List (Nat × Effect)} (address : (s.site.condition d).address = some a)
      (trace : t.site.trace =
        new ++ (now, .driver (.read d a c.requests outcome)) :: s.site.trace)
      (quiet : ∀ x ∈ new, x.2.isExchange = false)
  | made {a : Address} {outcome : Except DriverError (List Result)} {now now' : Nat}
      {new : List (Nat × Effect)} (address : (s.site.condition d).address = none)
      (trace : t.site.trace = new ++ (now, .driver (.read d a c.requests outcome)) ::
        (now', .driver (.address d (.ok a))) :: s.site.trace)
      (quiet : ∀ x ∈ new, x.2.isExchange = false)
  | unreachable {e : DriverError} {now : Nat} {new : List (Nat × Effect)}
      (address : (s.site.condition d).address = none)
      (trace : t.site.trace = new ++ (now, .driver (.address d (.error e))) :: s.site.trace)
      (quiet : ∀ x ∈ new, x.2.isExchange = false)

theorem AskedToRead.trans {t u : Service σ} (h : AskedToRead d c s t)
    (quiet : Noting (·.isExchange = false) t u) : AskedToRead d c s u := by
  obtain ⟨newer, hu, hq⟩ := quiet
  have all {new : List (Nat × Effect)} (hnew : ∀ x ∈ new, x.2.isExchange = false) :
      ∀ x ∈ newer ++ new, x.2.isExchange = false :=
    fun x hx => (List.mem_append.1 hx).elim (hq x) (hnew x)
  cases h with
  | known address trace quiet =>
    exact .known address (by rw [hu, trace, List.append_assoc]) (all quiet)
  | made address trace quiet =>
    exact .made address (by rw [hu, trace, List.append_assoc]) (all quiet)
  | unreachable address trace quiet =>
    exact .unreachable address (by rw [hu, trace, List.append_assoc]) (all quiet)

theorem received_quiet (d : Device) (c : Command) (answer : Except DriverError (List Result)) :
    Quiet (received (σ := σ) d c answer) :=
  received_within (reportSuccess_quiet d) (changeController_quiet _) (touch_quiet d)
    (driverFailed_quiet d) (violated_quiet d) c answer

variable (driver)

theorem readRaw_asks (d : Device) (c : Command) (s : Service σ) :
    AskedToRead d c s ((readRaw driver d c).after s) := by
  unfold readRaw address
  rw [after_bind_assoc, after_bind, after_onSite, result_onSite]
  rcases Site.address_cases driver d s.site with ⟨a, known, h⟩ | ⟨unknown, outcome, state, -, h⟩
  · have asked : AskedToRead d c s ((onSite (Site.read driver d a c.requests)).after s) :=
      .known known (List.nil_append _).symm (List.forall_mem_nil _)
    rw [h]
    exact asked.trans (received_quiet d c _ _)
  · rw [h]
    cases outcome with
    | error e =>
      have failed : Quiet (σ := σ) (reportFailure d e.message >>= fun _ =>
          pure (Except.error (CommandError.addressResolution d.name e.message) :
            Except CommandError (List Result))) := (reportFailure_quiet d _).bind fun _ => .pure _
      exact AskedToRead.trans
        (.unreachable unknown (List.nil_append _).symm (List.forall_mem_nil _)) (failed _)
    | ok a =>
      exact AskedToRead.trans (.made unknown (List.nil_append _).symm (List.forall_mem_nil _))
        (received_quiet d c _ _)

theorem read_asks (d : Device) (c : Command) (s : Service σ) :
    AskedToRead d c s ((read driver d c).after s) := by
  unfold read
  rw [after_bind]
  refine (readRaw_asks driver d c s).trans ?_
  cases (readRaw driver d c).result s with
  | error e => exact .of_eq rfl
  | ok results => exact .of_eq rfl

theorem publish_quiet (e : CookedEvent) : Quiet (publish (σ := σ) e) :=
  publish_within e (fun _ => announce_quiet _ _) (changeController_quiet _) (note_quiet rfl)

theorem reply_quiet (w : Surface) (q : Query) (outcome : Except CommandError (Option CookedEvent)) :
    Quiet (reply (σ := σ) w q outcome) :=
  reply_within publish_quiet w q outcome

theorem runGet_of_allowed {device command : String} {q : Query} {params : Params}
    (h : Allowed driver s ⟨.get, device, command, q, params⟩ d c)
    (readable : c.unreadable? = none) :
    let t := (authorize driver device command .get).after s
    (runGet driver device command).result s = ((read driver d c).result t).map (·.2) ∧
      (runGet driver device command).after s = (read driver d c).after t := by
  have hauth : (authorize driver device command .get).result s = .ok (d, c) :=
    h.result_authorize
  unfold runGet
  rw [result_bind, after_bind, hauth]
  dsimp only
  rw [readable]
  exact ⟨rfl, rfl⟩

/-- Whichever way a command is asked for, the first check that fails is what is answered: the
lock of the service, the device, the command in the direction of the method, the lock of the
device, its health, the size of the command, and for one that reads the first resource that cannot
be read. The refusal changes nothing but that the commands of the profile are known then. If no
check fails, a command that reads goes on, to the address and to the driver. -/
theorem refused_for_first_obstacle (s : Service σ) (r : CommandRequest) (w : Surface) :
    (∀ e, Refusal driver s r e →
      (runCommand driver r).result s = .error e ∧ (answer driver w r).result s = .ofError e ∧
        Indexed s ((answer driver w r).after s)) ∧
    ((∀ e, ¬ Refusal driver s r e) → r.method = .get →
      ∃ d c t, Allowed driver s r d c ∧ Indexed s t ∧
        AskedToRead d c t ((answer driver w r).after s) ∧
        (runCommand driver r).result s = ((read driver d c).result t).map (some ·.2)) := by
  refine ⟨fun e h => ?_, fun h get => ?_⟩
  · obtain ⟨hresult, hafter⟩ := h.refused
    obtain ⟨hreply, hsame⟩ := answer_of_error driver hresult w
    refine ⟨hresult, hreply, ?_⟩
    rw [hsame, hafter]
    exact authorize_indexed driver r.device r.command r.method s
  · rcases refusal_or_allowed driver s r with ⟨e, he⟩ | ⟨d, c, allowed, readable⟩
    · exact absurd he (h e)
    obtain ⟨method, device, command, query, params⟩ := r
    cases get
    obtain ⟨hresult, hafter⟩ := runGet_of_allowed driver allowed (readable rfl)
    refine ⟨d, c, _, allowed, authorize_indexed driver device command .get s, ?_, ?_⟩
    · rw [answer_eq, after_bind, after_runCommand_get, hafter]
      exact (read_asks driver d c _).trans (reply_quiet w query _ _)
    · rw [result_runCommand_get, hresult]
      cases (read driver d c).result _ <;> rfl

/-- A device that is locked and down: the lock is what is answered. -/
theorem refused_for_lock_though_down :
    let driver := Simulation.driver false
    let s := performAll driver (ofConfig { allowedFails := 1 } 0 {})
      [.addProfile { name := "pump",
                     resources := [{ name := "on", properties := { type := .scalar .bool } }] },
        .addDevice { name := "p1", profileName := "pump", admin := .locked },
        .noteFailure "p1" "no answer"]
    let r : CommandRequest := { method := .get, device := "p1", command := "on" }
    (s.device? "p1").any s.site.isDown = true ∧
      (answer driver .requested r).result s = .ofError (.deviceLocked "p1") ∧
      Indexed s ((answer driver .requested r).after s) := by
  intro driver s r
  obtain ⟨d, registered⟩ := Option.isSome_iff_exists.1 (by decide : (s.device? "p1").isSome = true)
  have known : (s.device? "p1").all (fun d => s.site.isLocked d && d.name == "p1" &&
      ((commandsOf driver s d).resolve? r.command r.method.direction).isSome) = true := by decide
  rw [registered, Option.all_some, Bool.and_eq_true, Bool.and_eq_true] at known
  obtain ⟨⟨locked, hname⟩, hc⟩ := known
  obtain ⟨c, resolved⟩ := Option.isSome_iff_exists.1 hc
  have found : Found driver s r d c := ⟨rfl, registered, resolved⟩
  obtain ⟨-, hreply, hafter⟩ :=
    (refused_for_first_obstacle driver s r .requested).1 _ (.deviceLocked found locked)
  exact ⟨by decide, by rw [hreply, eq_of_beq hname], hafter⟩

end Service

end FieldGateway
