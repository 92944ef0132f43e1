import FieldGateway.Proofs.Commands.Access

/-
  What begins, and with which command. A timer begins a probe or the reading of a sampler
  (`Fires`), a request begins a command that it may run (`authorize_found`). The command says what
  the profile of the device says (`begin_apt`), for nothing that begins or ends touches the
  profiles and the commands made from them (`begin_listed`, `finish_listed`).
-/

namespace FieldGateway

namespace Service

open FieldGateway.Action
open Timer (Control)

variable {σ : Type} {driver : Driver σ} {s : Service σ} {timer fired : Nat}

/-! ## What begins -/

variable (driver) in
/-- What a timer asks the driver: a probe if the device is down, a sampler if it is not. -/
inductive Begins (s : Service σ) (timer fired : Nat) : Task → Errand → Prop
  | probe {name : String} {d : Device} {c : Command} (registered : s.device? name = some d)
      (down : s.site.isDown d = true) (found : (commandsOf driver s d).probe? = some c) :
      Begins s timer fired (.probe name) (.probe timer fired d c)
  | sample {number : Nat} {r : Sampler} {d : Device} {c : Command}
      (known : s.controller.samplers.get? number = some r)
      (registered : s.device? r.device = some d) (opened : s.controller.locked = false)
      (unlocked : s.site.isLocked d = false) (up : s.site.isDown d = false)
      (found : (commandsOf driver s d).resolve? r.source .get = some c) :
      Begins s timer fired (.sample number) (.sample timer fired number r d c)

theorem beginProbe_iff {name : String} {d : Device} {c : Command} :
    (beginProbe driver name).result s = some (d, c) ↔
      s.device? name = some d ∧ s.site.isDown d = true ∧
        (commandsOf driver s d).probe? = some c := by
  unfold beginProbe
  rw [result_get_bind]
  cases hd : s.device? name with
  | none =>
    constructor
    · intro h
      cases h
    · rintro ⟨h, -⟩
      cases h
  | some d' =>
    dsimp only
    rw [result_ite, result_bind, result_pure, result_pure]
    show (if _ then (commandsOf driver s d').probe?.map _ else _) = _ ↔ _
    constructor
    · intro h
      split at h
      · rename_i down
        obtain ⟨c', found, same⟩ := Option.map_eq_some_iff.1 h
        cases same
        exact ⟨rfl, down, found⟩
      · cases h
    · rintro ⟨same, down, found⟩
      cases same
      rw [if_pos down, found, Option.map_some]

theorem beginTask_iff {task : Task} {e : Errand} :
    (beginTask driver timer fired task).result s = .ok e ↔ Begins driver s timer fired task e := by
  constructor
  · intro h
    cases task with
    | probe name =>
      rw [beginTask, result_bind] at h
      cases found : (beginProbe driver name).result s with
      | none =>
        rw [found] at h
        cases h
      | some p =>
        rw [found] at h
        cases h
        obtain ⟨registered, down, found⟩ := beginProbe_iff.1 found
        exact .probe registered down found
    | sample number =>
      rw [beginTask, result_get_bind] at h
      split at h
      · cases h
      rename_i r known
      split at h
      · cases h
      rename_i d registered
      rw [result_ite] at h
      split at h
      · cases h
      rename_i ready
      rw [result_bind] at h
      split at h
      · cases h
      rename_i c found
      cases h
      simp only [Bool.or_eq_true, not_or, Bool.not_eq_true] at ready
      exact .sample known registered ready.1.1 ready.1.2 ready.2 found
    | counters => cases h
  · rintro (⟨registered, down, found⟩ | ⟨known, registered, opened, unlocked, up, found⟩)
    · rw [beginTask, result_bind, beginProbe_iff.2 ⟨registered, down, found⟩]
      rfl
    · rw [beginTask, result_get_bind, known]
      dsimp only
      rw [registered]
      dsimp only
      rw [commandsOf, ← result_onSite] at found
      rw [opened, unlocked, up, result_ite, if_neg (by decide), result_bind, found]
      rfl

/-- The life of a timer makes no difference to what it begins. -/
theorem begins_changeLifecycle (number : Nat) (l : Timer.Lifecycle) {task : Task} {e : Errand} :
    Begins driver ((changeLifecycle number l).after s) timer fired task e ↔
      Begins driver s timer fired task e := by
  constructor
  · rintro (⟨registered, down, found⟩ | ⟨known, registered, opened, unlocked, up, found⟩)
    · exact .probe registered down found
    · exact .sample known registered opened unlocked up found
  · rintro (⟨registered, down, found⟩ | ⟨known, registered, opened, unlocked, up, found⟩)
    · exact .probe registered down found
    · exact .sample known registered opened unlocked up found

theorem settleBegun_iff {found : Except Control Errand} {e : Errand} :
    (settleBegun timer fired found).result s = some e ↔ found = .ok e := by
  cases found with
  | error control => simp only [settleBegun, result_bind, result_pure, reduceCtorEq]
  | ok e' => simp only [settleBegun, result_pure, Option.some.injEq, Except.ok.injEq]

variable (driver) in
/-- What a timer asks the driver if it fires now. -/
def Fires (s : Service σ) (timer : Nat) (e : Errand) : Prop :=
  ∃ x, s.controller.timers.get? timer = some x ∧ x.lifecycle.beginFire.1 = true ∧
    Begins driver s timer (s.site.now * Timer.nanosPerMilli) x.task e

theorem begin_fire_iff {e : Errand} :
    (begin driver (.fire timer)).result s = some e ↔ Fires driver s timer e := by
  unfold begin Fires
  rw [result_get_bind]
  cases s.controller.timers.get? timer with
  | none =>
    constructor
    · intro h
      cases h
    · rintro ⟨x, h, -⟩
      cases h
  | some x =>
    dsimp only
    rw [result_ite, result_bind, result_bind, result_pure]
    cases armed : x.lifecycle.beginFire.1 with
    | true =>
      rw [if_pos rfl, settleBegun_iff, beginTask_iff, begins_changeLifecycle]
      simp [armed]
    | false => simp [armed]

/-- A command that may be run is one of the commands of a registered device. -/
theorem authorize_found {device command : String} {m : Method} {p : Device × Command}
    (h : (authorize driver device command m).result s = .ok p) :
    s.device? device = some p.1 ∧
      (commandsOf driver s p.1).resolve? command m.direction = some p.2 := by
  cases opened : s.controller.locked with
  | true =>
    unfold authorize at h
    rw [result_get_bind, opened] at h
    cases h
  | false =>
    cases registered : s.device? device with
    | none =>
      unfold authorize at h
      rw [result_get_bind, opened, registered] at h
      cases h
    | some d =>
      rw [result_authorize (r := ⟨m, device, command, {}, ∅⟩) opened registered,
        result_resolve] at h
      dsimp only at h
      cases found : (commandsOf driver s d).resolve? command m.direction with
      | none =>
        cases known : (commandsOf driver s d).hasCommand command <;> simp [found, known] at h
      | some c =>
        rw [found] at h
        dsimp only at h
        cases obstacle : s.obstacle? d c with
        | some e =>
          rw [obstacle] at h
          cases h
        | none =>
          rw [obstacle] at h
          cases h
          exact ⟨rfl, found⟩

/-! ## What is in flight -/

/-- The command of an errand says what the profile of its device says, and one that was asked for
was checked. -/
def Errand.Apt : Errand → Prop
  | .get d c => c.Fits d ∧ c.unreadable? = none
  | .put .. => True
  | .probe _ _ d c | .sample _ _ _ _ d c => c.Fits d ∧ c.direction = .get

theorem Begins.apt {task : Task} {e : Errand} (begins : Begins driver s timer fired task e)
    (h : Listed s) : e.Apt := by
  cases begins with
  | probe registered down found =>
    have get := List.find?_some found
    rw [Bool.and_eq_true, beq_iff_eq] at get
    exact ⟨h.fits registered (List.mem_of_find?_eq_some found), get.1⟩
  | sample known registered opened unlocked up found =>
    have get := List.find?_some found
    rw [Bool.and_eq_true, beq_iff_eq, beq_iff_eq] at get
    exact ⟨h.fits registered (List.mem_of_find?_eq_some found), get.2⟩

theorem begin_apt (h : Listed s) {x : Start} {e : Errand}
    (begun : (begin driver x).result s = some e) : e.Apt := by
  cases x with
  | get device command =>
    rw [begin, result_bind] at begun
    split at begun
    · cases begun
    rename_i d c granted
    split at begun
    · cases begun
    rename_i checked
    cases begun
    obtain ⟨registered, found⟩ := authorize_found granted
    exact ⟨h.fits registered (List.mem_of_find?_eq_some found), checked⟩
  | put device command params =>
    rw [begin, result_bind] at begun
    split at begun
    · cases begun
    rw [result_get_bind] at begun
    split at begun <;> cases begun
    trivial
  | fire timer =>
    obtain ⟨x, -, -, begins⟩ := begin_fire_iff.1 begun
    exact begins.apt h

variable (driver)

theorem authorize_listed (device command : String) (m : Method) :
    Keeps Listed (authorize driver device command m) := by
  intro s hs
  rcases authorize_cases driver device command m s with ⟨_, _, ha⟩ | ⟨d, hd, chores, _⟩
  · rw [ha]
    exact hs
  · exact (chores.work.keeps workStep_listed ⟨hs, onRecord_of_device hd⟩).1

theorem beginTask_listed (timer fired : Nat) (task : Task) :
    Keeps Listed (beginTask driver timer fired task) := by
  have indexed {s : Service σ} {name : String} {d : Device} (hs : Listed s)
      (hd : s.device? name = some d) :
      Listed ((onSite (Site.index driver d.registration)).after s) :=
    hs.index (onRecord_of_device hd)
  intro s hs
  cases task with
  | probe name =>
    rw [beginTask, after_bind]
    have begun : Listed ((beginProbe driver name).after s) := by
      unfold beginProbe
      rw [after_get_bind]
      cases hd : s.device? name with
      | none => exact hs.same rfl rfl
      | some d =>
        dsimp only
        rw [after_ite]
        split
        · exact indexed hs hd
        · exact hs
    split <;> exact begun
  | sample number =>
    rw [beginTask, after_get_bind]
    cases s.controller.samplers.get? number with
    | none => exact hs
    | some r =>
      dsimp only
      cases hd : s.device? r.device with
      | none => exact hs
      | some d =>
        dsimp only
        rw [after_ite]
        split
        · exact hs
        · rw [after_bind]
          split <;> exact indexed hs hd
  | counters => exact listed_of_still Still.announceCounters s hs

theorem begin_listed (x : Start) : Keeps Listed (begin driver x) :=
  begin_within (authorize_listed driver)
    (fun _ _ => listed_of_still (Still.changeLifecycle _ _)) (beginTask_listed driver)
    (fun _ _ _ => listed_of_still (Still.settleTimer _ _ _)) x

/-- The end of an errand does not touch the profiles, whatever became of its device. -/
theorem finish_listed (e : Errand) : Keeps Listed (finish driver e) := by
  have still {α : Type} {a : Action σ α} := listed_of_still (a := a)
  have asking (d : Device) : Asking driver d (Onward (Listed (σ := σ))) :=
    asking_of_still driver still fun a requests s hs => hs.same rfl rfl
  have count : Keeps Listed (countRead (σ := σ)) := fun s hs => hs.same rfl rfl
  have cook (d : Device) (c : Command) (results : List Result) :=
    still (Still.cook (σ := σ) d c results)
  cases e with
  | get d c => exact .bind ((asking d).readCooked count c (cook d c)) fun _ => .pure _
  | put d c values =>
    exact .bind ((asking d).write (fun a requests values =>
      still (Still.write driver d a requests values)) c values) fun _ => .pure _
  | probe timer fired d c =>
    exact .bind ((asking d).ask c.requests) fun answer =>
      .bind (still (Still.endProbe d answer)) fun control => still (Still.settleTimer _ _ control)
  | sample timer fired number r d c =>
    have publish (e : CookedEvent) : Keeps Listed (publish (σ := σ) e) :=
      publish_within e (fun _ _ hs => hs.same rfl rfl) (fun _ hs => hs.same rfl rfl)
        fun _ hs => hs.same rfl rfl
    exact .bind ((asking d).sampleNow count number r c (fun _ => still (Still.changeSampler _ _))
      fun results => publishResults_within (cook d c results) publish) fun _ =>
        still (Still.settleTimer timer fired .again)

end Service

end FieldGateway
