import FieldGateway.Driver.Simulated
import FieldGateway.Proofs.Flight.Begins
import FieldGateway.Proofs.Service.Ground

/-
  Who reads what must not be read. A command that reads is checked before it waits for the driver;
  what a timer runs is not. Work goes astray if its command, as it is found when it begins, asks
  for a resource that must not be read, and the device is reached (`Errand.Strays`). In every run,
  with any work in flight, exactly that trespasses (`trespasses_iff_lapses`): never a command that
  reads, but a probe or a sampler on a device whose profile declares such a command.
-/

namespace FieldGateway

namespace Service

open FieldGateway.Action
open Timer (Control)

variable {σ : Type} (driver : Driver σ) {s t : Service σ} {timer : Nat}

/-! ## What is read -/

variable {driver} in
/-- Whether a device is reached depends on the ground alone. -/
theorem SameGround.reaches (h : SameGround s t) (d : Device) :
    Reaches driver t d ↔ Reaches driver s d := by
  have same : (onSite (Site.address driver d)).result t =
      (onSite (Site.address driver d)).result s := by
    show (Site.address driver d t.site).1 = (Site.address driver d s.site).1
    unfold Site.address Site.createAddress
    rw [h.condition, h.driver]
    cases (s.site.condition d).address with
    | some a => rfl
    | none =>
      dsimp only
      cases (driver.createAddress s.site.driverState d.name d.protocols).1 <;> rfl
  rw [Reaches, same, Reaches]

theorem begin_fire_ground (timer : Nat) : Within SameGround (begin driver (.fire timer)) :=
  begin_fire_within (fun _ _ => ⟨rfl, rfl, rfl⟩)
    (beginTask_within
      (fun name => beginProbe_within name (SameGround.forgetProbe name) (SameGround.index driver))
      (SameGround.index driver) (fun _ => ⟨rfl, rfl, rfl⟩) timer)
    (SameGround.settleTimer timer)

/-- The errand asks a device that is reached for what must not be read. -/
def Errand.Strays (s : Service σ) (e : Errand) : Prop :=
  e.command.unreadable?.isSome = true ∧ Reaches driver s e.device

/-- The errand of a timer. -/
def Errand.isTimed : Errand → Bool
  | .probe .. | .sample .. => true
  | _ => false

/-- A command that writes. -/
def Errand.isWrite : Errand → Bool
  | .put .. => true
  | _ => false

/-- A command that writes. What is masked is read first, whether or not it may be read. -/
def Operation.isWrite : Operation σ → Bool
  | .deviceCommand _ _ m _ => m == .put
  | .execute r => r.method == .put
  | _ => false

variable {driver}

/-- Only what a timer runs goes astray, and only where the profile lets it. -/
theorem Errand.Apt.timed {e : Errand} (apt : e.Apt) (reads : e.isWrite = false)
    (strays : e.Strays driver s) : e.isTimed = true ∧ e.device.profile.Overreaches := by
  cases e with
  | get d c =>
    have shut : c.unreadable?.isSome = true := strays.1
    rw [apt.2] at shut
    cases shut
  | put => cases reads
  | probe | sample => exact ⟨rfl, apt.1.declared apt.2 strays.1⟩

variable (driver s) in
/-- What an apt errand reads trespasses just if it goes astray. -/
theorem Errand.Apt.reads {e : Errand} (apt : e.Apt) (reads : e.isWrite = false) :
    Reads (e.Strays driver s) s ((finish driver e).after s) := by
  have fits : e.command.Fits e.device := by
    cases e with
    | put => cases reads
    | get | probe | sample => exact apt.1
  have asked := finish_reads driver e (fun d c values he => by subst he; cases reads) s
  refine asked.congr ?_
  rw [Intrudes, fits.trespasses_iff]
  exact and_comm

theorem begin_get_cases {device command : String} {e : Errand}
    (h : (begin driver (.get device command)).result s = some e) : ∃ d c, e = .get d c := by
  rw [begin, result_bind] at h
  split at h
  · cases h
  split at h <;> cases h
  exact ⟨_, _, rfl⟩

theorem Fires.isTimed {e : Errand} (h : Fires driver s timer e) : e.isTimed = true := by
  obtain ⟨x, -, -, begins⟩ := h
  generalize x.task = task at begins
  cases begins <;> rfl

theorem Errand.isWrite_of_isTimed {e : Errand} (h : e.isTimed = true) : e.isWrite = false := by
  cases e with
  | get | put => cases h
  | probe | sample => rfl

/-- A command that reads is checked first. -/
theorem runGet_reads (h : Listed s) (device command : String) :
    Reads False s ((runGet driver device command).after s) := by
  rw [← atOnce_get, atOnce, after_bind]
  have idle := (begin_idle driver (.get device command) s).unread
  cases begun : (begin driver (.get device command)).result s with
  | none => exact .nothing idle
  | some e =>
    have apt := begin_apt h begun
    obtain ⟨d, c, rfl⟩ := begin_get_cases begun
    refine (Reads.before idle (apt.reads driver _ rfl)).congr (iff_false_intro fun strays => ?_)
    cases (apt.timed rfl strays).1

/-- What a timer runs is not. -/
theorem fireTimer_reads (h : Listed s) (timer : Nat) :
    Reads (∃ e, Fires driver s timer e ∧ e.Strays driver s) s
      ((fireTimer driver timer).after s) := by
  rw [← atOnce_fire, atOnce, after_bind]
  have idle := (begin_idle driver (.fire timer) s).unread
  cases begun : (begin driver (.fire timer)).result s with
  | none =>
    refine (Reads.nothing idle).congr (iff_of_false id ?_)
    rintro ⟨e, fires, -⟩
    rw [begin_fire_iff.2 fires] at begun
    cases begun
  | some e =>
    have fires := begin_fire_iff.1 begun
    have reads := (begin_apt h begun).reads driver ((begin driver (.fire timer)).after s)
      (Errand.isWrite_of_isTimed fires.isTimed)
    refine (Reads.before idle reads).congr ?_
    rw [Errand.Strays, (begin_fire_ground driver timer s).reaches]
    constructor
    · intro strays
      exact ⟨e, fires, strays⟩
    · rintro ⟨e', fires', strays⟩
      rw [begin_fire_iff.2 fires'] at begun
      cases begun
      exact strays

variable (driver) in
/-- What results are pushed was not asked for here. -/
theorem postReadings_unreading (device source : String) (results : List Result) :
    Unreading (postReadings driver device source results) :=
  postReadings_within (fun r => unreading_of_idle (Idle.index driver r))
    (fun d c results => unreading_of_still (Still.cook d c results))
    (fun d reason => unreading_of_still (Still.violated d reason)) publish_unreading device source
    results

theorem answer_reads (h : Listed s) (w : Surface) {r : CommandRequest} (get : r.method = .get) :
    Reads False s ((answer driver w r).after s) := by
  obtain ⟨method, device, command, query, params⟩ := r
  obtain rfl : method = .get := get
  rw [answer_eq, after_bind]
  exact (runGet_reads h device command).after (reply_within publish_unreading w query _ _)

/-- All other operations but commands that write read nothing that they may not. -/
theorem perform_reads (h : Listed s) {op : Operation σ} (reads : op.isWrite = false) :
    Reads (∃ timer e, op = .fire timer ∧ Fires driver s timer e ∧ e.Strays driver s) s
      (perform driver s op) := by
  cases op with
  | deviceCommand device command m params =>
    have get : m = .get := by
      cases m with
      | get => rfl
      | put => cases reads
    exact (answer_reads h .named (r := ⟨m, device, command, {}, params⟩) get).congr (by simp)
  | execute r =>
    have get : r.method = .get := by
      cases hm : r.method with
      | get => rfl
      | put =>
        rw [Operation.isWrite, hm] at reads
        cases reads
    exact (answer_reads h .requested get).congr (by simp)
  | postReadings device source results =>
    exact (Reads.nothing (postReadings_unreading driver device source results s)).congr (by simp)
  | fire timer => exact (fireTimer_reads h timer).congr (by simp)
  | _ => exact (Reads.nothing (perform_idle driver rfl s).unread).congr (by simp)

end Service

namespace Flight

open Service (Errand Fires Fresh Listed Reads Tick)

variable {σ : Type} {driver : Driver σ}

variable (driver) in
/-- What goes astray with a move: a timer that fires, or the end of what one began. -/
inductive Lapses (f : Flight σ) : Move σ → Errand → Prop
  | fire {timer : Nat} {e : Errand} (fires : Fires driver f.service timer e)
      (strays : e.Strays driver f.service) : Lapses f (.perform (.fire timer)) e
  | finish {place : Nat} {e : Errand} (pending : f.pending[place]? = some e)
      (strays : e.Strays driver f.service) : Lapses f (.finish place) e

/-- A command that writes, or the end of one. -/
inductive Writes (f : Flight σ) : Move σ → Prop
  | perform {op : Service.Operation σ} (h : op.isWrite = true) : Writes f (.perform op)
  | finish {place : Nat} {e : Errand} (pending : f.pending[place]? = some e)
      (h : e.isWrite = true) : Writes f (.finish place)

/-- The commands of all devices and of what is in flight say what the profiles say. -/
structure Sound (f : Flight σ) : Prop where
  listed : Listed f.service
  pending : ∀ e ∈ f.pending, e.Apt

theorem move_sound (f : Flight σ) (m : Move σ) (h : f.Sound) : (f.move driver m).Sound := by
  cases m with
  | perform op => exact ⟨Service.perform_listed driver _ op h.listed, h.pending⟩
  | begin x =>
    refine ⟨Service.begin_listed driver x _ h.listed, fun e he => ?_⟩
    rcases List.mem_append.1 he with he | he
    · exact h.pending e he
    · exact Service.begin_apt h.listed (Option.mem_toList.1 he)
  | finish place =>
    unfold move
    dsimp only
    cases hp : f.pending[place]? with
    | none => exact h
    | some e =>
      exact ⟨Service.finish_listed driver e _ h.listed,
        fun e he => h.pending e (List.mem_of_mem_eraseIdx he)⟩

variable (driver) in
theorem sound_of_fresh {s : Service σ} (fresh : Fresh s) (moves : List (Move σ)) :
    ((⟨s, []⟩ : Flight σ).run driver moves).Sound :=
  run_keeps move_sound ⟨s, []⟩ moves ⟨.of_fresh fresh, fun _ he => by cases he⟩

theorem move_reads {f : Flight σ} (h : f.Sound) {m : Move σ} (reads : ¬ f.Writes m) :
    Reads (∃ e, f.Lapses driver m e) f.service (f.move driver m).service := by
  cases m with
  | perform op =>
    have quiet : op.isWrite = false := by
      rw [← Bool.not_eq_true]
      exact fun writes => reads (.perform writes)
    refine (Service.perform_reads h.listed quiet).congr ⟨?_, ?_⟩
    · rintro ⟨timer, e, rfl, fires, strays⟩
      exact ⟨e, .fire fires strays⟩
    · rintro ⟨e, ⟨fires, strays⟩⟩
      exact ⟨_, e, rfl, fires, strays⟩
  | begin x =>
    refine (Reads.nothing (Service.begin_idle driver x f.service).unread).congr
      (iff_of_false id ?_)
    rintro ⟨e, lapses⟩
    cases lapses
  | finish place =>
    unfold move
    dsimp only
    cases hp : f.pending[place]? with
    | none =>
      refine (Reads.nothing (.of_eq rfl)).congr (iff_of_false id ?_)
      rintro ⟨e, _ | ⟨waits, -⟩⟩
      rw [hp] at waits
      cases waits
    | some e =>
      have quiet : e.isWrite = false := by
        rw [← Bool.not_eq_true]
        exact fun writes => reads (.finish hp writes)
      refine ((h.pending e (List.mem_of_getElem? hp)).reads driver _ quiet).congr ⟨?_, ?_⟩
      · exact fun strays => ⟨e, .finish hp strays⟩
      · rintro ⟨e', _ | ⟨waits, strays⟩⟩
        rw [hp] at waits
        cases waits
        exact strays

/-- Only what a timer runs lapses, and only on a device whose profile declares a command to be
read that works on a resource that must not be read. -/
theorem Lapses.timed {f : Flight σ} (h : f.Sound) {m : Move σ} {e : Errand}
    (lapses : f.Lapses driver m e) (reads : ¬ f.Writes m) :
    e.isTimed = true ∧ e.device.profile.Overreaches := by
  cases lapses with
  | fire fires strays =>
    have apt := Service.begin_apt h.listed (Service.begin_fire_iff.2 fires)
    exact apt.timed (Errand.isWrite_of_isTimed fires.isTimed) strays
  | finish pending strays =>
    have quiet : e.isWrite = false := by
      rw [← Bool.not_eq_true]
      exact fun writes => reads (.finish pending writes)
    exact (h.pending e (List.mem_of_getElem? pending)).timed quiet strays

variable (driver) in
/-- Whatever happened before, and whatever work is in flight: what must not be read is read by a
move just if the move lapses, unless it is a command that writes. Commands that read never do. -/
theorem trespasses_iff_lapses {s : Service σ} (fresh : Fresh s) (moves : List (Move σ))
    {m : Move σ} (reads : ¬ ((⟨s, []⟩ : Flight σ).run driver moves).Writes m) :
    let f := (⟨s, []⟩ : Flight σ).run driver moves
    (Tick.trespasses ⟨f.service, (f.move driver m).service⟩ = true ↔ ∃ e, f.Lapses driver m e) ∧
      ∀ e, f.Lapses driver m e → e.isTimed = true ∧ e.device.profile.Overreaches := by
  intro f
  have sound : f.Sound := sound_of_fresh driver fresh moves
  exact ⟨(move_reads sound reads).tick, fun e lapses => lapses.timed sound reads⟩

/-- A device that is down has a command declared to be read over a resource that must not be read.
It is the first that asks for one resource, so the probe reads it. -/
theorem trespass_of_probe :
    let driver := Simulation.driver false
    let s := Service.ofConfig { allowedFails := 1, downTimeoutSecs := 1 } 0 {}
    let moves : List (Move Simulation) :=
      [.perform (.addProfile
         { name := "pump"
           resources := [{ name := "Secret",
                           properties := { type := .scalar (.int .int32), access := .write } }]
           commands := [{ name := "Peek", access := .read,
                          operations := [{ resource := "Secret" }] }] }),
       .perform (.addDevice { name := "p1", profileName := "pump" }),
       .perform (.noteFailure "p1" "no answer")]
    let f := (⟨s, []⟩ : Flight Simulation).run driver moves
    let m : Move Simulation := .perform (.fire 0)
    ¬ f.Writes m ∧ Tick.trespasses ⟨f.service, (f.move driver m).service⟩ = true ∧
      ∃ e, f.Lapses driver m e ∧ e.isTimed = true ∧ e.device.profile.Overreaches := by
  intro driver s moves f m
  have reads : ¬ f.Writes (.perform (.fire 0)) := by
    rintro ⟨h⟩
    cases h
  have trespasses : Tick.trespasses ⟨f.service, (f.move driver m).service⟩ = true := by
    decide +kernel
  obtain ⟨iff, timed⟩ := trespasses_iff_lapses driver (Service.ofConfig_fresh _ _ _) moves reads
  obtain ⟨e, lapses⟩ := iff.1 trespasses
  exact ⟨reads, trespasses, e, lapses, timed e lapses⟩

/-- A sampler is checked when it starts. It goes on with the same command when the device gets
another profile, unless the service runs. -/
example :
    let driver := Simulation.driver false
    let s := Service.ofConfig {} 0 ({} : Simulation)
    let pump (name : String) (access : Access) : Profile :=
      { name
        resources := [{ name := "Secret", properties := { type := .scalar (.int .int32), access } }]
        commands := [
          { name := "Peek", access := .read, operations := [{ resource := "Secret" }] }] }
    let device (profileName : String) : DeviceConfig :=
      { name := "p1", profileName, autoEvents := [{ interval := "1s", source := "Peek" }] }
    let t := s.performAll driver [.addProfile (pump "pump" .read), .addDevice (device "pump"),
      .startAutoEvents "p1", .addProfile (pump "vault" .write), .updateDevice (device "vault")]
    Tick.trespasses ⟨t, t.perform driver (.fire 0)⟩ = true := by
  decide +kernel

end Flight

end FieldGateway
