import FieldGateway.Proofs.Probing.Attempts
import FieldGateway.Proofs.Probing.Needed
import FieldGateway.Proofs.Service.Due

/-
  Probes over time. A device that goes down leaves a probe `Armed`: it is due a period from now,
  which is the down timeout, or thirty years of 365 days if that is less (`conclude_armed`). While
  no other timer falls due, an armed probe fires a period later (`Armed.fireNext`). If the device
  does not answer then, the probe is armed anew (`Armed.unanswered`); if it does, it is up and its
  probe ends (`Armed.answered`). So there is an attempt at the end of each period until one is
  answered, and none after that (`Armed.course`); and whatever is done later, none is made while the
  device is not down (`probe_converges`).
-/

namespace FieldGateway

theorem Timer.milliOf_mul (millis : Nat) : milliOf (millis * nanosPerMilli) = millis := by
  unfold milliOf nanosPerMilli
  omega

/-- A down timeout lasts a whole number of milliseconds, and does not end at once. -/
theorem ServiceConfig.wait_downTimeout {c : ServiceConfig} {timeout : Duration}
    (h : c.downTimeout? = some timeout) :
    Timer.wait timeout = Timer.waitMillis timeout.millis * Timer.nanosPerMilli ∧
      0 < Timer.waitMillis timeout.millis := by
  unfold downTimeout? at h
  split at h
  · cases h
  · cases h
    unfold Timer.wait Timer.waitMillis Timer.nanosPerMilli Timer.longestWait Duration.millis
      Duration.ofSeconds Duration.perSecond
    dsimp only
    omega

namespace Service

open FieldGateway.Action
open Timer (nanosPerMilli)

variable {σ : Type} {driver : Driver σ} {s t u : Service σ} {p : Probe} {allowed limit : Nat}

/-- The milliseconds between two attempts of a probe. -/
def Probe.period (p : Probe) : Nat := Timer.waitMillis p.timeout.millis

variable (driver) in
/-- The device of a probe is down, and the probe is due a period from now. -/
structure Armed (p : Probe) (s : Service σ) : Prop where
  configured : s.controller.config.downTimeout? = some p.timeout
  probing : Probing driver p ((s.site.now + p.period) * nanosPerMilli) s

theorem Armed.wait (h : Armed driver p s) : Timer.wait p.timeout = p.period * nanosPerMilli :=
  (ServiceConfig.wait_downTimeout h.configured).1

theorem Armed.period_pos (h : Armed driver p s) : 0 < p.period :=
  (ServiceConfig.wait_downTimeout h.configured).2

/-! ## Arming -/

/-- The probe that is set is due when the timeout is over. -/
theorem setProbe_timer (timeout : Duration) (name : String) (s : Service σ) :
    let t := (setProbe timeout name).after s
    let number := s.controller.timers.next
    t.site.now = s.site.now ∧ t.controller.probes.find? name = some number ∧
      ∃ waiting : Timer.Waiting,
        waiting.due = s.site.now * nanosPerMilli + Timer.wait timeout ∧
        t.controller.timers.get? number =
          some { rhythm := .retrying timeout, task := .probe name, waiting } := by
  refine ⟨rfl, ?_, ⟨_, s.site.now, true, s.site.waits⟩, rfl, ?_⟩
  · show (s.controller.probes.insert name s.controller.timers.next).find? name = _
    rw [Dict.find?_insert, if_pos rfl]
  · show (s.controller.timers.add _).get? s.controller.timers.next = _
    rw [Numbered.get?_add, if_pos rfl]
    rfl

/-- A device that went down and has no probe gets one. -/
theorem wentDown_sets {d : Device} {timeout : Duration}
    (configured : s.controller.config.downTimeout? = some timeout)
    (unprobed : s.hasProbe d.name = false) (reason : String) :
    ∃ u : Service σ, (wentDown d reason).after s = (setProbe timeout d.name).after u ∧
      u.controller = s.controller := by
  let said := (announce healthSource (.deviceDown d.name (some reason))).after s
  let u := (report (.stateReported d.name .down)).after said
  have controller : u.controller = s.controller := controller_report _ said
  refine ⟨u, ?_, controller⟩
  show (armProbe d.name).after u = _
  unfold armProbe
  rw [after_get_bind, controller, configured]
  dsimp only
  rw [after_ite, hasProbe_of_controller controller, unprobed]
  rfl

/-- A report that takes a device down has a probe set, if there is none. -/
theorem conclude_sets {d : Device} {r : Report} (turns : turned d r s = (.up, .down))
    {timeout : Duration} (configured : s.controller.config.downTimeout? = some timeout)
    (unprobed : s.hasProbe d.name = false) (reason : String) :
    ∃ u : Service σ, (conclude d r reason).after s = (setProbe timeout d.name).after u ∧
      u.controller = s.controller := by
  rcases conclude_cases d r reason s with ⟨same, -⟩ | ⟨rose, -⟩ | ⟨-, went⟩
  · rw [turns] at same
    cases same
  · rw [turns] at rose
    cases rose
  · rw [went]
    exact wentDown_sets (s := (enter d r).after s) configured unprobed reason

/-- A device that goes down leaves a probe armed, if there is a command to read. -/
theorem conclude_armed (h : ProbesInOrder allowed s) {d : Device} {r : Report}
    (hd : s.device? d.name = some d) (turns : turned d r s = (.up, .down)) {timeout : Duration}
    (configured : s.controller.config.downTimeout? = some timeout) {c : Command}
    (found : (commandsOf driver s d).probe? = some c) (reason : String) :
    Armed driver ⟨d, c, s.controller.timers.next, timeout⟩ ((conclude d r reason).after s) := by
  have unprobed : s.hasProbe d.name = false := by
    refine (h.unprobed driver fun e he => ?_).1
    have up : (s.site.condition d).operating = .up := congrArg Prod.fst turns
    rw [← Option.some.inj (hd.symm.trans he), Site.isDown, up]
    rfl
  have commands : commandsOf driver ((conclude d r reason).after s) d = commandsOf driver s d :=
    commandsOf_congr (conclude_catalogue d r reason s).2 (SameGround.conclude d r reason s).driver d
  have down : ((conclude d r reason).after s).site.isDown d = true := by
    rw [Site.isDown, operating_conclude (h.tidy.accounted.known hd), if_pos rfl, turns]
    rfl
  have config := (conclude_sameHealth d r reason s).config
  obtain ⟨u, set, controller⟩ := conclude_sets turns configured unprobed reason
  obtain ⟨now, recorded, waiting, due, timer⟩ := setProbe_timer timeout d.name u
  rw [← set] at now recorded timer
  rw [controller] at recorded timer
  refine ⟨(congrArg (·.downTimeout?) config).trans configured, (device?_conclude ..).trans hd, down,
    commands ▸ found, recorded, waiting, due.trans ?_, timer⟩
  rw [(ServiceConfig.wait_downTimeout configured).1, ← Nat.add_mul, ← now]
  rfl

/-- The driver itself may see that the device does not answer. -/
theorem noteFailure_armed (h : ProbesInOrder allowed s) {name : String} {d : Device}
    (hd : s.device? name = some d) (turns : turned d .failure s = (.up, .down))
    {timeout : Duration} (configured : s.controller.config.downTimeout? = some timeout)
    {c : Command} (found : (commandsOf driver s d).probe? = some c) (reason : String) :
    Armed driver ⟨d, c, s.controller.timers.next, timeout⟩
      ((noteFailure name reason).after s) := by
  obtain rfl := h.tidy.accounted.named hd
  unfold noteFailure withDevice
  rw [after_get_bind, hd]
  exact conclude_armed h hd (r := .failure) turns configured found reason

/-! ## The next timer -/

/-- It becomes later, and nothing else happens. -/
theorem Armed.clock (h : Armed driver p s) (millis : Nat) :
    Probing driver p ((s.site.now + p.period) * nanosPerMilli) ((clockTo millis).after s) where
  registered := h.probing.registered
  down := h.probing.down
  found := by
    have same : commandsOf driver ((clockTo millis).after s) p.device =
        commandsOf driver s p.device :=
      commandsOf_congr (s := s) (t := (clockTo millis).after s) rfl rfl p.device
    rw [same]
    exact h.probing.found
  recorded := h.probing.recorded
  waits := h.probing.waits

/-- A probe that is armed waits until a period from now. -/
theorem Armed.waits (h : Armed driver p s) :
    ∃ w, s.controller.Waits p.timer w ∧ w.millis = s.site.now + p.period := by
  obtain ⟨w, due, timer⟩ := h.probing.waits
  refine ⟨w, ⟨_, timer, rfl, rfl⟩, ?_⟩
  rw [Timer.Waiting.millis, due, Timer.milliOf_mul]

/-- If it falls due alone, the probe fires next. -/
theorem Armed.fireNext (h : Armed driver p s) (alone : s.controller.Alone p.timer limit)
    (due : s.site.now + p.period ≤ limit) :
    nextFire? s = some (s.site.now + p.period) ∧
      fireNext driver s =
        (fireTimer driver p.timer).after ((clockTo (s.site.now + p.period)).after s) := by
  obtain ⟨w, waits, millis⟩ := h.waits
  have next := alone.nextTimer? waits (millis.trans_le due)
  unfold nextFire? Service.fireNext
  rw [next, Option.map_some, ← millis]
  exact ⟨rfl, rfl⟩

/-- Nothing fires before the probe does. -/
theorem Armed.late (h : Armed driver p s) (alone : s.controller.Alone p.timer limit)
    (late : limit < s.site.now + p.period) {time : Nat} (next : nextFire? s = some time) :
    limit < time := by
  obtain ⟨w, waits, millis⟩ := h.waits
  refine nextFire?_late alone (fun w' waits' => ?_) next
  obtain ⟨x, hx, -, rfl⟩ := waits
  obtain ⟨y, hy, -, rfl⟩ := waits'
  obtain rfl := Option.some.inj (hx.symm.trans hy)
  rwa [millis]

/-! ## Attempts in time -/

variable (driver) in
/-- A device gives no answer to a probe the first `k` times that it is asked, and then it does. -/
def Probe.AnswersAfter (p : Probe) : (k : Nat) → Service σ → Prop
  | 0, s => ((p.ask driver).result s).isOk = true
  | k + 1, s => ((p.ask driver).result s).isOk = false ∧
    p.AnswersAfter k ((p.ask driver).after s)

theorem SameGround.answersAfter (h : SameGround s t) {k : Nat}
    (answers : p.AnswersAfter driver k s) : p.AnswersAfter driver k t := by
  induction k generalizing s t with
  | zero =>
    obtain ⟨same, -⟩ := h.asked driver p.device p.command.requests
    exact (congrArg Except.isOk same).trans answers
  | succ k ih =>
    obtain ⟨same, ground⟩ := h.asked driver p.device p.command.requests
    exact ⟨(congrArg Except.isOk same).trans answers.1, ih ground answers.2⟩

/-- A period passed, and at its end the device was asked. -/
structure Tried (p : Probe) (answered : Bool) (s t : Service σ) : Prop where
  now : t.site.now = s.site.now + p.period
  attempts : t.attempts = s.attempts ++ [(s.site.now + p.period, p.device, answered)]
  others (i : Nat) (other : i ≠ p.timer) :
    t.controller.timers.get? i = s.controller.timers.get? i
  unsent : Unsent s t

theorem now_clockTo (h : s.site.now ≤ limit) : ((clockTo limit).after s).site.now = limit :=
  Nat.max_eq_right h

theorem Attempted.tried {answered : Bool}
    (h : Attempted p answered ((clockTo (s.site.now + p.period)).after s) t) :
    Tried p answered s t := by
  have now := now_clockTo (Nat.le_add_right s.site.now p.period)
  refine ⟨h.confined.now.trans now, ?_, h.confined.others, ?_⟩
  · rw [← now]
    exact h.attempts
  · have passed : Unsent s ((clockTo (s.site.now + p.period)).after s) := ⟨.of_eq rfl, rfl, rfl⟩
    exact passed.trans h.unsent

theorem Tidy.clock (h : Tidy allowed s) (millis : Nat) :
    Tidy allowed ((clockTo millis).after s) :=
  h.calm (.of_controller { SameHealth.refl s with } (.of_eq rfl) rfl rfl rfl)

/-- A device that does not answer has its probe armed anew. -/
theorem Armed.unanswered (h : Armed driver p s) (tidy : Tidy allowed s)
    (unanswered : ((p.ask driver).result s).isOk = false) :
    let t := (fireTimer driver p.timer).after ((clockTo (s.site.now + p.period)).after s)
    Tried p false s t ∧ Armed driver p t ∧ SameGround ((p.ask driver).after s) t ∧
      t.healthEvents = s.healthEvents := by
  intro t
  let c := (clockTo (s.site.now + p.period)).after s
  have ground : SameGround s c := ⟨rfl, rfl, rfl⟩
  obtain ⟨same, asked⟩ := ground.asked driver p.device p.command.requests
  have tidy : Tidy allowed c := tidy.clock _
  cases answer : (p.ask driver).result s with
  | ok results =>
    rw [answer] at unanswered
    cases unanswered
  | error e =>
    obtain ⟨attempted, silent, left, again⟩ :=
      (h.clock (s.site.now + p.period)).failed tidy (same.trans answer)
    refine ⟨attempted.tried, ⟨?_, ?_⟩, asked.trans left, silent.noting.healthEvents⟩
    · exact (congrArg (·.downTimeout?) silent.health.config).trans h.configured
    · rw [h.wait, ← Nat.add_mul, ← attempted.confined.now] at again
      exact again

/-- A device that answers is up, and its probe ends. -/
theorem Armed.answered (h : Armed driver p s) (tidy : Tidy allowed s)
    (answered : ((p.ask driver).result s).isOk = true) :
    let c := (clockTo (s.site.now + p.period)).after s
    let t := (fireTimer driver p.timer).after c
    Tried p true s t ∧ Recovered p c t := by
  intro c t
  have ground : SameGround s c := ⟨rfl, rfl, rfl⟩
  obtain ⟨same, -⟩ := ground.asked driver p.device p.command.requests
  have tidy : Tidy allowed c := tidy.clock _
  cases answer : (p.ask driver).result s with
  | error e =>
    rw [answer] at answered
    cases answered
  | ok results =>
    obtain ⟨attempted, recovered⟩ :=
      (h.clock (s.site.now + p.period)).answered tidy (same.trans answer)
    exact ⟨attempted.tried, recovered⟩

/-! ## The course of a probe -/

/-- So many attempts from a time on, one at the end of each period. The one after `k` is answered,
and none before it. -/
def Probe.attempts (p : Probe) (k made start : Nat) : List (Nat × Device × Bool) :=
  (List.range made).map fun j => (start + (j + 1) * p.period, p.device, decide (j = k))

theorem Probe.attempts_succ (p : Probe) (k made start : Nat) :
    p.attempts (k + 1) (made + 1) start =
      (start + p.period, p.device, false) :: p.attempts k made (start + p.period) := by
  unfold attempts
  rw [List.range_succ_eq_map, List.map_cons, List.map_map, Nat.zero_add, Nat.one_mul]
  refine congrArg (_ :: ·) (List.map_congr_left fun j _ => ?_)
  have later : start + (j + 1 + 1) * p.period = start + p.period + (j + 1) * p.period := by
    rw [Nat.succ_mul (j + 1)]
    omega
  simp only [Function.comp_apply, Nat.succ_eq_add_one, later, Nat.add_right_cancel_iff]

/-- The device came up at the end of the period after `k`, or did not come up. -/
def Probe.recovery (p : Probe) (k made start : Nat) : List (Nat × String × OperatingState) :=
  if k < made then [(start + (k + 1) * p.period, p.device.name, .up)] else []

theorem Probe.recovery_succ (p : Probe) (k made start : Nat) :
    p.recovery (k + 1) (made + 1) start = p.recovery k made (start + p.period) := by
  have later : start + (k + 1 + 1) * p.period = start + p.period + (k + 1) * p.period := by
    rw [Nat.succ_mul (k + 1)]
    omega
  unfold recovery
  rw [later]
  simp only [Nat.add_lt_add_iff_right]

/-- How so many attempts of a probe go, of which none before the one after `k` is answered. -/
structure Course (p : Probe) (k made : Nat) (s t : Service σ) : Prop where
  attempts : t.attempts = s.attempts ++ p.attempts k made s.site.now
  registered : t.device? p.device.name = some p.device
  down : t.site.isDown p.device = decide (made ≤ k)
  inHand : k < made →
    (t.site.condition p.device).remainingFails = t.controller.config.allowedFails
  told : t.healthEvents = p.recovery k made s.site.now ++ s.healthEvents
  probed : made ≤ k → t.hasProbe p.device.name = true
  unsent : Unsent s t

namespace Course

variable {k made : Nat}

/-- No attempt was made yet. -/
theorem of_armed (h : Armed driver p s) (k : Nat) : Course p k 0 s s where
  attempts := (List.append_nil _).symm
  registered := h.probing.registered
  down := h.probing.down
  inHand := nofun
  told := rfl
  probed _ := by
    obtain ⟨w, -, timer⟩ := h.probing.waits
    rw [hasProbe, h.probing.recorded, Option.any_some, isLive, timer]
    rfl
  unsent := .refl s

/-- The first attempt is answered. -/
theorem of_answered (tried : Tried p true s t)
    (recovered : Recovered p ((clockTo (s.site.now + p.period)).after s) t) :
    Course p 0 1 s t where
  attempts := by
    rw [tried.attempts, Probe.attempts, List.range_one, List.map_singleton, Nat.zero_add,
      Nat.one_mul]
    rfl
  registered := recovered.registered
  down := recovered.up
  inHand _ := recovered.inHand
  told := by
    rw [recovered.told, now_clockTo (Nat.le_add_right _ _), Probe.recovery, if_pos Nat.one_pos,
      Nat.zero_add, Nat.one_mul]
    rfl
  probed := nofun
  unsent := tried.unsent

/-- The first attempt is not answered. -/
theorem after_failure (tried : Tried p false s t) (told : t.healthEvents = s.healthEvents)
    (h : Course p k made t u) : Course p (k + 1) (made + 1) s u where
  attempts := by
    rw [h.attempts, tried.attempts, tried.now, Probe.attempts_succ, List.append_assoc]
    rfl
  registered := h.registered
  down := by rw [h.down, decide_eq_decide, Nat.add_le_add_iff_right]
  inHand answered := h.inHand (Nat.lt_of_succ_lt_succ answered)
  told := by rw [h.told, told, tried.now, Probe.recovery_succ]
  probed unanswered := h.probed (Nat.le_of_succ_le_succ unanswered)
  unsent := tried.unsent.trans h.unsent

/-- It becomes later. -/
theorem clock (h : Course p k made s t) (millis : Nat) :
    Course p k made s ((clockTo millis).after t) where
  attempts := h.attempts
  registered := h.registered
  down := h.down
  inHand := h.inHand
  told := h.told
  probed := h.probed
  unsent := h.unsent.trans ⟨.of_eq rfl, rfl, rfl⟩

end Course

/-- Before the period ends nothing happens. -/
theorem Armed.course_early {millis : Nat} (h : Armed driver p s)
    (alone : s.controller.Alone p.timer (s.site.now + millis)) (soon : millis < p.period)
    (k fuel : Nat) : Course p k (min (millis / p.period) (k + 1)) s
      (runDue nextFire? (Service.fireNext driver) (s.site.now + millis) fuel s) := by
  rw [runDue_of_late fun _ => h.late alone (Nat.add_lt_add_left soon _), Nat.div_eq_of_lt soon,
    Nat.zero_min]
  exact .of_armed h k

/-- When the period ends the probe fires. -/
theorem Armed.runDue_fires {millis : Nat} (h : Armed driver p s)
    (alone : s.controller.Alone p.timer (s.site.now + millis)) (whole : p.period ≤ millis)
    (fuel : Nat) :
    runDue nextFire? (Service.fireNext driver) (s.site.now + millis) (fuel + 1) s =
      runDue nextFire? (Service.fireNext driver) (s.site.now + millis) fuel
        ((fireTimer driver p.timer).after ((clockTo (s.site.now + p.period)).after s)) := by
  have due : s.site.now + p.period ≤ s.site.now + millis := Nat.add_le_add_left whole _
  obtain ⟨next, fired⟩ := h.fireNext alone due
  rw [runDue_of_due next due, fired]

/-- At the end of each period there is an attempt, until one is answered. -/
theorem Armed.course {k millis fuel : Nat} (h : Armed driver p s) (tidy : Tidy allowed s)
    (answers : p.AnswersAfter driver k s)
    (alone : s.controller.Alone p.timer (s.site.now + millis)) (enough : millis < fuel) :
    Course p k (min (millis / p.period) (k + 1)) s
      (runDue nextFire? (Service.fireNext driver) (s.site.now + millis) fuel s) := by
  obtain ⟨fuel, rfl⟩ := Nat.exists_eq_succ_of_ne_zero (Nat.ne_zero_of_lt enough)
  induction k generalizing s millis fuel with
  | zero =>
    rcases Nat.lt_or_ge millis p.period with soon | whole
    · exact h.course_early alone soon 0 _
    obtain ⟨tried, recovered⟩ := h.answered tidy answers
    rw [h.runDue_fires alone whole]
    generalize (fireTimer driver p.timer).after _ = t at tried recovered ⊢
    have late : ∀ time, nextFire? t = some time → s.site.now + millis < time := fun _ =>
      nextFire?_late (alone.congr tried.others) fun _ waits =>
        absurd waits (not_waits_of_ended recovered.ended)
    have made : min (millis / p.period) (0 + 1) = 1 :=
      Nat.min_eq_right (Nat.div_pos whole h.period_pos)
    rw [runDue_of_late late, made]
    exact .of_answered tried recovered
  | succ k ih =>
    rcases Nat.lt_or_ge millis p.period with soon | whole
    · exact h.course_early alone soon (k + 1) _
    obtain ⟨tried, armed, ground, told⟩ := h.unanswered tidy answers.1
    have tidy' := perform_tidy driver (tidy.clock (s.site.now + p.period)) (.fire p.timer)
    change Tidy allowed ((fireTimer driver p.timer).after _) at tidy'
    rw [h.runDue_fires alone whole]
    generalize (fireTimer driver p.timer).after _ = t at tried armed ground told tidy' ⊢
    -- the rest of the time is one period less, and so is the number of attempts
    have left : s.site.now + millis = t.site.now + (millis - p.period) := by
      rw [tried.now]
      omega
    have made : min (millis / p.period) (k + 1 + 1) =
        min ((millis - p.period) / p.period) (k + 1) + 1 := by
      rw [Nat.div_eq_sub_div h.period_pos whole]
      omega
    have shorter : millis - p.period < fuel := by
      have := h.period_pos
      omega
    obtain ⟨fuel, rfl⟩ := Nat.exists_eq_succ_of_ne_zero (Nat.ne_zero_of_lt shorter)
    have alone' := alone.congr tried.others
    rw [left] at alone' ⊢
    rw [made]
    exact .after_failure tried told (ih armed tidy' (ground.answersAfter answers.2) alone' _ shorter)

variable (driver) in
/-- A probe that was just armed, with no other timer due as long as it is watched: if its device
gives no answer `k` times and then one, it makes one attempt at the end of each period, up to the
answer. Until then the device is down; then it is up with all failures in hand, it came up once, and
no event is published and nothing counted. From then on, whatever is done, while the device is not
down no probe of it is live, and no timer that was set to probe it does anything. -/
theorem probe_converges {s₀ : Service σ} (h₀ : Fresh s₀) (ops : List (Operation σ)) (p : Probe)
    (k millis : Nat) :
    let s := performAll driver s₀ ops
    Armed driver p s → p.AnswersAfter driver k s →
    s.controller.Alone p.timer (s.site.now + millis) →
    let t := advance driver millis s
    let made := min (millis / p.period) (k + 1)
    Course p k made s t ∧ t.hasProbe p.device.name = decide (made ≤ k) ∧
      ∀ more, let u := performAll driver t more
        (∀ d, u.device? p.device.name = some d → u.site.isDown d = false) →
          u.hasProbe p.device.name = false ∧
            ∀ i, u.taskOf i = some p.task → (fireTimer driver i).after u = u := by
  intro s armed answers alone t made
  have inOrder := performAll_needed driver h₀ ops
  have course : Course p k made s t :=
    (armed.course inOrder.tidy answers alone (lt_fuel s millis)).clock (s.site.now + millis)
  have later (more : List (Operation σ)) :
      ProbesInOrder s₀.controller.config.allowedFails (performAll driver t more) := by
    obtain ⟨passed, run⟩ := advance_is_run driver millis s
    have reached : t = performAll driver s₀ (ops ++ passed) := by
      rw [performAll_append]
      exact run
    rw [reached, ← performAll_append]
    exact performAll_needed driver h₀ _
  refine ⟨course, ?_, fun more up => (later more).unprobed driver up⟩
  by_cases answered : k < made
  · rw [decide_eq_false (Nat.not_le_of_lt answered)]
    refine ((later []).unprobed driver fun d hd => ?_).1
    rw [performAll_nil] at hd ⊢
    obtain rfl := Option.some.inj (course.registered.symm.trans hd)
    rw [course.down, decide_eq_false (Nat.not_le_of_lt answered)]
  · have unanswered := Nat.le_of_not_lt answered
    rw [decide_eq_true unanswered]
    exact course.probed unanswered

/-- A driver that does not answer a reading yet, so many times, and then does. -/
def reluctant : Driver Nat where
  prepare n := (.ok (), n)
  createAddress n device _ := (.ok device, n)
  checkAddress _ _ := .ok ()
  parseAttributes _ _ attributes := .ok attributes
  read n _ _ requests :=
    match n with
    | 0 => (.ok (requests.map fun _ => ⟨.int .int32 0, none, ∅⟩), 0)
    | n + 1 => (.error (.communication "not yet"), n)
  write n _ _ _ _ := (.ok (), n)
  added n _ _ := n
  updated n _ _ := n
  removed n _ := n
  stop n _ := n
  sampling := none

/-- A device goes down that does not answer the first time that it is probed, and answers the second
time. -/
theorem reluctant_converges :
    let s₀ := ofConfig { allowedFails := 1, downTimeoutSecs := 1 } 0 1
    let ops : List (Operation Nat) :=
      [.addProfile { name := "pump", resources :=
         [{ name := "Level", properties := { type := .scalar (.int .int32) } }] },
       .addDevice { name := "p1", profileName := "pump" }, .noteFailure "p1" "no answer"]
    let s := performAll reluctant s₀ ops
    let t := advance reluctant 2500 s
    ∃ p : Probe, p.device.name = "p1" ∧
      (Armed reluctant p s ∧ p.AnswersAfter reluctant 1 s ∧
        s.controller.Alone p.timer (s.site.now + 2500)) ∧
      t.attempts = [(1000, p.device, false), (2000, p.device, true)] ∧
      t.site.isDown p.device = false ∧
      t.healthEvents = [(2000, "p1", .up), (0, "p1", .down)] ∧ t.hasProbe "p1" = false := by
  intro s₀ ops s t
  let s₁ := performAll reluctant s₀ (ops.take 2)
  have found : (s₁.device? "p1").any (fun d => ((commandsOf reluctant s₁ d).probe?).any fun c =>
      let p : Probe := ⟨d, c, 0, .ofSeconds 1⟩
      turned d .failure s₁ == (.up, .down) && !((p.ask reluctant).result s).isOk &&
        ((p.ask reluctant).result ((p.ask reluctant).after s)).isOk) = true := by decide +kernel
  obtain ⟨d, registered, found⟩ := (Option.any_eq_true ..).1 found
  obtain ⟨c, hc, found⟩ := (Option.any_eq_true ..).1 found
  let p : Probe := ⟨d, c, 0, .ofSeconds 1⟩
  have inOrder := performAll_needed reluctant (ofConfig_fresh _ _ _ : Fresh s₀) (ops.take 2)
  have named : d.name = "p1" := inOrder.tidy.accounted.named registered
  simp only [Bool.and_eq_true, beq_iff_eq, Bool.not_eq_true'] at found
  obtain ⟨⟨turns, first⟩, second⟩ := found
  have armed : Armed reluctant p s := noteFailure_armed inOrder registered turns rfl hc _
  have answers : p.AnswersAfter reluctant 1 s := ⟨first, second⟩
  have alone : s.controller.Alone p.timer (s.site.now + 2500) := by
    rintro i w other ⟨x, hx, -⟩
    have sole : s.controller.timers.next = 1 := by decide +kernel
    have past : s.controller.timers.next ≤ i := by
      rw [sole]
      exact Nat.one_le_iff_ne_zero.2 other
    rw [(Site.get?_eq_none_iff _ _).2 past] at hx
    cases hx
  obtain ⟨course, probed, -⟩ :=
    probe_converges reluctant (ofConfig_fresh _ _ _) ops p 1 2500 armed answers alone
  have period : p.period = 1000 := by
    show Timer.waitMillis (Duration.ofSeconds 1).millis = 1000
    decide
  rw [period] at course probed
  have start : s.site.now = 0 ∧ s.attempts = [] ∧ s.healthEvents = [(0, "p1", .down)] := by
    decide +kernel
  refine ⟨p, named, ⟨armed, answers, alone⟩, ?_, course.down, ?_, ?_⟩
  · rw [course.attempts, start.1, start.2.1, Probe.attempts, period]
    rfl
  · rw [course.told, start.1, start.2.2, Probe.recovery, period, ← named]
    rfl
  · rw [← named]
    exact probed

/-- The timeout is a second longer than thirty years of 365 days. So the device that went down is
asked a second before the timeout is over, and up. -/
theorem probed_before_timeout :
    let s₀ := ofConfig { allowedFails := 1, downTimeoutSecs := 946080001 } 0 0
    let ops : List (Operation Nat) :=
      [.addProfile { name := "pump", resources :=
         [{ name := "Level", properties := { type := .scalar (.int .int32) } }] },
       .addDevice { name := "p1", profileName := "pump" }, .noteFailure "p1" "no answer"]
    let s := performAll reluctant s₀ ops
    let t := advance reluctant 946080000000 s
    s.hasProbe "p1" = true ∧ s.controller.timers.next = 1 ∧
      (s.device? "p1").any (fun d =>
        s.site.isDown d && (probeCommand? reluctant s d).isSome && !t.site.isDown d) = true ∧
      t.attempts.map (·.1) = [946080000000] ∧
      946080000000 < (Duration.ofSeconds 946080001).millis := by
  decide +kernel

end Service

end FieldGateway
