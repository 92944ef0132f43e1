import FieldGateway.Proofs.Sampling.Schedules

/-
  Sound sampling: every timer that still samples is the schedule of its sampler, every sampler on
  a schedule is on the list of its device, and the driver was told to stop a sampling as often as
  it took one up, but for those that samplers are on. Putting a sampler on a schedule keeps that
  if it was on none (`Sound.scheduled`); if it was on one, that one is astray
  (`Sound.stray_of_scheduled`) and stays so.
-/

namespace FieldGateway.Service

open FieldGateway.Action

variable {σ : Type} {driver : Driver σ} {lists : String → List Nat} {s t : Service σ}

/-- Sampling is sound, the samplers of each device being those on its list. -/
structure Sound (driver : Driver σ) (lists : String → List Nat) (s : Service σ) : Prop where
  held {i k : Nat} : s.taskOf i = some (.sample k) → s.isLive i = true →
    s.scheduleOf k = some (.timer i)
  own {i k : Nat} : s.scheduleOf k = some (.timer i) → s.taskOf i = some (.sample k)
  listed {k : Nat} {r : Sampler} : s.sampler? k = some r → r.schedule ≠ none →
    k ∈ lists r.device
  ours {device : String} {k : Nat} : k ∈ lists device →
    ∃ r, s.sampler? k = some r ∧ r.device = device
  balanced (h : Handle) : s.started h = s.stopped h + s.holders h
  driven {k : Nat} {h : Handle} : s.scheduleOf k = some (.driver h) →
    driver.sampling.isSome = true
  counters {i : Nat} : s.controller.countersTimer = some i → s.taskOf i = some .counters

/-- A schedule runs that no sampler is on. -/
def Orphaned (s : Service σ) : Prop :=
  (∃ i k, s.taskOf i = some (.sample k) ∧ s.isLive i = true ∧
    ∀ j, s.scheduleOf j ≠ some (.timer i)) ∨
  ∃ h, s.stopped h + s.holders h < s.started h

/-- A schedule is astray: no sampler is on it, nor is it the timer of the counters. So nothing
can end it that knows what it ends. -/
def Stray (s : Service σ) : Prop :=
  (∃ i k, s.taskOf i = some (.sample k) ∧ s.isLive i = true ∧
    (∀ j, s.scheduleOf j ≠ some (.timer i)) ∧ s.controller.countersTimer ≠ some i) ∨
  ∃ h, s.stopped h + s.holders h < s.started h

theorem Stray.orphaned (h : Stray s) : Orphaned s :=
  h.imp_left fun ⟨i, k, ht, hl, hj, _⟩ => ⟨i, k, ht, hl, hj⟩

theorem Sound.not_orphaned (h : Sound driver lists s) : ¬ Orphaned s := by
  rintro (⟨i, k, ht, hl, hj⟩ | ⟨handle, hlt⟩)
  · exact hj k (h.held ht hl)
  · exact absurd (h.balanced handle) (Nat.ne_of_gt hlt)

theorem scheduleOf_eq_some {k : Nat} {x : Schedule} :
    s.scheduleOf k = some x ↔ ∃ r, s.sampler? k = some r ∧ r.schedule = some x :=
  Option.bind_eq_some_iff

/-! ## What keeps sampling sound -/

namespace Sound

theorem sameSampling (h : Sound driver lists s) (same : SameSampling s t) :
    Sound driver lists t where
  held ht hl := by
    rw [same.scheduleOf]
    exact h.held (same.fresh ht) (same.live (same.fresh ht) hl)
  own hk := by
    rw [same.scheduleOf] at hk
    exact same.task (h.own hk)
  listed hr hs := by
    rw [same.sampler] at hr
    exact h.listed hr hs
  ours hk := by
    obtain ⟨r, hr, hd⟩ := h.ours hk
    exact ⟨r, by rw [same.sampler]; exact hr, hd⟩
  balanced handle := by
    rw [same.started, same.stopped, same.holders]
    exact h.balanced handle
  driven hk := by
    rw [same.scheduleOf] at hk
    exact h.driven hk
  counters hi := (same.counters hi).elim (fun hi => same.task (h.counters hi)) id

theorem unscheduled {k : Nat} (h : Sound driver lists s) (off : Unscheduled driver k s t) :
    Sound driver lists t where
  held {i j} ht hl := by
    rw [off.task] at ht
    rw [off.live, Bool.and_eq_true, decide_eq_true_eq] at hl
    have hj := h.held ht hl.1
    rw [off.scheduleOf, if_neg]
    · exact hj
    · rintro rfl
      exact hl.2 hj
  own {i j} hj := by
    rw [off.scheduleOf] at hj
    rw [off.task]
    split at hj
    · cases hj
    · exact h.own hj
  listed {j r} hr hs := by
    rw [off.sampler] at hr
    split at hr
    · obtain ⟨r', _, rfl⟩ := Option.map_eq_some_iff.1 hr
      exact absurd rfl hs
    · exact h.listed hr hs
  ours hj := off.keeps_device (h.ours hj)
  balanced handle := by
    have hb := h.balanced handle
    have hh := off.holders handle
    rw [off.started, off.stopped]
    by_cases hk : s.scheduleOf k = some (.driver handle)
    · rw [if_pos hk] at hh
      rw [if_pos ⟨h.driven hk, hk⟩]
      omega
    · rw [if_neg hk] at hh
      rw [if_neg fun hc => hk hc.2]
      omega
  driven {j handle} hj := by
    rw [off.scheduleOf] at hj
    split at hj
    · cases hj
    · exact h.driven hj
  counters hi := by
    rw [off.counters] at hi
    rw [off.task]
    exact h.counters hi

/-- A sampler that is on no schedule, and on the list of its device, is put on one. -/
theorem scheduled {k : Nat} {x : Schedule} {r : Sampler} (h : Sound driver lists s)
    (on : Scheduled k x s t) (hr : s.sampler? k = some r) (hoff : r.schedule = none)
    (hlist : k ∈ lists r.device)
    (hdriven : ∀ handle, x = .driver handle → driver.sampling.isSome = true) :
    Sound driver lists t := by
  have free : s.scheduleOf k = none := by rw [scheduleOf, hr]; exact hoff
  have put : t.scheduleOf k = some x := by rw [on.scheduleOf, if_pos rfl, hr]; rfl
  have others {j : Nat} (hj : j ≠ k) : t.scheduleOf j = s.scheduleOf j := by
    rw [on.scheduleOf, if_neg hj]
  constructor
  case held =>
    intro i j ht hl
    rw [on.task] at ht
    rw [on.live] at hl
    split at ht
    · rename_i hx
      cases ht
      rw [put, hx]
    · rename_i hx
      rw [decide_eq_false hx, Bool.false_or] at hl
      have hj := h.held ht hl
      rw [others, hj]
      rintro rfl
      rw [free] at hj
      cases hj
  case own =>
    intro i j hj
    by_cases hjk : j = k
    · subst hjk
      rw [put] at hj
      rw [on.task, if_pos (Option.some.inj hj)]
    · rw [others hjk] at hj
      exact on.keeps_task (h.own hj)
  case listed =>
    intro j r' hr' hs
    rw [on.sampler] at hr'
    split at hr'
    · rename_i hj
      subst hj
      rw [hr] at hr'
      cases hr'
      exact hlist
    · exact h.listed hr' hs
  case ours => exact fun hj => on.keeps_device (h.ours hj)
  case balanced =>
    intro handle
    have hh := on.holders handle
    have hb := h.balanced handle
    have off : (none : Option Schedule) ≠ some (.driver handle) := by rintro ⟨⟩
    rw [free, if_neg off] at hh
    rw [on.started, on.stopped]
    omega
  case driven =>
    intro j handle hj
    by_cases hjk : j = k
    · subst hjk
      rw [put] at hj
      exact hdriven handle (Option.some.inj hj)
    · rw [others hjk] at hj
      exact h.driven hj
  case counters =>
    intro i hi
    rw [on.counters] at hi
    exact on.keeps_task (h.counters hi)

/-- The lists may change, as long as they hold samplers of their devices, and all on schedules. -/
theorem relist {lists' : String → List Nat} (h : Sound driver lists s)
    (listed : ∀ {k r}, s.sampler? k = some r → r.schedule ≠ none → k ∈ lists' r.device)
    (ours : ∀ {device k}, k ∈ lists' device → ∃ r, s.sampler? k = some r ∧ r.device = device) :
    Sound driver lists' s :=
  { h with listed, ours }

/-- A new sampler is on no list yet. -/
theorem added {device : String} {plan : Plan} {k : Nat} (h : Sound driver lists s)
    (new : Added device plan k s t) : Sound driver lists t := by
  have known {j : Nat} {r : Sampler} (hr : s.sampler? j = some r) : j ≠ k := by
    rintro rfl
    rw [new.sampler?_eq_none] at hr
    cases hr
  have task (i : Nat) : t.taskOf i = s.taskOf i := by rw [taskOf, new.timers]; rfl
  have live (i : Nat) : t.isLive i = s.isLive i := by rw [isLive, new.timers]; rfl
  constructor
  case held =>
    intro i j ht hl
    rw [task] at ht
    rw [live] at hl
    rw [new.scheduleOf]
    exact h.held ht hl
  case own =>
    intro i j hj
    rw [new.scheduleOf] at hj
    rw [task]
    exact h.own hj
  case listed =>
    intro j r hr hs
    by_cases hj : j = k
    · subst hj
      obtain ⟨r', hr', _, _, hs'⟩ := new.sampler
      cases hr.symm.trans hr'
      exact absurd hs' hs
    · rw [new.same j hj] at hr
      exact h.listed hr hs
  case ours =>
    intro device j hj
    obtain ⟨r, hr, hd⟩ := h.ours hj
    exact ⟨r, by rw [new.same j (known hr)]; exact hr, hd⟩
  case balanced =>
    intro handle
    rw [started, stopped, new.site, new.holders]
    exact h.balanced handle
  case driven =>
    intro j handle hj
    rw [new.scheduleOf] at hj
    exact h.driven hj
  case counters =>
    intro i hi
    rw [new.counters] at hi
    rw [task]
    exact h.counters hi

/-- A sampler is put on a schedule that is on one which still runs: that one is astray. -/
theorem stray_of_scheduled {k : Nat} {x y : Schedule} (h : Sound driver lists s)
    (on : Scheduled k x s t) (hy : s.scheduleOf k = some y)
    (hlive : ∀ i, y = .timer i → s.isLive i = true) : Stray t := by
  cases y with
  | timer i =>
    have ht : s.taskOf i = some (.sample k) := h.own hy
    have hx : x ≠ .timer i := on.ne_timer ht
    refine .inl ⟨i, k, on.keeps_task ht, ?_, fun j hj => ?_, fun hc => ?_⟩
    · rw [on.live, hlive i rfl, Bool.or_true]
    · rw [on.scheduleOf] at hj
      split at hj
      · obtain ⟨_, _, rfl⟩ := Option.map_eq_some_iff.1 hj
        exact hx rfl
      · rename_i hjk
        have := h.own hj
        rw [ht] at this
        cases this
        exact hjk rfl
    · rw [on.counters] at hc
      rw [h.counters hc] at ht
      cases ht
  | driver handle =>
    have hh := on.holders handle
    have hb := h.balanced handle
    rw [if_pos hy] at hh
    refine .inr ⟨handle, ?_⟩
    rw [on.stopped, on.started]
    omega

end Sound

/-! ## What is astray stays astray -/

namespace Stray

theorem aside (h : Stray s) (same : Aside s t) : Stray t := by
  obtain ⟨hc, hn⟩ := same
  refine h.imp (fun ⟨i, k, ht, hl, hj, hi⟩ => ?_) fun ⟨handle, hlt⟩ => ⟨handle, ?_⟩
  · refine ⟨i, k, ?_, ?_, fun j => ?_, ?_⟩
    · rw [taskOf, hc]
      exact ht
    · rw [isLive, hc]
      exact hl
    · rw [scheduleOf, sampler?, hc]
      exact hj j
    · rw [hc]
      exact hi
  · rw [hn.started, hn.stopped, holders, hc]
    exact hlt

theorem scheduled {k : Nat} {x : Schedule} (h : Stray s) (on : Scheduled k x s t) : Stray t := by
  refine h.imp (fun ⟨i, j, ht, hl, hj, hi⟩ => ?_) fun ⟨handle, hlt⟩ => ⟨handle, ?_⟩
  · have hx : x ≠ .timer i := on.ne_timer ht
    refine ⟨i, j, on.keeps_task ht, ?_, fun j' hj' => ?_, ?_⟩
    · rw [on.live, hl, Bool.or_true]
    · rw [on.scheduleOf] at hj'
      split at hj'
      · obtain ⟨_, _, rfl⟩ := Option.map_eq_some_iff.1 hj'
        exact hx rfl
      · exact hj j' hj'
    · rw [on.counters]
      exact hi
  · have hh := on.holders handle
    rw [on.stopped, on.started]
    omega

theorem unscheduled {k : Nat} (h : Stray s) (off : Unscheduled driver k s t) : Stray t := by
  refine h.imp (fun ⟨i, j, ht, hl, hj, hi⟩ => ?_) fun ⟨handle, hlt⟩ => ⟨handle, ?_⟩
  · refine ⟨i, j, by rw [off.task]; exact ht, ?_, fun j' hj' => ?_, ?_⟩
    · rw [off.live, hl, decide_eq_true (hj k), Bool.and_true]
    · rw [off.scheduleOf] at hj'
      split at hj'
      · cases hj'
      · exact hj j' hj'
    · rw [off.counters]
      exact hi
  · have hh := off.holders handle
    have hs := off.stopped handle
    rw [off.started]
    split at hs
    · rename_i hk
      rw [if_pos hk.2] at hh
      omega
    · omega

theorem added {device : String} {plan : Plan} {k : Nat} (h : Stray s)
    (new : Added device plan k s t) : Stray t := by
  refine h.imp (fun ⟨i, j, ht, hl, hj, hi⟩ => ?_) fun ⟨handle, hlt⟩ => ⟨handle, ?_⟩
  · refine ⟨i, j, ?_, ?_, fun j' => ?_, ?_⟩
    · rw [taskOf, new.timers]
      exact ht
    · rw [isLive, new.timers]
      exact hl
    · rw [new.scheduleOf]
      exact hj j'
    · rw [new.counters]
      exact hi
  · rw [started, stopped, new.site, new.holders]
    exact hlt

end Stray

end FieldGateway.Service
