import FieldGateway.Timer.Lifecycle
import Mathlib.Logic.Function.Basic

/-
  The task of a timer and whoever retires the timer, in any order (`Interleaving`). Each takes one
  step at a time, and every access to the lifecycle is a step of its own: a wait is first looked at
  for its end and then for the time, a work begins after that, and a timer is retired in two halves.
  There may be any number of calls that retire the timer, from anywhere, the work included. The number
  of tasks is left open as well, so that no more than one work runs is not for want of tasks.

  A work starts when the timer goes from armed to firing. No order of the steps lets one start from
  another phase, or two run at a time, or one start after a call has returned that retires the timer
  (`interleaving_safe`).
-/

namespace FieldGateway.Timer

/-- What is retired stays retired, and a wait that was told to end stays told. -/
structure Lifecycle.Onward (l l' : Lifecycle) : Prop where
  retired : l.phase = .retired → l'.phase = .retired
  cancelled : l.cancelled = true → l'.cancelled = true

/-- Once it is retired and its wait told to end, nothing changes. -/
theorem Lifecycle.Onward.fixed {l l' : Lifecycle} (h : l.Onward l')
    (whole : l = ⟨.retired, true⟩) : l' = ⟨.retired, true⟩ := by
  obtain ⟨phase, cancelled⟩ := l'
  subst whole
  obtain rfl : phase = .retired := h.retired rfl
  obtain rfl : cancelled = true := h.cancelled rfl
  rfl

/-- Where the task of a timer is. -/
inductive Task where
  | waiting
  /-- It saw that its wait was not told to end, and looks at the time next. -/
  | looking
  | woken
  /-- The lifecycle let its work start. -/
  | begun
  | working
  /-- The work is done and asked for this. -/
  | answered (control : Control)
  /-- It has marked the timer itself, and is to wake the wait. -/
  | retiring
  | retired
  | ended
deriving DecidableEq

namespace Task

/-- The task goes on. It is decided elsewhere whether the time is up and what the work asks for. -/
def step (timeUp : Bool) (asked : Control) : Task → Lifecycle → Task × Lifecycle
  | waiting, l => (if l.cancelled then ended else looking, l)
  | looking, l => (if timeUp then woken else waiting, l)
  | woken, l => (if l.beginFire.1 then begun else ended, l.beginFire.2)
  | begun, l => (working, l)
  | working, l => (answered asked, l)
  | answered .again, l => (if l.rearm.1 then waiting else ended, l.rearm.2)
  | answered .retire, l => (retiring, l.mark)
  | retiring, l => (retired, l.cancel)
  | retired, l => (retired, l)
  | ended, l => (ended, l)

/-- A work has started, and its task has not yet acted on what it asked for. -/
def AtWork : Task → Prop
  | begun | working | answered _ => True
  | _ => False

/-- The steps that leave the lifecycle as it is. -/
inductive Passes : Task → Task → Prop where
  | stops : Passes waiting ended
  | looks : Passes waiting looking
  | waits : Passes looking waiting
  | wakes : Passes looking woken
  | refused : Passes woken ended
  | enters : Passes begun working
  | answers (asked : Control) : Passes working (answered asked)
  | quits : Passes (answered .again) ended
  | left : Passes retired retired
  | rests : Passes ended ended

/-- What a step of the task does to the lifecycle. -/
inductive Goes : Task → Lifecycle → Task → Lifecycle → Prop where
  | begins {l : Lifecycle} (armed : l.phase = .armed) :
    Goes woken l begun { l with phase := .firing }
  | rearms {l : Lifecycle} (firing : l.phase = .firing) :
    Goes (answered .again) l waiting { l with phase := .armed }
  | marks {l : Lifecycle} : Goes (answered .retire) l retiring l.mark
  | cancels {l : Lifecycle} : Goes retiring l retired l.cancel
  | passes {t t' : Task} {l : Lifecycle} (h : Passes t t') : Goes t l t' l

theorem goes_step (timeUp : Bool) (asked : Control) (t : Task) (l : Lifecycle) :
    Goes t l (t.step timeUp asked l).1 (t.step timeUp asked l).2 := by
  match t with
  | waiting =>
    cases told : l.cancelled with
    | false => simpa [step, told] using Goes.passes (l := l) .looks
    | true => simpa [step, told] using Goes.passes (l := l) .stops
  | looking =>
    cases timeUp with
    | false => exact .passes .waits
    | true => exact .passes .wakes
  | woken =>
    by_cases armed : l.phase = .armed
    · simpa [step, Lifecycle.beginFire, armed] using Goes.begins armed
    · simpa [step, Lifecycle.beginFire, armed] using Goes.passes (l := l) .refused
  | begun => exact .passes .enters
  | working => exact .passes (.answers asked)
  | answered .again =>
    by_cases firing : l.phase = .firing
    · simpa [step, Lifecycle.rearm, firing] using Goes.rearms firing
    · simpa [step, Lifecycle.rearm, firing] using Goes.passes (l := l) .quits
  | answered .retire => exact .marks
  | retiring => exact .cancels
  | retired => exact .passes .left
  | ended => exact .passes .rests

/-- What the place of a task says of the lifecycle. -/
def Fits : Task → Lifecycle → Prop
  | begun, l | working, l | answered _, l => l.phase ≠ .armed
  | retiring, l => l.phase = .retired
  | retired, l => l = ⟨.retired, true⟩
  | _, _ => True

theorem Fits.not_armed {t : Task} {l : Lifecycle} (h : t.Fits l) (work : t.AtWork) :
    l.phase ≠ .armed := by
  match t with
  | begun | working | answered _ => exact h
  | waiting | looking | woken | retiring | retired | ended => exact work.elim

/-- What others do leaves a task in its place, if they do not arm the timer during its work. -/
theorem Fits.onward {t : Task} {l l' : Lifecycle} (h : t.Fits l) (later : l.Onward l')
    (kept : t.AtWork → l'.phase ≠ .armed) : t.Fits l' := by
  match t with
  | begun | working | answered _ => exact kept trivial
  | retiring => exact later.retired h
  | retired => exact later.fixed h
  | waiting | looking | woken | ended => trivial

namespace Goes

variable {t t' : Task} {l l' : Lifecycle} (h : Goes t l t' l')
include h

theorem fits (before : t.Fits l) : t'.Fits l' := by
  cases h with
  | begins => exact Phase.noConfusion
  | rearms => trivial
  | marks => rfl
  | cancels =>
    have marked : l.phase = .retired := before
    show (⟨l.phase, true⟩ : Lifecycle) = _
    rw [marked]
  | passes h =>
    cases h with
    | enters | answers | left => exact before
    | stops | looks | waits | wakes | refused | quits | rests => trivial

theorem onward : l.Onward l' := by
  cases h with
  | begins armed => exact ⟨fun retired => by simp [retired] at armed, id⟩
  | rearms firing => exact ⟨fun retired => by simp [retired] at firing, id⟩
  | marks => exact ⟨fun _ => rfl, id⟩
  | cancels => exact ⟨id, fun _ => rfl⟩
  | passes => exact ⟨id, id⟩

/-- A work starts only if the timer is armed. -/
theorem atWork (after : t'.AtWork) : t.AtWork ∨ l.phase = .armed := by
  cases h with
  | begins armed => exact .inr armed
  | rearms | marks | cancels => exact after.elim
  | passes h =>
    left
    cases h <;> trivial

theorem starts (started : t' = .begun) : l.phase = .armed := by
  subst started
  cases h with
  | begins armed => exact armed
  | passes h => cases h

/-- A task whose work asks to go on goes on, or ends if the timer is not firing. -/
theorem again (asked : t = .answered .again) :
    t' = .ended ∨ l.phase = .firing := by
  subst asked
  cases h with
  | rearms firing => exact .inr firing
  | passes h =>
    cases h
    exact .inl rfl

theorem ended (done : t = .ended) : t' = .ended := by
  subst done
  cases h with
  | passes h =>
    cases h
    rfl

/-- The timer is armed again only at the end of a work. -/
theorem armed (after : l'.phase = .armed) : l.phase = .armed ∨ t.AtWork := by
  cases h with
  | begins => cases after
  | rearms => exact .inr trivial
  | marks => cases after
  | cancels | passes => exact .inl after

end Goes

end Task

/-- How far a call is that retires the timer. -/
inductive Retirement where
  | pending
  | called
  | marked
  | returned
deriving DecidableEq

namespace Retirement

def step : Retirement → Lifecycle → Retirement × Lifecycle
  | pending, l => (called, l)
  | called, l => (marked, l.mark)
  | marked, l => (returned, l.cancel)
  | returned, l => (returned, l)

/-- What the progress of a call says of the lifecycle. -/
def Fits : Retirement → Lifecycle → Prop
  | marked, l => l.phase = .retired
  | returned, l => l = ⟨.retired, true⟩
  | _, _ => True

theorem onward_step (c : Retirement) (l : Lifecycle) : l.Onward (c.step l).2 := by
  cases c with
  | called => exact ⟨fun _ => rfl, id⟩
  | marked => exact ⟨id, fun _ => rfl⟩
  | pending | returned => exact ⟨id, id⟩

theorem Fits.onward {c : Retirement} {l l' : Lifecycle} (h : c.Fits l) (later : l.Onward l') :
    c.Fits l' := by
  cases c with
  | marked => exact later.retired h
  | returned => exact later.fixed h
  | pending | called => trivial

theorem armed_step {c : Retirement} {l : Lifecycle} (after : (c.step l).2.phase = .armed) :
    l.phase = .armed := by
  cases c with
  | called => cases after
  | pending | marked | returned => exact after

theorem fits_step {c : Retirement} {l : Lifecycle} (h : c.Fits l) :
    (c.step l).1.Fits (c.step l).2 := by
  cases c with
  | marked =>
    have marked : l.phase = .retired := h
    show (⟨l.phase, true⟩ : Lifecycle) = _
    rw [marked]
  | called => rfl
  | pending | returned => exact h

end Retirement

/-- The tasks of a timer and the calls that retire it. -/
structure Interleaving (T C : Type) where
  lifecycle : Lifecycle := {}
  tasks : T → Task := fun _ => .waiting
  calls : C → Retirement := fun _ => .pending
  /-- The phases that works started from, the latest first. -/
  started : List Phase := []

/-- Who takes a step. -/
inductive Turn (T C : Type) where
  | task (i : T) (timeUp : Bool) (asked : Control)
  | call (k : C)

namespace Interleaving

variable {T C : Type} [DecidableEq T] [DecidableEq C]

/-- A task took a step to another place. -/
def place (s : Interleaving T C) (i : T) (t : Task) (l : Lifecycle) : Interleaving T C :=
  { s with
    lifecycle := l
    tasks := Function.update s.tasks i t
    started := if t = .begun then s.lifecycle.phase :: s.started else s.started }

def turn (s : Interleaving T C) : Turn T C → Interleaving T C
  | .task i timeUp asked =>
    let (t, l) := (s.tasks i).step timeUp asked s.lifecycle
    s.place i t l
  | .call k =>
    let (c, l) := (s.calls k).step s.lifecycle
    { s with lifecycle := l, calls := Function.update s.calls k c }

def run (s : Interleaving T C) (turns : List (Turn T C)) : Interleaving T C := turns.foldl turn s

/-- A call has returned that retires the timer, or its task has retired it. -/
def Retired (s : Interleaving T C) : Prop :=
  (∃ k, s.calls k = .returned) ∨ ∃ i, s.tasks i = .retired

section

variable (s : Interleaving T C) {i : T} (t : Task) (l : Lifecycle)

omit [DecidableEq C] in
theorem place_self : (s.place i t l).tasks i = t := Function.update_self ..

omit [DecidableEq C] in
theorem place_of_ne {j : T} (other : j ≠ i) : (s.place i t l).tasks j = s.tasks j :=
  Function.update_of_ne other ..

end

/-! ## What holds at all times -/

structure Sound (s : Interleaving T C) : Prop where
  tasks (i : T) : (s.tasks i).Fits s.lifecycle
  calls (k : C) : (s.calls k).Fits s.lifecycle
  alone {i j : T} : (s.tasks i).AtWork → (s.tasks j).AtWork → i = j
  started : ∀ p ∈ s.started, p = .armed

omit [DecidableEq T] [DecidableEq C] in
theorem sound_start : Sound ({} : Interleaving T C) where
  tasks _ := trivial
  calls _ := trivial
  alone work := work.elim
  started := by simp

theorem Sound.call {s : Interleaving T C} (h : Sound s) (k : C) : Sound (s.turn (.call k)) := by
  have later := (s.calls k).onward_step s.lifecycle
  refine ⟨fun i => ?_, fun j => ?_, h.alone, h.started⟩
  · refine (h.tasks i).onward later fun work armed => ?_
    exact (h.tasks i).not_armed work (Retirement.armed_step armed)
  · show (Function.update s.calls k _ j).Fits _
    by_cases same : j = k
    · rw [same, Function.update_self]
      exact Retirement.fits_step (h.calls k)
    · rw [Function.update_of_ne same]
      exact (h.calls j).onward later

omit [DecidableEq C] in
theorem Sound.place {s : Interleaving T C} (h : Sound s) {i : T} {t : Task} {l : Lifecycle}
    (goes : Task.Goes (s.tasks i) s.lifecycle t l) : Sound (s.place i t l) := by
  -- whoever else is at work keeps the task from starting its own, and from arming the timer
  have others {j : T} (other : j ≠ i) (work : (s.tasks j).AtWork) :
      ¬ (s.tasks i).AtWork ∧ s.lifecycle.phase ≠ .armed :=
    ⟨fun mine => other (h.alone work mine), (h.tasks j).not_armed work⟩
  constructor
  · intro j
    by_cases same : j = i
    · rw [same, place_self]
      exact goes.fits (h.tasks i)
    · rw [place_of_ne _ _ _ same]
      refine (h.tasks j).onward goes.onward fun work armed => ?_
      obtain ⟨idle, held⟩ := others same work
      exact (goes.armed armed).elim held idle
  · exact fun k => (h.calls k).onward goes.onward
  · have idle {j : T} (other : j ≠ i) (work : (s.tasks j).AtWork) : ¬ t.AtWork := fun mine =>
      (goes.atWork mine).elim (others other work).1 (others other work).2
    intro j k first second
    by_cases hj : j = i <;> by_cases hk : k = i
    · rw [hj, hk]
    · rw [hj, place_self] at first
      rw [place_of_ne _ _ _ hk] at second
      exact absurd first (idle hk second)
    · rw [place_of_ne _ _ _ hj] at first
      rw [hk, place_self] at second
      exact absurd second (idle hj first)
    · rw [place_of_ne _ _ _ hj] at first
      rw [place_of_ne _ _ _ hk] at second
      exact h.alone first second
  · intro p hp
    change p ∈ if t = .begun then _ else _ at hp
    split at hp
    · rename_i begun
      rcases List.mem_cons.1 hp with rfl | old
      · exact goes.starts begun
      · exact h.started p old
    · exact h.started p hp

theorem sound_run {s : Interleaving T C} (h : Sound s) (turns : List (Turn T C)) :
    Sound (s.run turns) := by
  induction turns generalizing s with
  | nil => exact h
  | cons turn turns ih =>
    cases turn with
    | call k => exact ih (h.call k)
    | task i timeUp asked => exact ih (h.place (Task.goes_step ..))

/-! ## From a moment on -/

/-- One moment comes after another. -/
structure Further (s s' : Interleaving T C) : Prop where
  onward : s.lifecycle.Onward s'.lifecycle
  silent : s.lifecycle.phase = .retired → s'.started = s.started
  work {i : T} : s.lifecycle.phase = .retired → (s'.tasks i).AtWork → (s.tasks i).AtWork
  quits {i : T} : s.lifecycle.phase = .retired → s.tasks i = .answered .again →
    s'.tasks i = .answered .again ∨ s'.tasks i = .ended
  ended {i : T} : s.tasks i = .ended → s'.tasks i = .ended

omit [DecidableEq T] [DecidableEq C] in
theorem Further.refl (s : Interleaving T C) : Further s s :=
  ⟨⟨id, id⟩, fun _ => rfl, fun _ => id, fun _ => .inl, id⟩

omit [DecidableEq T] [DecidableEq C] in
theorem Further.trans {s s' s'' : Interleaving T C} (h : Further s s') (h' : Further s' s'') :
    Further s s'' where
  onward := ⟨h'.onward.retired ∘ h.onward.retired, h'.onward.cancelled ∘ h.onward.cancelled⟩
  silent retired := (h'.silent (h.onward.retired retired)).trans (h.silent retired)
  work retired := h.work retired ∘ h'.work (h.onward.retired retired)
  quits retired asked :=
    (h.quits retired asked).elim (h'.quits (h.onward.retired retired)) (.inr ∘ h'.ended)
  ended := h'.ended ∘ h.ended

omit [DecidableEq C] in
theorem Further.place {s : Interleaving T C} {i : T} {t : Task} {l : Lifecycle}
    (goes : Task.Goes (s.tasks i) s.lifecycle t l) : Further s (s.place i t l) := by
  constructor
  · exact goes.onward
  · intro retired
    refine if_neg fun begun => ?_
    rw [goes.starts begun] at retired
    cases retired
  · intro j retired work
    by_cases same : j = i
    · rw [same, place_self] at work
      rw [same]
      refine (goes.atWork work).resolve_right fun armed => ?_
      rw [armed] at retired
      cases retired
    · rwa [place_of_ne _ _ _ same] at work
  · intro j retired asked
    by_cases same : j = i
    · subst same
      rw [place_self]
      refine .inr ((goes.again asked).resolve_right fun firing => ?_)
      rw [firing] at retired
      cases retired
    · rw [place_of_ne _ _ _ same]
      exact .inl asked
  · intro j done
    by_cases same : j = i
    · subst same
      rw [place_self]
      exact goes.ended done
    · rwa [place_of_ne _ _ _ same]

theorem further_run (s : Interleaving T C) (turns : List (Turn T C)) : Further s (s.run turns) := by
  induction turns generalizing s with
  | nil => exact .refl s
  | cons turn turns ih =>
    refine .trans ?_ (ih (s.turn turn))
    cases turn with
    | call k => exact ⟨(s.calls k).onward_step _, fun _ => rfl, fun _ => id, fun _ => .inl, id⟩
    | task i timeUp asked => exact .place (Task.goes_step ..)

omit [DecidableEq T] [DecidableEq C] in
theorem Sound.whole {s : Interleaving T C} (h : Sound s) (retired : s.Retired) :
    s.lifecycle = ⟨.retired, true⟩ := by
  rcases retired with ⟨k, returned⟩ | ⟨i, left⟩
  · simpa [returned, Retirement.Fits] using h.calls k
  · simpa [left, Task.Fits] using h.tasks i

/-- What a moment and a later one have to do with each other. -/
structure Safe (s s' : Interleaving T C) : Prop where
  /-- Retired is never left. -/
  retired : s.lifecycle.phase = .retired → s'.lifecycle.phase = .retired
  /-- Works start from armed only. -/
  started : ∀ p ∈ s'.started, p = .armed
  /-- No two are at work. -/
  alone {i j : T} : (s'.tasks i).AtWork → (s'.tasks j).AtWork → i = j
  /-- After a call has returned that retires the timer, no work starts: whoever is at work was so
  when the call returned. -/
  silent : s.Retired → s'.started = s.started ∧ ∀ i, (s'.tasks i).AtWork → (s.tasks i).AtWork
  /-- A task whose work asks to go on, when the timer is retired, ends with its next step. -/
  quits {i : T} : s.lifecycle.phase = .retired → s.tasks i = .answered .again →
    (∀ timeUp asked, (s.turn (.task i timeUp asked)).tasks i = .ended) ∧
      (s'.tasks i = .answered .again ∨ s'.tasks i = .ended)
  /-- After a call has returned that retires the timer, no further one changes anything, and no step
  of a task does. -/
  fixed : s.Retired → s'.lifecycle = s.lifecycle

/-- In every order of the steps of the tasks of a timer and of the calls that retire it, any moment
and any later one. -/
theorem interleaving_safe (before after : List (Turn T C)) :
    Safe (({} : Interleaving T C).run before) ((({} : Interleaving T C).run before).run after) := by
  have sound := sound_run (sound_start (T := T) (C := C)) before
  generalize ({} : Interleaving T C).run before = s at sound ⊢
  have further := s.further_run after
  have later := sound_run sound after
  constructor
  · exact further.onward.retired
  · exact later.started
  · exact later.alone
  · intro retired
    have phase : s.lifecycle.phase = .retired := by rw [sound.whole retired]
    exact ⟨further.silent phase, fun i => further.work phase⟩
  · intro i retired answered
    refine ⟨fun timeUp asked => ?_, further.quits retired answered⟩
    have goes := Task.goes_step timeUp asked (s.tasks i) s.lifecycle
    refine (place_self s _ _).trans ((goes.again answered).resolve_right fun firing => ?_)
    rw [firing] at retired
    cases retired
  · intro retired
    have whole := sound.whole retired
    rw [further.onward.fixed whole, whole]

end Interleaving

end FieldGateway.Timer
