import FieldGateway.Proofs.Service.Run

/-
  What the trace tells of the health of a device: the reports on it since it was added
  (`reportsOf`), and of these the failures and the violations since the last success. A condition
  `Agrees` with reports if its failures in hand and its operating state are the closed form of
  these two numbers; one more report keeps them in agreement (`Agrees.following`).
-/

namespace FieldGateway

/-! ## Reports in a trace -/

/-- The effect is a report, or it ends the account of a device. -/
def Effect.bearsOnHealth : Effect → Bool
  | .reported .. | .driver (.added _) => true
  | _ => false

/-- The reports on the device of a name since it was last added, the latest first. -/
def reportsOf (name : String) : List (Nat × Effect) → List Report
  | [] => []
  | (_, .reported d r) :: older =>
    if d.name = name then r :: reportsOf name older else reportsOf name older
  | (_, .driver (.added d)) :: older => if d.name = name then [] else reportsOf name older
  | _ :: older => reportsOf name older

theorem reportsOf_cons_silent {e : Effect} (h : e.bearsOnHealth = false) (name : String) (t : Nat)
    (older : List (Nat × Effect)) : reportsOf name ((t, e) :: older) = reportsOf name older := by
  cases e with
  | reported d r => cases h
  | driver x => cases x <;> first | rfl | cases h
  | _ => rfl

theorem reportsOf_cons_reported (d : Device) (r : Report) (t : Nat)
    (older : List (Nat × Effect)) :
    reportsOf d.name ((t, .reported d r) :: older) = r :: reportsOf d.name older :=
  if_pos rfl

theorem reportsOf_cons_reported_ne {d : Device} {name : String} (h : d.name ≠ name) (r : Report)
    (t : Nat) (older : List (Nat × Effect)) :
    reportsOf name ((t, .reported d r) :: older) = reportsOf name older :=
  if_neg h

theorem reportsOf_cons_added (d : Device) (t : Nat) (older : List (Nat × Effect)) :
    reportsOf d.name ((t, .driver (.added d)) :: older) = [] :=
  if_pos rfl

theorem reportsOf_cons_added_ne {d : Device} {name : String} (h : d.name ≠ name) (t : Nat)
    (older : List (Nat × Effect)) :
    reportsOf name ((t, .driver (.added d)) :: older) = reportsOf name older :=
  if_neg h

/-! ## Failures and violations -/

/-- Reports, the latest first, down to the last success. -/
def sinceSuccess (rs : List Report) : List Report := rs.takeWhile (· ≠ .success)

/-- The failures since the last success. -/
def failures (rs : List Report) : Nat := (sinceSuccess rs).count .failure

/-- The violations since the last success. -/
def violations (rs : List Report) : Nat := (sinceSuccess rs).count .violation

@[simp] theorem failures_success (rs : List Report) : failures (.success :: rs) = 0 := rfl

@[simp] theorem failures_failure (rs : List Report) :
    failures (.failure :: rs) = failures rs + 1 := by
  simp [failures, sinceSuccess]

@[simp] theorem failures_violation (rs : List Report) :
    failures (.violation :: rs) = failures rs := by
  simp [failures, sinceSuccess]

@[simp] theorem violations_success (rs : List Report) : violations (.success :: rs) = 0 := rfl

@[simp] theorem violations_failure (rs : List Report) :
    violations (.failure :: rs) = violations rs := by
  simp [violations, sinceSuccess]

@[simp] theorem violations_violation (rs : List Report) :
    violations (.violation :: rs) = violations rs + 1 := by
  simp [violations, sinceSuccess]

/-! ## Agreement -/

/-- The condition of a device that so many failures are allowed for is what the reports say. -/
structure Condition.Agrees (allowed : Nat) (rs : List Report) (c : Condition) : Prop where
  remaining : c.remainingFails = allowed - min allowed (failures rs)
  down : c.operating = .down ↔ 0 < violations rs ∨ 0 < allowed ∧ allowed ≤ failures rs

namespace Condition.Agrees

/-- A device that was just added is up and has all failures in hand. -/
theorem added (allowed : Nat) (admin : AdminState) :
    Agrees allowed [] { admin, remainingFails := allowed } where
  remaining := by simp [failures, sinceSuccess]
  down := by
    refine ⟨nofun, ?_⟩
    rintro (h | ⟨h, h'⟩)
    · exact absurd h (Nat.lt_irrefl 0)
    · exact absurd (Nat.lt_of_lt_of_le h h') (Nat.lt_irrefl 0)

/-- Nothing but the failures in hand and the operating state counts. -/
theorem of_eq {allowed : Nat} {rs : List Report} {c c' : Condition} (h : c.Agrees allowed rs)
    (ho : c'.operating = c.operating) (hr : c'.remainingFails = c.remainingFails) :
    c'.Agrees allowed rs :=
  ⟨hr.trans h.remaining, ho ▸ h.down⟩

theorem following_failure {allowed : Nat} {rs : List Report} {c : Condition}
    (h : c.Agrees allowed rs) : (c.following allowed .failure).Agrees allowed (.failure :: rs) := by
  obtain ⟨hr, hd⟩ := h
  simp only [Condition.following]
  split
  · rename_i h0
    subst h0
    exact ⟨by simp [hr], by simp [hd]⟩
  · rename_i h0
    refine ⟨by simp only [hr, failures_failure]; omega, ?_⟩
    simp only [failures_failure, violations_failure]
    split
    · rename_i hz
      rw [hr] at hz
      exact ⟨fun _ => .inr ⟨by omega, by omega⟩, fun _ => rfl⟩
    · rename_i hz
      rw [hr] at hz
      rw [hd]
      exact or_congr_right (and_congr_right fun _ => by omega)

/-- One more report. -/
theorem following {allowed : Nat} {rs : List Report} {c : Condition} (h : c.Agrees allowed rs)
    (r : Report) : (c.following allowed r).Agrees allowed (r :: rs) := by
  cases r with
  | success =>
    refine ⟨by simp [Condition.following], ?_⟩
    simp only [Condition.following, violations_success, failures_success]
    exact ⟨nofun, fun h => by omega⟩
  | failure => exact h.following_failure
  | violation =>
    refine ⟨?_, by simp [Condition.following]⟩
    rw [failures_violation]
    exact h.remaining

/-- A device that is up has a failure in hand, unless none are counted. -/
theorem inHand {allowed : Nat} {rs : List Report} {c : Condition} (h : c.Agrees allowed rs)
    (hup : c.operating = .up) (hpos : 0 < allowed) : 0 < c.remainingFails := by
  have hn : ¬ (0 < violations rs ∨ 0 < allowed ∧ allowed ≤ failures rs) := by
    rw [← h.down, hup]
    exact nofun
  rw [h.remaining]
  omega

end Condition.Agrees

end FieldGateway
