import FieldGateway.Proofs.Service.Run

/-
  Which timer fires next, and until when nothing does. A timer `Waits` if it is armed. The next
  timer is one that waits, and none that waits falls due before it (`waits_of_nextTimer?`,
  `nextTimer?_le`); so a timer that alone falls due up to a time is the next one
  (`Alone.nextTimer?`). While none falls due, time passes and nothing else (`runDue_of_late`).
-/

namespace FieldGateway

theorem Timer.Waiting.millis_le_of_before {v w : Timer.Waiting} (h : v.before w = true) :
    v.millis ≤ w.millis := by
  rcases List.cons_lt_cons_iff.1 (of_decide_eq_true h) with earlier | ⟨same, -⟩
  · exact Nat.le_of_lt earlier
  · exact Nat.le_of_eq same

theorem Timer.Waiting.millis_le_of_not_before {v w : Timer.Waiting} (h : v.before w = false) :
    w.millis ≤ v.millis := by
  refine Nat.le_of_not_lt fun earlier => ?_
  exact of_decide_eq_false h (List.cons_lt_cons_iff.2 (.inl earlier))

/-! ## The next timer -/

namespace Controller

/-- The timer is armed, and this is its wait. -/
def Waits (c : Controller) (number : Nat) (w : Timer.Waiting) : Prop :=
  ∃ x, c.timers.get? number = some x ∧ x.lifecycle.phase = .armed ∧ x.waiting = w

/-- What was found to fire first, with one more timer looked at. -/
def consider (found : Option (Timer.Waiting × Nat)) (t : Timer × Nat) :
    Option (Timer.Waiting × Nat) :=
  if t.1.lifecycle.phase = .armed then earlier found (some (t.1.waiting, t.2)) else found

/-- Whichever of two fires first, neither fires before it. -/
theorem earlier_le (found : Option (Timer.Waiting × Nat)) (q : Timer.Waiting × Nat) :
    ∃ first, earlier found (some q) = some first ∧ first.1.millis ≤ q.1.millis ∧
      ∀ p, found = some p → first.1.millis ≤ p.1.millis := by
  cases found with
  | none => exact ⟨q, rfl, Nat.le_refl _, nofun⟩
  | some r =>
    unfold earlier
    dsimp only
    split
    · rename_i before
      refine ⟨q, rfl, Nat.le_refl _, fun p hp => ?_⟩
      cases hp
      exact Timer.Waiting.millis_le_of_before before
    · rename_i before
      refine ⟨r, rfl, ?_, fun p hp => Nat.le_of_eq (by cases hp; rfl)⟩
      exact Timer.Waiting.millis_le_of_not_before (Bool.eq_false_iff.2 before)

theorem consider_le {p : Timer.Waiting × Nat} {found : Option (Timer.Waiting × Nat)}
    (h : found = some p) (t : Timer × Nat) :
    ∃ first, consider found t = some first ∧ first.1.millis ≤ p.1.millis := by
  unfold consider
  split
  · obtain ⟨first, hf, -, least⟩ := earlier_le found (t.1.waiting, t.2)
    exact ⟨first, hf, least p h⟩
  · exact ⟨p, h, Nat.le_refl _⟩

theorem foldl_consider_le {p : Timer.Waiting × Nat} {found : Option (Timer.Waiting × Nat)}
    (h : found = some p) (ts : List (Timer × Nat)) :
    ∃ first, ts.foldl consider found = some first ∧ first.1.millis ≤ p.1.millis := by
  induction ts generalizing found p with
  | nil => exact ⟨p, h, Nat.le_refl _⟩
  | cons t ts ih =>
    obtain ⟨q, hq, before⟩ := consider_le h t
    obtain ⟨first, hf, least⟩ := ih hq
    exact ⟨first, hf, Nat.le_trans least before⟩

/-- No timer of a list that is armed fires before the one that was found. -/
theorem foldl_consider_le_of_mem {t : Timer × Nat} {ts : List (Timer × Nat)} (h : t ∈ ts)
    (armed : t.1.lifecycle.phase = .armed) (found : Option (Timer.Waiting × Nat)) :
    ∃ first, ts.foldl consider found = some first ∧ first.1.millis ≤ t.1.waiting.millis := by
  induction ts generalizing found with
  | nil => cases h
  | cons t' ts ih =>
    rcases List.mem_cons.1 h with rfl | later
    · obtain ⟨q, hq, before, -⟩ := earlier_le found (t.1.waiting, t.2)
      have considered : consider found t = some q := by rw [consider, if_pos armed, hq]
      obtain ⟨first, hf, least⟩ := foldl_consider_le considered ts
      exact ⟨first, hf, Nat.le_trans least before⟩
    · exact ih later _

theorem foldl_consider_mem {p : Timer.Waiting × Nat} {ts : List (Timer × Nat)}
    {found : Option (Timer.Waiting × Nat)} (h : ts.foldl consider found = some p) :
    found = some p ∨ ∃ t ∈ ts, t.1.lifecycle.phase = .armed ∧ p = (t.1.waiting, t.2) := by
  induction ts generalizing found with
  | nil => exact .inl h
  | cons t ts ih =>
    rcases ih h with considered | ⟨t', later, here⟩
    · unfold consider at considered
      split at considered
      · rename_i armed
        cases found with
        | none => exact .inr ⟨t, List.mem_cons_self .., armed, (Option.some.inj considered).symm⟩
        | some q =>
          unfold earlier at considered
          dsimp only at considered
          split at considered
          · exact .inr ⟨t, List.mem_cons_self .., armed, (Option.some.inj considered).symm⟩
          · exact .inl considered
      · exact .inl considered
    · exact .inr ⟨t', List.mem_cons_of_mem _ later, here⟩

variable {c : Controller} {number limit : Nat} {w : Timer.Waiting}

theorem mem_zipIdx_timers {x : Timer} :
    (x, number) ∈ c.timers.toList.zipIdx ↔ c.timers.get? number = some x := by
  rw [List.mem_zipIdx_iff_getElem?]
  exact Iff.of_eq (congrArg (· = some x) Array.getElem?_toList)

theorem waits_of_nextTimer? (h : c.nextTimer? = some (w, number)) : c.Waits number w := by
  rcases foldl_consider_mem h with none | ⟨⟨x, i⟩, hx, armed, same⟩
  · cases none
  · cases same
    exact ⟨x, mem_zipIdx_timers.1 hx, armed, rfl⟩

theorem nextTimer?_le (h : c.Waits number w) :
    ∃ first, c.nextTimer? = some first ∧ first.1.millis ≤ w.millis := by
  obtain ⟨x, hx, armed, rfl⟩ := h
  exact foldl_consider_le_of_mem (mem_zipIdx_timers.2 hx) armed none

/-- No other timer falls due up to a time. -/
def Alone (c : Controller) (number limit : Nat) : Prop :=
  ∀ i w, i ≠ number → c.Waits i w → limit < w.millis

/-- A timer that alone falls due is next. -/
theorem Alone.nextTimer? (h : c.Alone number limit) (waits : c.Waits number w)
    (due : w.millis ≤ limit) : c.nextTimer? = some (w, number) := by
  obtain ⟨⟨v, i⟩, next, first⟩ := nextTimer?_le waits
  have found := waits_of_nextTimer? next
  by_cases same : i = number
  · subst same
    obtain ⟨x, hx, -, rfl⟩ := found
    obtain ⟨y, hy, -, rfl⟩ := waits
    obtain rfl := Option.some.inj (hx.symm.trans hy)
    exact next
  · exact absurd (h i v same found) (Nat.not_lt.2 (Nat.le_trans first due))

/-- Nothing else depends on a timer that does not fall due either. -/
theorem Alone.late (h : c.Alone number limit) (late : ∀ w, c.Waits number w → limit < w.millis)
    {first : Timer.Waiting × Nat} (next : c.nextTimer? = some first) :
    limit < first.1.millis := by
  have found := waits_of_nextTimer? next
  by_cases same : first.2 = number
  · exact late _ (same ▸ found)
  · exact h _ _ same found

theorem Alone.congr {c' : Controller} (h : c.Alone number limit)
    (others : ∀ i, i ≠ number → c'.timers.get? i = c.timers.get? i) : c'.Alone number limit := by
  rintro i w other ⟨x, hx, waits⟩
  exact h i w other ⟨x, (others i other).symm.trans hx, waits⟩

end Controller

/-! ## Time that passes -/

theorem runDue_of_due {w : Type} {due? : w → Option Nat} {fire : w → w} {limit time : Nat} {x : w}
    (due : due? x = some time) (h : time ≤ limit) (fuel : Nat) :
    runDue due? fire limit (fuel + 1) x = runDue due? fire limit fuel (fire x) := by
  rw [runDue, due]
  exact if_pos h

theorem runDue_of_late {w : Type} {due? : w → Option Nat} {fire : w → w} {limit : Nat} {x : w}
    (late : ∀ time, due? x = some time → limit < time) (fuel : Nat) :
    runDue due? fire limit fuel x = x := by
  cases fuel with
  | zero => rfl
  | succ fuel =>
    rw [runDue]
    cases due : due? x with
    | none => rfl
    | some time => exact if_neg (Nat.not_le.2 (late time due))

namespace Service

variable {σ : Type} {s : Service σ} {number limit : Nat}

theorem nextFire?_late (alone : s.controller.Alone number limit)
    (late : ∀ w, s.controller.Waits number w → limit < w.millis) {time : Nat}
    (h : nextFire? s = some time) : limit < time := by
  obtain ⟨first, next, rfl⟩ := Option.map_eq_some_iff.1 h
  exact alone.late late next

/-- A timer that ended does not wait. -/
theorem not_waits_of_ended (ended : s.isLive number = false) {w : Timer.Waiting} :
    ¬ s.controller.Waits number w := by
  rintro ⟨x, hx, armed, -⟩
  rw [isLive, hx, Option.any_some, Timer.Lifecycle.isRetired, armed] at ended
  cases ended

/-- There is fuel for a timer that fires once in a millisecond, and for one fire more. -/
theorem lt_fuel (s : Service σ) (millis : Nat) : millis < s.fuel millis := by
  unfold fuel Controller.liveBound Timer.nanosPerMilli
  calc millis < millis * 1000000 + 1 := by omega
    _ ≤ _ := Nat.le_mul_of_pos_right _ (Nat.succ_pos _)

end Service

end FieldGateway
