import FieldGateway.Site.Basic

/-
  What the steps of a site do, one lemma for each step that has cases: `condition_setCondition`,
  `index_cases`, `index_learns`, `address_cases`.
-/

namespace FieldGateway.Site

variable {σ : Type} (driver : Driver σ)

/-! ## Conditions -/

/-- A device has a condition of its own. -/
def Knows (s : Site σ) (d : Device) : Prop := d.serial < s.conditions.next

theorem get?_eq_none_iff {α : Type} (t : Numbered α) (i : Nat) :
    t.get? i = none ↔ t.next ≤ i := by
  simp [Numbered.get?, Numbered.next]

theorem condition_setCondition {s : Site σ} {d : Device} (h : s.Knows d) (c : Condition)
    (e : Device) :
    (s.setCondition d c).condition e = if d.serial = e.serial then c else s.condition e := by
  simp only [condition, setCondition, Numbered.get?_modify]
  split
  · rename_i he
    rw [Knows, he] at h
    cases hg : s.conditions.get? e.serial with
    | none => rw [get?_eq_none_iff] at hg; omega
    | some x => rfl
  · rfl

theorem setCondition_of_not_knows {s : Site σ} {d : Device} (h : ¬ s.Knows d) (c : Condition)
    (e : Device) : (s.setCondition d c).condition e = s.condition e := by
  simp only [condition, setCondition, Numbered.get?_modify]
  split
  · rename_i he
    rw [Knows, he] at h
    have hg : s.conditions.get? e.serial = none := by rw [get?_eq_none_iff]; omega
    rw [hg]
    rfl
  · rfl

/-! ## The driver -/

theorem foldl_note {α : Type} (xs : List α) (e : α → Effect) (s : Site σ) :
    xs.foldl (fun s x => s.note (e x)) s =
      { s with trace := (xs.map fun x => (s.now, e x)).reverse ++ s.trace } := by
  induction xs generalizing s with
  | nil => rfl
  | cons x xs ih =>
    rw [List.foldl_cons, ih]
    simp [note]

/-- The commands of a profile are kept, or they are made and put on record. -/
theorem index_cases (r : Registration) (s : Site σ) :
    (index driver r s).2 = s ∨
    ∃ i, (index driver r s).2 =
      { s with
        indexes := s.indexes.modify r.serial fun _ => some i
        trace := (i.parsed.map fun p => (s.now, .driver (.parse r p))).reverse ++ s.trace } := by
  unfold index
  cases (s.indexes.get? r.serial).join with
  | some i => exact .inl rfl
  | none => exact .inr ⟨_, foldl_note _ (fun p => .driver (.parse r p)) _⟩

theorem registry_index (r : Registration) (s : Site σ) :
    (index driver r s).2.registry = s.registry := by
  rcases index_cases driver r s with h | ⟨i, h⟩ <;> rw [h]

/-- What is answered was kept, or it is kept from then on. -/
theorem index_learns (r : Registration) (s : Site σ) :
    (s.indexes.get? r.serial).join = some (index driver r s).1 ∧ (index driver r s).2 = s ∨
    (s.indexes.get? r.serial).join = none ∧
      (index driver r s).2.indexes = s.indexes.modify r.serial fun _ => some (index driver r s).1 := by
  unfold index
  cases (s.indexes.get? r.serial).join with
  | some i => exact .inl ⟨rfl, rfl⟩
  | none => exact .inr ⟨rfl, by dsimp only; rw [foldl_note _ (fun p => .driver (.parse r p))]⟩

/-- An address is known, or the driver makes one, or it fails to. -/
theorem address_cases (d : Device) (s : Site σ) :
    (∃ a, (s.condition d).address = some a ∧ address driver d s = (.ok a, s)) ∨
    (s.condition d).address = none ∧
      ∃ outcome state, driver.createAddress s.driverState d.name d.protocols = (outcome, state) ∧
        let s' := { s with driverState := state }.note (.driver (.address d outcome))
        address driver d s = (outcome, match outcome with
          | .ok a => s'.setCondition d { s.condition d with address := some a }
          | .error _ => s') := by
  unfold address
  cases (s.condition d).address with
  | some a => exact .inl ⟨a, rfl, rfl⟩
  | none =>
    rcases hc : driver.createAddress s.driverState d.name d.protocols with ⟨outcome, state⟩
    refine .inr ⟨rfl, outcome, state, rfl, ?_⟩
    simp only [createAddress, hc]
    cases outcome <;> rfl

end FieldGateway.Site
