import FieldGateway.Service.Clock
import Mathlib.Order.Defs.Unbundled

/-
  What an action answers and what it leaves: `result` and `after`, with one equation for each way
  of building an action. Proofs about services go through these and do not open the monad.
  `Within R a`: whatever service `a` starts from, what it leaves is related to it by `R`. For a
  preorder `R` this follows the building of an action (`Within.bind`, `Within.ite`,
  `Within.forM`). `Keeps P a`: what `a` starts from with `P`, it leaves with `P`.
-/

namespace FieldGateway

variable {σ α β : Type}

namespace Action

/-- The answer of an action. -/
def result (a : Action σ α) (s : Service σ) : α := (a.run s).1

/-- The service that an action leaves. -/
def after (a : Action σ α) (s : Service σ) : Service σ := (a.run s).2

@[simp] theorem result_pure (x : α) (s : Service σ) : (pure x : Action σ α).result s = x := rfl

@[simp] theorem after_pure (x : α) (s : Service σ) : (pure x : Action σ α).after s = s := rfl

@[simp] theorem result_bind (a : Action σ α) (f : α → Action σ β) (s : Service σ) :
    Action.result (a >>= f) s = (f (a.result s)).result (a.after s) := rfl

@[simp] theorem after_bind (a : Action σ α) (f : α → Action σ β) (s : Service σ) :
    Action.after (a >>= f) s = (f (a.result s)).after (a.after s) := rfl

@[simp] theorem result_get (s : Service σ) : (get : Action σ (Service σ)).result s = s := rfl

@[simp] theorem after_get (s : Service σ) : (get : Action σ (Service σ)).after s = s := rfl

theorem after_bind_assoc {γ : Type} (a : Action σ α) (f : α → Action σ β) (g : β → Action σ γ)
    (s : Service σ) :
    Action.after (a >>= f >>= g) s = Action.after (a >>= fun x => f x >>= g) s := rfl

/-- A test on the service that was got is a test on the service itself. -/
@[simp] theorem result_get_bind (f : Service σ → Action σ β) (s : Service σ) :
    Action.result (get >>= f) s = (f s).result s := rfl

@[simp] theorem after_get_bind (f : Service σ → Action σ β) (s : Service σ) :
    Action.after (get >>= f) s = (f s).after s := rfl

@[simp] theorem after_ite (c : Prop) [Decidable c] (a b : Action σ α) (s : Service σ) :
    Action.after (if c then a else b) s = if c then a.after s else b.after s := by
  split <;> rfl

@[simp] theorem result_ite (c : Prop) [Decidable c] (a b : Action σ α) (s : Service σ) :
    Action.result (if c then a else b) s = if c then a.result s else b.result s := by
  split <;> rfl

/-! ## Actions within a relation -/

def Within (R : Service σ → Service σ → Prop) (a : Action σ α) : Prop := ∀ s, R s (a.after s)

variable {R : Service σ → Service σ → Prop}

theorem Within.pure [Std.Refl R] (x : α) : Within R (Pure.pure x : Action σ α) :=
  fun s => Std.Refl.refl s

theorem Within.get [Std.Refl R] : Within R (MonadState.get : Action σ (Service σ)) :=
  fun s => Std.Refl.refl s

theorem Within.bind [IsTrans (Service σ) R] {a : Action σ α} {f : α → Action σ β}
    (ha : Within R a) (hf : ∀ x, Within R (f x)) : Within R (a >>= f) :=
  fun s => IsTrans.trans _ _ _ (ha s) (hf _ _)

theorem Within.pure_bind {x : α} {f : α → Action σ β} (h : Within R (f x)) :
    Within R (Pure.pure x >>= f) := h

theorem Within.ite {c : Prop} [Decidable c] {a b : Action σ α} (ha : Within R a)
    (hb : Within R b) : Within R (if c then a else b) := by
  split
  · exact ha
  · exact hb

theorem Within.forM [Std.Refl R] [IsTrans (Service σ) R] {xs : List α}
    {f : α → Action σ PUnit} (hf : ∀ x, Within R (f x)) : Within R (xs.forM f) := by
  induction xs with
  | nil => exact Within.pure _
  | cons x xs ih => exact Within.bind (hf x) fun _ => ih

/-- What holds of the one service holds of the other. -/
def Onward (P : Service σ → Prop) (s t : Service σ) : Prop := P s → P t

instance (P : Service σ → Prop) : Std.Refl (Onward P) := ⟨fun _ h => h⟩

instance (P : Service σ → Prop) : IsTrans (Service σ) (Onward P) := ⟨fun _ _ _ f g h => g (f h)⟩

abbrev Keeps (P : Service σ → Prop) (a : Action σ α) : Prop := Within (Onward P) a

end Action

namespace Service

open FieldGateway.Action

@[simp] theorem result_onSite (step : Site σ → α × Site σ) (s : Service σ) :
    (onSite step).result s = (step s.site).1 := rfl

@[simp] theorem after_onSite (step : Site σ → α × Site σ) (s : Service σ) :
    (onSite step).after s = { s with site := (step s.site).2 } := rfl

@[simp] theorem after_changeSite (f : Site σ → Site σ) (s : Service σ) :
    (changeSite f).after s = { s with site := f s.site } := rfl

@[simp] theorem after_changeController (f : Controller → Controller) (s : Service σ) :
    (changeController f : Action σ Unit).after s = { s with controller := f s.controller } := rfl

end Service

end FieldGateway
