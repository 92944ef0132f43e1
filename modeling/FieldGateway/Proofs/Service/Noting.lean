import FieldGateway.Proofs.Service.Within
import FieldGateway.Proofs.Site.Steps
import FieldGateway.Service.Commands

/-
  What actions put on record. `Noting p` relates services of which the second has the trace of
  the first, with effects of the kind `p` on top: an action that stays within it notes nothing
  else. Reports on devices and all that follows from them are no calls of the driver
  (`reportSuccess_quiet`, `reportFailure_quiet`, `driverFailed_quiet`). Before a command, the driver
  parses attributes (`index_noting`) and makes an address (`makeAddress_noting`).
-/

namespace FieldGateway

/-- A call of the driver. -/
def Effect.isExchange : Effect → Bool
  | .driver _ => true
  | _ => false

namespace Service

open FieldGateway.Action

variable {σ : Type} {p q : Effect → Prop}

def Noting (p : Effect → Prop) (s t : Service σ) : Prop :=
  ∃ new, t.site.trace = new ++ s.site.trace ∧ ∀ x ∈ new, p x.2

namespace Noting

theorem of_eq {s t : Service σ} (h : t.site.trace = s.site.trace) : Noting p s t :=
  ⟨[], h, by simp⟩

theorem one {s t : Service σ} {e : Effect} {now : Nat}
    (h : t.site.trace = (now, e) :: s.site.trace) (he : p e) : Noting p s t :=
  ⟨[(now, e)], h, by simpa using he⟩

theorem two {s t : Service σ} {e e' : Effect} {now now' : Nat}
    (h : t.site.trace = (now, e) :: (now', e') :: s.site.trace) (he : p e) (he' : p e') :
    Noting p s t :=
  ⟨[(now, e), (now', e')], h, by simpa using ⟨he, he'⟩⟩

theorem trans {s t u : Service σ} (h : Noting p s t) (h' : Noting p t u) : Noting p s u := by
  obtain ⟨new, ht, hp⟩ := h
  obtain ⟨newer, hu, hp'⟩ := h'
  refine ⟨newer ++ new, by rw [hu, ht, List.append_assoc], fun x hx => ?_⟩
  rcases List.mem_append.1 hx with hx | hx
  · exact hp' x hx
  · exact hp x hx

theorem mono {s t : Service σ} (h : Noting p s t) (hpq : ∀ e, p e → q e) : Noting q s t :=
  let ⟨new, ht, hp⟩ := h
  ⟨new, ht, fun x hx => hpq _ (hp x hx)⟩

instance : Std.Refl (Noting (σ := σ) p) := ⟨fun _ => of_eq rfl⟩

instance : IsTrans (Service σ) (Noting p) := ⟨fun _ _ _ => trans⟩

end Noting

/-- This was picked out of what was put on record between two services, first things first. -/
def Records {β : Type} (pick : Effect → Option β) (picked : List β) (s t : Service σ) : Prop :=
  ∃ new, t.site.trace = new ++ s.site.trace ∧ new.reverse.filterMap (pick ·.2) = picked

namespace Records

variable {β : Type} {pick : Effect → Option β} {xs ys : List β} {s t u : Service σ}

theorem nothing (h : Noting (pick · = none) s t) : Records pick [] s t := by
  obtain ⟨new, ht, hnew⟩ := h
  exact ⟨new, ht, List.filterMap_eq_nil_iff.2 fun x hx => hnew x (List.mem_reverse.1 hx)⟩

theorem trans (h : Records pick xs s t) (h' : Records pick ys t u) :
    Records pick (xs ++ ys) s u := by
  obtain ⟨new, ht, rfl⟩ := h
  obtain ⟨newer, hu, rfl⟩ := h'
  refine ⟨newer ++ new, by rw [hu, ht, List.append_assoc], ?_⟩
  rw [List.reverse_append, List.filterMap_append]

theorem before (h : Noting (pick · = none) s t) (h' : Records pick xs t u) :
    Records pick xs s u :=
  (nothing h).trans h'

theorem after (h : Records pick xs s t) (h' : Noting (pick · = none) t u) :
    Records pick xs s u := by
  simpa only [List.append_nil] using h.trans (nothing h')

end Records

/-! ## What is no call of the driver -/

/-- Actions that call no driver. -/
abbrev Quiet {α : Type} (a : Action σ α) : Prop := Within (Noting (·.isExchange = false)) a

theorem changeController_quiet (f : Controller → Controller) :
    Quiet (changeController f : Action σ Unit) :=
  fun _ => .of_eq rfl

theorem note_quiet {e : Effect} (h : e.isExchange = false) :
    Quiet (changeSite (σ := σ) (Site.note e)) :=
  fun _ => .one rfl h

theorem announce_quiet (source : String) (a : Int64 → Announcement) :
    Quiet (announce (σ := σ) source a) :=
  fun _ => .one rfl rfl

theorem reporting_quiet (d : Device) : Reporting d (Noting (σ := σ) (·.isExchange = false)) where
  enter _ _ := .one rfl rfl
  sayUp := announce_quiet _ _
  sayDown _ := announce_quiet _ _
  report _ := report_within (note_quiet rfl)
  arm := armProbe_within d.name (fun _ _ => .of_eq rfl) fun _ => changeController_quiet _
  cancel := cancelProbe_within d.name (changeController_quiet _) fun _ => changeController_quiet _

theorem reportSuccess_quiet (d : Device) : Quiet (reportSuccess (σ := σ) d) :=
  (reporting_quiet d).success

theorem reportFailure_quiet (d : Device) (reason : String) :
    Quiet (reportFailure (σ := σ) d reason) :=
  (reporting_quiet d).failure reason

theorem violated_quiet (d : Device) (reason : String) : Quiet (violated (σ := σ) d reason) :=
  violated_within ((reporting_quiet d).violation reason)

theorem driverFailed_quiet (d : Device) (e : DriverError) :
    Quiet (driverFailed (σ := σ) d e) :=
  driverFailed_within (reporting_quiet d).failure (reporting_quiet d).violation e

theorem touch_quiet (d : Device) : Quiet (touch (σ := σ) d) := touch_within (note_quiet rfl)

/-! ## Before a command -/

theorem index_noting (driver : Driver σ) (r : Registration)
    (parse : ∀ resource, p (.driver (.parse r resource))) :
    Within (Noting p) (onSite (Site.index driver r)) := by
  intro s
  rw [after_onSite]
  rcases Site.index_cases driver r s.site with h | ⟨i, h⟩
  · rw [h]
    exact .of_eq rfl
  · rw [h]
    refine ⟨_, rfl, fun x hx => ?_⟩
    obtain ⟨resource, _, rfl⟩ := List.mem_map.1 (List.mem_reverse.1 hx)
    exact parse resource

theorem makeAddress_noting (driver : Driver σ) (d : Device)
    (address : ∀ outcome, p (.driver (.address d outcome))) :
    Within (Noting p) (onSite (Site.address driver d)) := by
  intro s
  rw [after_onSite]
  rcases Site.address_cases driver d s.site with ⟨a, _, h⟩ | ⟨_, outcome, state, _, h⟩
  · rw [h]
    exact .of_eq rfl
  · rw [h]
    cases outcome <;> exact .one rfl (address _)

end Service

end FieldGateway
