import FieldGateway.Proofs.Caches.Elsewhere
import FieldGateway.Proofs.Service.Management
import FieldGateway.Proofs.Service.Run

/-
  The address of an incarnation is made once. What is asked of the driver for one incarnation goes
  one way (`Reached`): attempts to make its address that fail, until one succeeds, and after that
  readings and writings by the address that was made then. `DeviceLedger` says so of every
  incarnation that ever was, registered still or not; the ghost list of the incarnations tells which
  of them has a serial.
-/

namespace FieldGateway

/-! ## What is asked for one incarnation -/

/-- The incarnation that an address is made for, or that is read or written. -/
def Exchange.contacted? : Exchange → Option Device
  | .address d _ | .read d _ _ _ | .write d _ _ _ _ => some d
  | _ => none

/-- The incarnation is read or written by this address. -/
def Exchange.Uses (d : Device) (a : Address) : Exchange → Prop
  | .read e b _ _ | .write e b _ _ _ => e = d ∧ b = a
  | _ => False

/-- What is asked for the incarnation of this serial. -/
def Effect.contact? (serial : Nat) : Effect → Option Exchange
  | .driver x => if x.contacted?.any (·.serial == serial) then some x else none
  | _ => none

theorem Effect.contact?_of_isElsewhere {e : Effect} (h : e.isElsewhere = true) (serial : Nat) :
    e.contact? serial = none := by
  cases e with
  | driver x => cases x <;> first | rfl | cases h
  | _ => rfl

theorem Effect.contact?_of_contacted {x : Exchange} {d : Device} (h : x.contacted? = some d)
    (serial : Nat) :
    (Effect.driver x).contact? serial = if d.serial = serial then some x else none := by
  simp only [contact?, h, Option.any_some, beq_iff_eq]

variable {σ : Type} (driver : Driver σ)

/-- An attempt to make the address of an incarnation from its own protocols came to this. -/
def Driver.Makes (d : Device) (outcome : Except DriverError Address) : Prop :=
  ∃ state, (driver.createAddress state d.name d.protocols).1 = outcome

/-- The exchanges of an incarnation, the latest first, and the address that is kept for it. -/
inductive Reached (d : Device) : List Exchange → Option Address → Prop
  /-- Whenever its address was needed, none could be made. -/
  | never {failed : List Exchange}
      (failures : ∀ x ∈ failed, ∃ e, driver.Makes d (.error e) ∧ x = .address d (.error e)) :
      Reached d failed none
  /-- Its address was made in the end, and never again. -/
  | once {a : Address} {used failed : List Exchange} (uses : ∀ x ∈ used, x.Uses d a)
      (makes : driver.Makes d (.ok a))
      (failures : ∀ x ∈ failed, ∃ e, driver.Makes d (.error e) ∧ x = .address d (.error e)) :
      Reached d (used ++ .address d (.ok a) :: failed) (some a)

namespace Reached

variable {driver} {d : Device} {xs : List Exchange} {x : Exchange} {a : Address}

theorem nothing : Reached driver d [] none := .never (List.forall_mem_nil _)

/-- Everything was asked for this incarnation. -/
theorem contacted {address : Option Address} (h : Reached driver d xs address) (hx : x ∈ xs) :
    x.contacted? = some d := by
  have failure {failed : List Exchange} (failures : ∀ x ∈ failed, ∃ e,
      driver.Makes d (.error e) ∧ x = .address d (.error e)) (hx : x ∈ failed) :
      x.contacted? = some d := by
    obtain ⟨e, -, rfl⟩ := failures x hx
    rfl
  cases h with
  | never failures => exact failure failures hx
  | once uses makes failures =>
    rcases List.mem_append.1 hx with hx | hx
    · have uses := uses x hx
      cases x <;> first | exact absurd uses id | exact congrArg some uses.1
    · rcases List.mem_cons.1 hx with rfl | hx
      · rfl
      · exact failure failures hx

theorem failed (h : Reached driver d xs none) {e : DriverError}
    (makes : driver.Makes d (.error e)) : Reached driver d (.address d (.error e) :: xs) none := by
  cases h with
  | never failures => exact .never (List.forall_mem_cons.2 ⟨⟨e, makes, rfl⟩, failures⟩)

theorem made (h : Reached driver d xs none) (makes : driver.Makes d (.ok a)) :
    Reached driver d (.address d (.ok a) :: xs) (some a) := by
  cases h with
  | never failures =>
    rw [← List.nil_append (_ :: xs)]
    exact .once (List.forall_mem_nil _) makes failures

theorem used (h : Reached driver d xs (some a)) (uses : x.Uses d a) :
    Reached driver d (x :: xs) (some a) := by
  cases h with
  | once uses' makes failures =>
    rw [← List.cons_append]
    exact .once (List.forall_mem_cons.2 ⟨uses, uses'⟩) makes failures

end Reached

/-! ## All incarnations -/

namespace Service

open FieldGateway.Action

/-- What was asked for the incarnation of this serial, the latest first. -/
def contacts (s : Service σ) (serial : Nat) : List Exchange :=
  s.site.trace.filterMap (·.2.contact? serial)

variable {s t : Service σ}

/-- Each of them stands on the trace, under the incarnation it was asked for. -/
theorem of_mem_contacts {serial : Nat} {x : Exchange} (h : x ∈ s.contacts serial) :
    ∃ time d, (time, .driver x) ∈ s.site.trace ∧ x.contacted? = some d ∧ d.serial = serial := by
  obtain ⟨⟨time, e⟩, he, found⟩ := List.mem_filterMap.1 h
  cases e with
  | driver y =>
    obtain ⟨asked, same⟩ := Option.ite_none_right_eq_some.1 found
    cases same
    obtain ⟨d, contacted, serial⟩ := (Option.any_eq_true _ _).1 asked
    exact ⟨time, d, he, contacted, beq_iff_eq.1 serial⟩
  | _ => cases found

theorem contacts_noting {serial : Nat} (h : Noting (·.contact? serial = none) s t) :
    t.contacts serial = s.contacts serial := by
  obtain ⟨new, trace, others⟩ := h
  rw [contacts, trace, List.filterMap_append, List.filterMap_eq_nil_iff.2 others]
  rfl

theorem contacts_cons {x : Exchange} {now : Nat} {d : Device} (h : x.contacted? = some d)
    (trace : t.site.trace = (now, .driver x) :: s.site.trace) (serial : Nat) :
    t.contacts serial =
      if d.serial = serial then x :: s.contacts serial else s.contacts serial := by
  rw [contacts, trace, List.filterMap_cons, Effect.contact?_of_contacted h]
  by_cases same : d.serial = serial
  · rw [if_pos same, if_pos same]
    rfl
  · rw [if_neg same, if_neg same]
    rfl

/-- No device is asked for anything, and no address is lost or made. -/
structure Uncontacted (s t : Service σ) : Prop where
  registry : t.site.registry = s.site.registry
  next : t.site.conditions.next = s.site.conditions.next
  address (d : Device) : (t.site.condition d).address = (s.site.condition d).address
  noting (serial : Nat) : Noting (·.contact? serial = none) s t

namespace Uncontacted

theorem refl (s : Service σ) : Uncontacted s s := ⟨rfl, rfl, fun _ => rfl, fun _ => .of_eq rfl⟩

theorem trans {u : Service σ} (h : Uncontacted s t) (h' : Uncontacted t u) : Uncontacted s u where
  registry := h'.registry.trans h.registry
  next := h'.next.trans h.next
  address d := (h'.address d).trans (h.address d)
  noting serial := (h.noting serial).trans (h'.noting serial)

instance : Std.Refl (Uncontacted (σ := σ)) := ⟨refl⟩

instance : IsTrans (Service σ) Uncontacted := ⟨fun _ _ _ => trans⟩

theorem elsewhere (h : Elsewhere s t) : Uncontacted s t :=
  ⟨h.registry, h.next, h.address, fun serial =>
    h.noting.mono fun _ he => Effect.contact?_of_isElsewhere he serial⟩

/-- Attributes are parsed without asking a device. -/
theorem index (r : Registration) : Within Uncontacted (onSite (Site.index driver r)) := by
  intro s
  have noting (serial : Nat) : Noting (·.contact? serial = none) s
      ((onSite (Site.index driver r)).after s) := index_noting driver r (fun _ => rfl) s
  rw [after_onSite] at noting ⊢
  rcases Site.index_cases driver r s.site with same | ⟨i, same⟩ <;> rw [same] at noting ⊢ <;>
    exact ⟨rfl, rfl, fun _ => rfl, noting⟩

theorem sampleRegistered (registered : Except DeviceError Device) :
    Within Uncontacted (sampleRegistered driver registered) :=
  sampleRegistered_within (((Elsewhere.scheduling driver).mono fun h s =>
    elsewhere (h s)).startAutoEvents (index driver)) registered

end Uncontacted

/-- The address of every incarnation that ever was is made once at most. The incarnations are
listed by serial. -/
structure DeviceLedger (ds : List Device) (s : Service σ) : Prop where
  length_eq : ds.length = s.site.conditions.next
  numbered {i : Nat} {d : Device} : ds[i]? = some d → d.serial = i
  registered {name : String} {d : Device} : s.device? name = some d → ds[d.serial]? = some d
  reached {d : Device} : ds[d.serial]? = some d →
    Reached driver d (s.contacts d.serial) (s.site.condition d).address
  beyond {serial : Nat} : ds.length ≤ serial → s.contacts serial = []

namespace DeviceLedger

variable {driver} {ds : List Device} {d : Device} {a : Address}

theorem of_fresh (h : Fresh s) : DeviceLedger driver [] s where
  length_eq := by
    rw [h.conditions]
    rfl
  numbered hd := by cases hd
  registered hd := by
    rw [device?, h.registry] at hd
    cases hd
  reached hd := by cases hd
  beyond _ := by
    rw [contacts, h.trace]
    rfl

theorem knows (h : DeviceLedger driver ds s) (hd : ds[d.serial]? = some d) : s.site.Knows d :=
  Nat.lt_of_lt_of_eq (List.getElem?_eq_some_iff.1 hd).1 h.length_eq

/-- Nothing is asked of a device, and no address is lost. -/
theorem onward (h : DeviceLedger driver ds s)
    (registered : ∀ {name d}, t.device? name = some d → ds[d.serial]? = some d)
    (next : t.site.conditions.next = s.site.conditions.next)
    (address : ∀ d, (t.site.condition d).address = (s.site.condition d).address)
    (noting : ∀ serial, Noting (·.contact? serial = none) s t) : DeviceLedger driver ds t where
  length_eq := h.length_eq.trans next.symm
  numbered := h.numbered
  registered := registered
  reached {d} hd := by
    rw [address d, contacts_noting (noting _)]
    exact h.reached hd
  beyond hn := by
    rw [contacts_noting (noting _)]
    exact h.beyond hn

theorem uncontacted (h : DeviceLedger driver ds s) (same : Uncontacted s t) :
    DeviceLedger driver ds t := by
  refine h.onward (fun {name d} hd => ?_) same.next same.address same.noting
  rw [device?, same.registry] at hd
  exact h.registered hd

/-- One more exchange of one incarnation, after which its address is as it must be. -/
theorem contacted (h : DeviceLedger driver ds s) {x : Exchange} {now : Nat}
    (contacted : x.contacted? = some d) (trace : t.site.trace = (now, .driver x) :: s.site.trace)
    (hd : ds[d.serial]? = some d) (registry : t.site.registry = s.site.registry)
    (next : t.site.conditions.next = s.site.conditions.next)
    (others : ∀ e : Device, d.serial ≠ e.serial →
      (t.site.condition e).address = (s.site.condition e).address)
    (reached : Reached driver d (x :: s.contacts d.serial) (t.site.condition d).address) :
    DeviceLedger driver ds t where
  length_eq := h.length_eq.trans next.symm
  numbered := h.numbered
  registered he := by
    rw [device?, registry] at he
    exact h.registered he
  reached {e} he := by
    rw [contacts_cons contacted trace]
    split
    · rename_i same
      obtain rfl : d = e := by
        rw [same, he] at hd
        exact (Option.some.inj hd).symm
      exact reached
    · rename_i apart
      rw [others e apart]
      exact h.reached he
  beyond {serial} hn := by
    have placed := (List.getElem?_eq_some_iff.1 hd).1
    rw [contacts_cons contacted trace, if_neg (Nat.ne_of_lt (Nat.lt_of_lt_of_le placed hn))]
    exact h.beyond hn

/-- The incarnation is read or written by the address that is kept for it. -/
theorem used (h : DeviceLedger driver ds s) (hd : ds[d.serial]? = some d)
    (known : (s.site.condition d).address = some a) {x : Exchange} {now : Nat}
    (contacted : x.contacted? = some d) (uses : x.Uses d a)
    (trace : t.site.trace = (now, .driver x) :: s.site.trace)
    (registry : t.site.registry = s.site.registry)
    (conditions : t.site.conditions = s.site.conditions) : DeviceLedger driver ds t := by
  have same (e : Device) : t.site.condition e = s.site.condition e := by
    rw [Site.condition, conditions]
    rfl
  refine h.contacted contacted trace hd registry (by rw [conditions])
    (fun e _ => by rw [same]) ?_
  have before := h.reached hd
  rw [known] at before
  rw [same, known]
  exact before.used uses

/-- The address is kept already, or made now, or it could not be made. -/
theorem address (h : DeviceLedger driver ds s) (hd : ds[d.serial]? = some d) :
    let made := onSite (Site.address driver d)
    DeviceLedger driver ds (made.after s) ∧
      ∀ a, made.result s = .ok a → ((made.after s).site.condition d).address = some a := by
  intro made
  unfold made
  rw [after_onSite, result_onSite]
  have before := h.reached hd
  rcases Site.address_cases driver d s.site with
    ⟨a, known, step⟩ | ⟨unknown, outcome, state, made, step⟩
  · rw [step]
    refine ⟨h, fun b same => ?_⟩
    cases same
    exact known
  · rw [unknown] at before
    have makes : driver.Makes d outcome := ⟨s.site.driverState, by rw [made]⟩
    rw [step]
    cases outcome with
    | error e =>
      refine ⟨h.contacted rfl rfl hd rfl rfl (fun _ _ => rfl) ?_, nofun⟩
      show Reached driver d _ (s.site.condition d).address
      rw [unknown]
      exact before.failed makes
    | ok a =>
      have kept (e : Device) := Site.condition_setCondition (h.knows hd)
        { s.site.condition d with address := some a } e
      have new : ((s.site.setCondition d { s.site.condition d with address := some a }).condition
          d).address = some a := by
        rw [kept, if_pos rfl]
      refine ⟨h.contacted (x := .address d (.ok a)) rfl rfl hd rfl (Numbered.next_modify _ _ _)
        (fun e apart => ?_) ?_, fun b same => ?_⟩
      · exact congrArg Condition.address ((kept e).trans (if_neg apart))
      · show Reached driver d _ ((s.site.setCondition d _).condition d).address
        rw [new]
        exact before.made makes
      · cases same
        exact new

/-- A new incarnation has no address. -/
theorem installed (h : DeviceLedger driver ds s) {c : Condition} (fresh : c.address = none)
    (i : Installed d c s t) (noting : ∀ serial, Noting (·.contact? serial = none) s t) :
    DeviceLedger driver (ds ++ [d]) t where
  length_eq := by
    rw [i.conditions, Numbered.next_add, List.length_append, h.length_eq, List.length_singleton]
  numbered {j e} he := by
    rcases getElem?_of_concat he with ⟨-, he⟩ | ⟨new, rfl⟩
    · exact h.numbered he
    · rw [i.serial, ← h.length_eq, new]
  registered {name e} he := by
    rw [i.device?] at he
    split at he
    · cases he
      rw [i.serial, ← h.length_eq, List.getElem?_concat_length]
    · exact getElem?_of_isPrefix (List.prefix_append _ _) (h.registered he)
  reached {e} he := by
    rw [contacts_noting (noting _), i.condition]
    rcases getElem?_of_concat he with ⟨before, he⟩ | ⟨new, rfl⟩
    · rw [h.length_eq, ← i.serial] at before
      rw [if_neg (Nat.ne_of_lt before)]
      exact h.reached he
    · rw [if_pos rfl, fresh, h.beyond (Nat.le_of_eq new.symm)]
      exact .nothing
  beyond {serial} hn := by
    rw [contacts_noting (noting _)]
    refine h.beyond ?_
    rw [List.length_append, List.length_singleton] at hn
    omega

/-- Whoever was contacted is one of the incarnations, and was reached as it must be. -/
theorem once (h : DeviceLedger driver ds s) {time : Nat} {x : Exchange}
    (hx : (time, .driver x) ∈ s.site.trace) (contacted : x.contacted? = some d) :
    Reached driver d (s.contacts d.serial) (s.site.condition d).address := by
  have mem : x ∈ s.contacts d.serial := by
    refine List.mem_filterMap.2 ⟨_, hx, ?_⟩
    rw [Effect.contact?_of_contacted contacted, if_pos rfl]
  cases listed : ds[d.serial]? with
  | none =>
    rw [h.beyond (List.getElem?_eq_none_iff.1 listed)] at mem
    cases mem
  | some e =>
    have serial : e.serial = d.serial := h.numbered listed
    have reached := h.reached (d := e) (by rw [serial, listed])
    rw [serial] at reached
    obtain rfl : d = e := Option.some.inj (contacted.symm.trans (reached.contacted mem))
    exact reached

end DeviceLedger

end Service

end FieldGateway
