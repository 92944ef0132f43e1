import FieldGateway.Proofs.Caches.Devices
import FieldGateway.Proofs.Caches.Profiles
import FieldGateway.Proofs.Flight.Health
import FieldGateway.Proofs.Service.Ground

/-
  Work keeps the ledgers of what is made once. Between the look-up of an address and the readings
  and writings that use it, the address stays the one that is kept (`Addressed`). So whatever begins
  with a registered device, and whatever ends with an incarnation that is listed, keeps both ledgers
  (`begin_ledger`, `finish_ledger`).
-/

namespace FieldGateway.Service

open FieldGateway.Action

variable {σ : Type} {driver : Driver σ} {ps : List Profile} {ds : List Device} {d : Device}
  {a : Address} {s : Service σ}

variable (driver ps ds) in
/-- Commands and addresses are made once at most. -/
structure Ledger (s : Service σ) : Prop where
  profiles : ProfileLedger driver ps s
  devices : DeviceLedger driver ds s

variable (driver ps ds d a) in
/-- Besides, this address is kept for the device. -/
structure Addressed (s : Service σ) : Prop extends Ledger driver ps ds s where
  known : (s.site.condition d).address = some a

/-! ## Steps of the site -/

theorem Ledger.elsewhere {t : Service σ} (h : Ledger driver ps ds s) (other : Elsewhere s t) :
    Ledger driver ps ds t :=
  ⟨h.profiles.elsewhere other, h.devices.uncontacted (.elsewhere other)⟩

theorem ledger_elsewhere {α : Type} {action : Action σ α} (h : Within Elsewhere action) :
    Keeps (Ledger driver ps ds) action :=
  fun s hs => hs.elsewhere (h s)

theorem ledger_index {r : Registration} (hr : ps[r.serial]? = some r.profile) :
    Keeps (Ledger driver ps ds) (onSite (Site.index driver r)) :=
  fun _ hs => ⟨hs.profiles.index hr, hs.devices.uncontacted (.index driver r _)⟩

/-- The commands of a device that is registered are looked up. -/
theorem Ledger.index (h : Ledger driver ps ds s) {name : String} (hd : s.device? name = some d) :
    Keeps (Ledger driver ps ds) (onSite (Site.index driver d.registration)) :=
  ledger_index (h.profiles.onRecord (onRecord_of_device hd))

theorem addressed_elsewhere {α : Type} {action : Action σ α} (h : Within Elsewhere action) :
    Keeps (Addressed driver ps ds d a) action :=
  fun s hs => ⟨ledger_elsewhere h s hs.toLedger, ((h s).address d).trans hs.known⟩

theorem addressed_read (hd : ds[d.serial]? = some d) (requests : List Request) :
    Keeps (Addressed driver ps ds d a) (onSite (Site.read driver d a requests)) := by
  intro s hs
  refine ⟨⟨?_, ?_⟩, hs.known⟩
  · exact hs.profiles.onward (fun hr => hs.profiles.onRecord hr) rfl (.one rfl rfl)
  · exact hs.devices.used hd hs.known (x := .read d a requests _) rfl ⟨rfl, rfl⟩ rfl rfl rfl

theorem addressed_write (hd : ds[d.serial]? = some d) (requests : List Request)
    (values : List Value) :
    Keeps (Addressed driver ps ds d a) (onSite (Site.write driver d a requests values)) := by
  intro s hs
  refine ⟨⟨?_, ?_⟩, hs.known⟩
  · exact hs.profiles.onward (fun hr => hs.profiles.onRecord hr) rfl (.one rfl rfl)
  · exact hs.devices.used hd hs.known (x := .write d a requests values _) rfl ⟨rfl, rfl⟩ rfl rfl rfl

/-- What is done with an address is done with the one that is kept. -/
theorem ledger_makeAddress {β : Type} (hd : ds[d.serial]? = some d)
    {f : Except DriverError Address → Action σ β}
    (failed : ∀ e, Keeps (Ledger driver ps ds) (f (.error e)))
    (made : ∀ a s, Addressed driver ps ds d a s → Ledger driver ps ds ((f (.ok a)).after s)) :
    Keeps (Ledger driver ps ds) (onSite (Site.address driver d) >>= f) := by
  intro s hs
  rw [after_bind]
  obtain ⟨devices, known⟩ := hs.devices.address hd
  have profiles : ProfileLedger driver ps ((onSite (Site.address driver d)).after s) := by
    have still := Still.makeAddress driver d s
    exact hs.profiles.onward (fun hr => hs.profiles.onRecord (hr.congr still.registry))
      still.indexes (makeAddress_noting driver d (fun _ => rfl) s)
  cases found : (onSite (Site.address driver d)).result s with
  | error e => exact failed e _ ⟨profiles, devices⟩
  | ok a => exact made a _ ⟨⟨profiles, devices⟩, known a found⟩

theorem ledger_address {β : Type} (hd : ds[d.serial]? = some d)
    {f : Except CommandError Address → Action σ β}
    (failed : ∀ e, Keeps (Ledger driver ps ds) (f (.error e)))
    (made : ∀ a s, Addressed driver ps ds d a s → Ledger driver ps ds ((f (.ok a)).after s)) :
    Keeps (Ledger driver ps ds) (Service.address driver d >>= f) := by
  unfold Service.address
  intro s hs
  rw [after_bind_assoc]
  refine ledger_makeAddress hd (fun e s hs => ?_) made s hs
  exact failed _ _ (ledger_elsewhere ((Elsewhere.reporting d).failure e.message) s hs)

/-! ## Reading and writing -/

theorem readRaw_ledger (hd : ds[d.serial]? = some d) (c : Command) :
    Keeps (Ledger driver ps ds) (readRaw driver d c) := by
  rw [readRaw_eq]
  refine ledger_address hd (fun e => .pure _) fun a s hs => ?_
  have asked := addressed_read hd c.requests s hs
  rw [after_bind]
  exact (addressed_elsewhere (Elsewhere.received d c _) _ asked).toLedger

theorem ask_ledger (hd : ds[d.serial]? = some d) (requests : List Request) :
    Keeps (Ledger driver ps ds) (ask driver d requests) :=
  ledger_makeAddress hd (fun _ => .pure _) fun _ s hs =>
    (addressed_read hd requests s hs).toLedger

/-- What is merged is read, and what is written goes out, by one address. -/
theorem write_ledger (hd : ds[d.serial]? = some d) (c : Command) (values : List Value) :
    Keeps (Ledger driver ps ds) (write driver d c values) := by
  refine ledger_address hd (fun e => .pure _) fun a s hs => ?_
  have other {α : Type} {action : Action σ α} (h : Within Elsewhere action) :
      Keeps (Addressed driver ps ds d a) action := addressed_elsewhere h
  have report := Elsewhere.reporting (σ := σ) d
  have failed (e : DriverError) := other (Elsewhere.driverFailed d e)
  have merge := mergeMasked_within (R := Onward (Addressed driver ps ds d a))
    (addressed_read hd) failed (fun reason => other (report.failure reason))
    fun reason => other (Elsewhere.violated d reason)
  suffices keeps : Keeps (Addressed driver ps ds d a) _ from (keeps s hs).toLedger
  refine .bind (merged_within merge (c.requests.zip values)) fun outcome => ?_
  cases outcome with
  | error e => exact .pure _
  | ok values =>
    refine .bind (addressed_write hd c.requests values) fun outcome => ?_
    cases outcome with
    | error e => exact .bind (failed e) fun _ => .pure _
    | ok _ =>
      exact .bind (other report.success) fun _ => .bind (other (Elsewhere.touch d)) fun _ => .pure _

theorem sampleNow_ledger (hd : ds[d.serial]? = some d) (number : Nat) (r : Sampler) (c : Command) :
    Keeps (Ledger driver ps ds) (sampleNow driver number r d c) := by
  refine .bind (readRaw_ledger hd c) fun outcome => ?_
  cases outcome with
  | error e => exact .pure _
  | ok results =>
    have publish : Keeps (Ledger driver ps ds) (publishResults (σ := σ) d c results) :=
      ledger_elsewhere (Elsewhere.publishResults d c results)
    exact .ite (.ite (.bind (ledger_elsewhere (Elsewhere.controller _)) fun _ => publish)
      (.pure _)) publish

/-- Whatever became of the device, its errand ends by the address of its incarnation. -/
theorem finish_ledger {e : Errand} (he : ds[e.device.serial]? = some e.device) :
    Keeps (Ledger driver ps ds) (finish driver e) := by
  cases e with
  | get d c =>
    refine .bind (.bind (readRaw_ledger he c) fun outcome => ?_) fun _ => .pure _
    cases outcome with
    | error e => exact .pure _
    | ok results => exact .bind (ledger_elsewhere (Elsewhere.cook d c results)) fun _ => .pure _
  | put d c values => exact .bind (write_ledger he c values) fun _ => .pure _
  | probe timer fired d c =>
    exact .bind (ask_ledger he c.requests) fun answer =>
      .bind (ledger_elsewhere (Elsewhere.endProbe d answer)) fun control =>
        ledger_elsewhere (Elsewhere.settleTimer timer fired control)
  | sample timer fired number r d c =>
    exact .bind (sampleNow_ledger he number r c) fun _ =>
      ledger_elsewhere (Elsewhere.settleTimer timer fired .again)

/-! ## What begins -/

theorem authorize_ledger (device command : String) (m : Method) :
    Keeps (Ledger driver ps ds) (authorize driver device command m) :=
  fun _ hs =>
    authorize_at (R := Onward (Ledger driver ps ds)) (fun _ hd => hs.index hd) command m hs

theorem beginTask_ledger (timer fired : Nat) (task : Task) :
    Keeps (Ledger driver ps ds) (beginTask driver timer fired task) := fun _ hs =>
  beginTask_at (R := Onward (Ledger driver ps ds))
    (fun _ => beginProbe_at (R := Onward (Ledger driver ps ds))
      (ledger_elsewhere (Elsewhere.controller _)) (fun _ hd => hs.index hd))
    (fun hd => hs.index hd) (ledger_elsewhere Elsewhere.announceCounters) timer fired task hs

theorem begin_ledger (x : Start) : Keeps (Ledger driver ps ds) (begin driver x) :=
  begin_within authorize_ledger
    (fun _ _ => ledger_elsewhere (Elsewhere.controller _)) beginTask_ledger
    (fun timer fired control => ledger_elsewhere (Elsewhere.settleTimer timer fired control)) x

theorem atOnce_ledger (x : Start) : Keeps (Ledger driver ps ds) (atOnce driver x) := by
  intro s hs
  have begun := begin_ledger x s hs
  rw [atOnce, after_bind]
  cases h : (begin driver x).result s with
  | none => exact begun
  | some e =>
    obtain ⟨name, registered⟩ := begin_registered driver h
    exact finish_ledger (hs.devices.registered registered) _ begun

end FieldGateway.Service
