import FieldGateway.Proofs.Flight.Health

/-
  Reports that a device answered, and the answers they stand for. Commands and samplers report a
  success right after the answer of the driver, and only if it is what was asked for: one result for
  each request, or what was written was taken. The end of a probe does not look at the number of
  results. So all that work ends with is `Founded`, unless it is a probe that `Miscounts`
  (`finish_founded`); that one reports a success with no such answer on record
  (`finish_unfulfilled`).
-/

namespace FieldGateway

namespace Effect

/-- The device answered as it was asked to: with one result for each request, or by taking what was
written. -/
def Fulfils (d : Device) : Effect → Prop
  | .driver (.read e _ requests (.ok results)) => e = d ∧ results.length = requests.length
  | .driver (.write e _ _ _ (.ok _)) => e = d
  | _ => False

/-- A device was reported to have answered. -/
def isSuccess : Effect → Bool
  | .reported _ .success => true
  | _ => false

theorem isSuccess_of_untelling {e : Effect} (h : e.tellsOfHealth = false) :
    e.isSuccess = false := by
  unfold isSuccess
  split
  · cases h
  · rfl

end Effect

namespace Service

open FieldGateway.Action

variable {σ : Type} {s t u : Service σ} {d : Device}

/-- In between, the device was reported to have answered, right after it did. -/
def Vindicated (d : Device) (s t : Service σ) : Prop :=
  ∃ later time answer older, t.site.trace =
    later ++ (time, .reported d .success) :: answer :: (older ++ s.site.trace) ∧
      answer.2.Fulfils d

/-- Whatever success was reported in between, it was right after the answer that it stands for. -/
def Founded (s t : Service σ) : Prop :=
  ∃ new, t.site.trace = new ++ s.site.trace ∧
    ∀ later time d older, new = later ++ (time, .reported d .success) :: older →
      ∃ answer rest, older = answer :: rest ∧ answer.2.Fulfils d

namespace Founded

theorem of_noting (h : Noting (·.isSuccess = false) s t) : Founded s t := by
  obtain ⟨new, ht, hnew⟩ := h
  refine ⟨new, ht, fun later time d older split => ?_⟩
  have reported := hnew (time, .reported d .success) (by rw [split]; simp)
  cases reported

theorem refl (s : Service σ) : Founded s s := of_noting (.of_eq rfl)

/-- A success and the answer before it fall on the same side. -/
theorem trans (h : Founded s t) (h' : Founded t u) : Founded s u := by
  obtain ⟨new, ht, founded⟩ := h
  obtain ⟨newer, hu, founded'⟩ := h'
  refine ⟨newer ++ new, by rw [hu, ht, List.append_assoc], fun later time d older split => ?_⟩
  rcases List.append_eq_append_iff.1 split with ⟨between, -, rest⟩ | ⟨between, rest, tail⟩
  · exact founded between time d older rest
  · cases between with
    | nil => exact founded [] time d older tail.symm
    | cons x between =>
      rw [List.cons_append] at tail
      obtain ⟨rfl, rfl⟩ := List.cons.inj tail
      obtain ⟨answer, beyond, rfl, fulfils⟩ := founded' later time d between rest
      exact ⟨answer, beyond ++ new, rfl, fulfils⟩

instance : Std.Refl (Founded (σ := σ)) := ⟨refl⟩

instance : IsTrans (Service σ) Founded := ⟨fun _ _ _ => trans⟩

theorem of_silent {α : Type} {a : Action σ α} (h : Within Silent a) : Within Founded a :=
  fun s => of_noting ((h s).noting.mono fun _ => Effect.isSuccess_of_untelling)

theorem of_calm {α : Type} {a : Action σ α} (h : Within Calm a) : Within Founded a :=
  of_silent (Calm.silent h)

theorem isSuccess_news {x : Nat × Effect} {state : OperatingState} {reason : String}
    (h : x ∈ news d reason state s) : x.2.isSuccess = false := by
  unfold news at h
  rcases List.mem_append.1 h with h | h
  · split at h
    · rw [List.mem_singleton.1 h]
      rfl
    · cases h
  · rw [List.mem_singleton.1 h]
    cases state <;> rfl

/-- A report that the device did not answer. -/
theorem conclude {r : Report} (hr : r ≠ .success) (reason : String) (s : Service σ) :
    Founded s ((conclude d r reason).after s) := by
  have report : (Effect.reported d r).isSuccess = false := by
    cases r with
    | success => exact absurd rfl hr
    | failure | violation => rfl
  refine of_noting ⟨_, (conclude_trace d r reason s).trans (List.append_cons ..), fun x hx => ?_⟩
  rcases List.mem_append.1 hx with hx | hx
  · split at hx
    · cases hx
    · exact isSuccess_news hx
  · rw [List.mem_singleton.1 hx]
    exact report

/-- A report that the device answered, right after it did. -/
theorem success {now : Nat} {e : Effect} (h : t.site.trace = (now, e) :: s.site.trace)
    (fulfils : e.Fulfils d) : Founded s ((reportSuccess d).after t) := by
  have entered : Founded s ((enter d .success).after t) := by
    refine ⟨[(t.site.now, .reported d .success), (now, e)], ?_, fun later time d' older split => ?_⟩
    · show _ :: t.site.trace = _
      rw [h]
      rfl
    · match later with
      | [] =>
        obtain ⟨same, rfl⟩ := List.cons.inj split
        cases same
        exact ⟨_, [], rfl, fulfils⟩
      | [_] =>
        obtain ⟨-, same⟩ := List.cons.inj split
        cases same
        cases fulfils
      | _ :: _ :: _ => simp at split
  have said : Founded ((enter d .success).after t) ((reportSuccess d).after t) := by
    have after : (reportSuccess d).after t = _ := after_success d "" t
    rw [after]
    split
    · exact of_noting ⟨_, cameUp_trace d "" _, fun _ hx => isSuccess_news hx⟩
    · exact refl _
  exact entered.trans said

variable (driver : Driver σ)

theorem inquiring (d : Device) : Inquiring driver d (Founded (σ := σ)) where
  address := of_calm (Calm.address driver d)
  read a requests := of_calm (Calm.read driver d a requests)
  failure := conclude (r := .failure) nofun
  violation := conclude (r := .violation) nofun

theorem readRaw (d : Device) (c : Command) : Within Founded (readRaw driver d c) := by
  have inquiring := inquiring driver d
  rw [readRaw_eq]
  refine .bind inquiring.findAddress fun found => ?_
  cases found with
  | error e => exact .pure _
  | ok a =>
    intro s
    rw [after_bind]
    let asked := onSite (Site.read driver d a c.requests)
    have read : Founded s (asked.after s) := inquiring.read a c.requests s
    cases answer : asked.result s with
    | error e =>
      exact read.trans (Within.bind (inquiring.driverFailed e) (fun _ => .pure _) _)
    | ok results =>
      unfold received
      dsimp only
      rw [after_ite]
      split
      · rename_i complete
        have trace : (asked.after s).site.trace =
            (s.site.now, .driver (.read d a c.requests (.ok results))) :: s.site.trace := by
          rw [← answer]
          rfl
        have counted : results.length = c.requests.length := by
          rw [complete, Command.size, Command.requests, List.length_map]
        rw [after_bind, after_bind, after_bind, after_pure]
        exact (success trace ⟨rfl, counted⟩).trans
          ((of_calm Calm.countRead _).trans (of_calm (Calm.touch d) _))
      · exact read.trans (Within.bind (inquiring.violated _) (fun _ => .pure _) _)

theorem read (d : Device) (c : Command) : Within Founded (Service.read driver d c) := by
  refine .bind (readRaw driver d c) fun outcome => ?_
  cases outcome with
  | error e => exact .pure _
  | ok results => exact .bind (of_calm (Calm.cook d c results)) fun _ => .pure _

theorem write (d : Device) (c : Command) (values : List Value) :
    Within Founded (write driver d c values) := by
  have inquiring := inquiring driver d
  refine .bind inquiring.findAddress fun found => ?_
  cases found with
  | error e => exact .pure _
  | ok a =>
    refine .bind (inquiring.merged a _) fun merged => ?_
    cases merged with
    | error e => exact .pure _
    | ok values =>
      intro s
      rw [after_bind]
      let asked := onSite (Site.write driver d a c.requests values)
      have wrote : Founded s (asked.after s) := of_calm (Calm.write driver d a c.requests values) s
      cases answer : asked.result s with
      | error e => exact wrote.trans (Within.bind (inquiring.driverFailed e) (fun _ => .pure _) _)
      | ok _ =>
        have trace : (asked.after s).site.trace =
            (s.site.now, .driver (.write d a c.requests values (.ok ()))) :: s.site.trace := by
          rw [← answer]
          rfl
        dsimp only
        rw [after_bind, after_bind, after_pure]
        exact (success trace rfl).trans (of_calm (Calm.touch d) _)

theorem sampleNow (number : Nat) (r : Sampler) (d : Device) (c : Command) :
    Within Founded (sampleNow driver number r d c) := by
  refine .bind (readRaw driver d c) fun outcome => ?_
  cases outcome with
  | error e => exact .pure _
  | ok results =>
    have published := of_silent (publishResults_silent (σ := σ) d c results)
    have remembered := of_calm (Calm.remember (σ := σ) number results)
    exact .ite (.ite (.bind remembered fun _ => published) (.pure _)) published

theorem vindicated (h : Founded s t) (ends : Ends d (some .success) s t) : Vindicated d s t := by
  obtain ⟨new, ht, founded⟩ := h
  obtain ⟨u, reason, ⟨-, ⟨before, hu, -⟩, -⟩, ⟨-, ⟨after, hafter, -⟩, -⟩⟩ := ends
  rw [conclude_trace, hu, ← List.append_assoc] at hafter
  generalize after ++ _ = later at hafter
  rw [hafter, ← List.cons_append, ← List.append_assoc] at ht
  obtain ⟨answer, older, rfl, fulfils⟩ := founded _ _ _ _ (List.append_cancel_right ht).symm
  exact ⟨later, u.site.now, answer, older, hafter, fulfils⟩

end Founded

/-- Nothing vindicates a device that gave no answer that was asked for. -/
theorem not_vindicated (h : Noting (¬ ·.Fulfils d) s t) : ¬ Vindicated d s t := by
  rintro ⟨later, time, answer, older, ht, fulfils⟩
  obtain ⟨new, hnew, unfulfilled⟩ := h
  rw [hnew, ← List.cons_append, ← List.cons_append, ← List.append_assoc] at ht
  refine unfulfilled answer ?_ fulfils
  rw [List.append_cancel_right ht]
  simp

/-! ## The end of work -/

variable (driver : Driver σ)

/-- A probe, and the driver's answer to it has not one result for each request. -/
def Errand.Miscounts (s : Service σ) : Errand → Prop
  | .probe _ _ d c => ∃ results,
      (ask driver d c.requests).result s = .ok results ∧ results.length ≠ c.size
  | _ => False

instance Errand.decidableMiscounts (s : Service σ) : (e : Errand) → Decidable (e.Miscounts driver s)
  | .probe _ _ d c =>
    match answer : (ask driver d c.requests).result s with
    | .ok results => decidable_of_iff (results.length ≠ c.size) (by simp [Miscounts, answer])
    | .error _ => isFalse (by simp [Miscounts, answer])
  | .get .. | .put .. | .sample .. => isFalse id

/-- An answer is on record last, after the address was made if need be. -/
theorem asked_of_ok {requests : List Request} {results : List Result}
    (h : (ask driver d requests).result s = .ok results) :
    let u := (onSite (Site.address driver d)).after s
    ∃ a, ((ask driver d requests).after s).site.trace =
      (u.site.now, .driver (.read d a requests (.ok results))) :: u.site.trace := by
  intro u
  unfold ask at *
  rw [result_bind] at h
  rw [after_bind]
  cases made : (onSite (Site.address driver d)).result s with
  | error e =>
    rw [made] at h
    cases h
  | ok a =>
    rw [made] at h
    dsimp only at h ⊢
    rw [← h]
    exact ⟨a, rfl⟩

/-- A probe that gets an answer ends, whatever the answer. -/
theorem after_finish_ok {timer fired : Nat} {c : Command} {results : List Result}
    (h : (ask driver d c.requests).result s = .ok results) :
    (finish driver (.probe timer fired d c)).after s =
      (settleTimer timer fired .retire).after
        ((reportSuccess d).after ((ask driver d c.requests).after s)) := by
  unfold finish endProbe
  rw [after_bind, after_bind, h]
  dsimp only
  rw [after_bind, result_bind, after_pure, result_pure]

/-- One that gets none waits again. -/
theorem after_finish_error {timer fired : Nat} {c : Command} {e : DriverError}
    (h : (ask driver d c.requests).result s = .error e) :
    (finish driver (.probe timer fired d c)).after s =
      (settleTimer timer fired .again).after ((ask driver d c.requests).after s) := by
  unfold finish endProbe
  rw [after_bind, after_bind, h]
  rfl

/-- Work ends with a success right after what was asked for was answered, unless a probe
miscounts. -/
theorem finish_founded {e : Errand} (h : ¬ e.Miscounts driver s) :
    Founded s ((finish driver e).after s) := by
  cases e with
  | get d c => exact Founded.read driver d c s
  | put d c values => exact Founded.write driver d c values s
  | probe timer fired d c =>
    cases answer : (ask driver d c.requests).result s with
    | error e =>
      rw [after_finish_error driver answer]
      exact Founded.of_silent (.bind (ask_silent driver d c.requests) fun _ =>
        settleTimer_silent timer fired .again) s
    | ok results =>
      have complete : results.length = c.requests.length := by
        by_contra miscounted
        rw [Command.requests, List.length_map] at miscounted
        exact h ⟨results, answer, miscounted⟩
      obtain ⟨a, trace⟩ := asked_of_ok driver answer
      rw [after_finish_ok driver answer]
      exact ((Founded.of_calm (Calm.address driver d) s).trans
        (Founded.success trace ⟨rfl, complete⟩)).trans
          (Founded.of_silent (settleTimer_silent timer fired .retire) _)
  | sample timer fired number r d c =>
    exact (Founded.sampleNow driver number r d c s).trans
      (Founded.of_silent (settleTimer_silent timer fired .again) _)

/-- A probe that miscounts reports a success, and nothing that was asked for was answered. -/
theorem finish_unfulfilled {e : Errand} (h : e.Miscounts driver s) :
    let t := (finish driver e).after s
    Ends e.device (some .success) s t ∧ ∀ d, Noting (¬ ·.Fulfils d) s t := by
  intro t
  cases e with
  | get | put | sample => cases h
  | probe timer fired d c =>
    obtain ⟨results, answer, miscounted⟩ := h
    have settled := settleTimer_silent (σ := σ) timer fired .retire
      ((reportSuccess d).after ((ask driver d c.requests).after s))
    have left : t = _ := after_finish_ok driver answer
    rw [left]
    refine ⟨.before (ask_silent driver d c.requests s) ((Ends.success d _).after settled),
      fun d' => ?_⟩
    obtain ⟨a, trace⟩ := asked_of_ok driver answer
    have made : Noting (¬ ·.Fulfils d') s ((onSite (Site.address driver d)).after s) :=
      makeAddress_noting driver d (fun _ => id) s
    have asked : Noting (¬ ·.Fulfils d') s ((ask driver d c.requests).after s) :=
      made.trans (.one trace fun fulfils => miscounted <| by
        simpa [Command.requests, Command.size] using fulfils.2)
    have said : Within (Noting (¬ ·.Fulfils d')) (reportSuccess (σ := σ) d) := fun u =>
      (reportSuccess_quiet d u).mono fun e quiet => by
        cases e with
        | driver e => cases quiet
        | _ => exact id
    have kept : Within (Noting (¬ ·.Fulfils d')) (settleTimer (σ := σ) timer fired .retire) :=
      settleTimer_within timer fired .retire (fun _ => .of_eq rfl) fun _ _ => .of_eq rfl
    exact (asked.trans (said _)).trans (kept _)

end Service

end FieldGateway
