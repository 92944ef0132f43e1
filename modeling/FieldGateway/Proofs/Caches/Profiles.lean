import FieldGateway.Proofs.Caches.Elsewhere
import FieldGateway.Proofs.Commands.Listed
import FieldGateway.Proofs.Commands.Parsed

/-
  The commands of a profile are made once. Either nobody asked for them and no attributes of the
  profile were parsed, or they are kept as they were made then: the attributes that they needed
  were parsed at that moment in one go, and neither before nor after (`ParsedOnce`).
  `ProfileLedger` says so of every profile that was ever registered, on record still or not; the
  ghost list of those profiles tells which of them has a serial.
-/

namespace FieldGateway

/-- The serial of the profile for whose commands attributes were parsed. -/
def Effect.parsed? : Effect → Option Nat
  | .driver (.parse r _) => some r.serial
  | _ => none

theorem Effect.parsed?_of_isElsewhere {e : Effect} (h : e.isElsewhere = true) :
    e.parsed? = none := by
  cases e with
  | driver x => cases x <;> first | rfl | cases h
  | _ => rfl

/-- What the driver makes of attributes; a failure is nothing. -/
def Driver.parser {σ : Type} (driver : Driver σ) (state : σ) : Index.Parse :=
  fun resource attributes => (driver.parseAttributes state resource attributes).toOption

namespace Site

variable {σ : Type} {driver : Driver σ} {r : Registration} {s : Site σ}

theorem index_kept {i : Index} (h : (s.indexes.get? r.serial).join = some i) :
    index driver r s = (i, s) := by
  unfold index
  rw [h]

theorem index_made (h : (s.indexes.get? r.serial).join = none) :
    let i := Index.build (driver.parser s.driverState) r.profile
    index driver r s = (i,
      { s with
        indexes := s.indexes.modify r.serial fun _ => some i
        trace := (i.parsed.map fun x => (s.now, .driver (.parse r x))).reverse ++ s.trace }) := by
  unfold index
  rw [h]
  dsimp only
  rw [foldl_note _ (fun x => .driver (.parse r x))]
  rfl

end Site

namespace Service

open FieldGateway.Action

variable {σ : Type} {driver : Driver σ} {s t : Service σ} {r : Registration} {ps : List Profile}

/-- No attributes of the profile with this serial were parsed. -/
def Unparsed (serial : Nat) (trace : List (Nat × Effect)) : Prop :=
  ∀ x ∈ trace, x.2.parsed? ≠ some serial

theorem Unparsed.append {serial : Nat} {new old : List (Nat × Effect)} (h : Unparsed serial new)
    (h' : Unparsed serial old) : Unparsed serial (new ++ old) :=
  fun x hx => (List.mem_append.1 hx).elim (h x) (h' x)

theorem Unparsed.parsings {serial : Nat} (h : r.serial ≠ serial) (now : Nat)
    (names : List String) :
    Unparsed serial (names.map fun x => (now, .driver (.parse r x))).reverse := by
  intro x hx
  obtain ⟨name, -, rfl⟩ := List.mem_map.1 (List.mem_reverse.1 hx)
  exact fun same => h (Option.some.inj same)

variable (driver) in
/-- The commands of the profile were made at one moment and are kept, with what failed then. Each
resource they needed was parsed then, once, whatever came of it, and none was at any other time. -/
inductive ParsedOnce (s : Service σ) (r : Registration) : Prop
  | intro {state : σ} {i : Index} {now : Nat} {newer older : List (Nat × Effect)}
      (made : i = Index.build (driver.parser state) r.profile)
      (kept : s.made? r = some i)
      (resources : ∀ name ∈ i.parsed, ∃ x ∈ r.profile.resources, x.name = name)
      (distinct : i.parsed.Nodup)
      (trace : s.site.trace =
        newer ++ ((i.parsed.map fun x => (now, .driver (.parse r x))).reverse ++ older))
      (later : Unparsed r.serial newer) (earlier : Unparsed r.serial older)

theorem ParsedOnce.onward (h : ParsedOnce driver s r) {new : List (Nat × Effect)}
    (trace : t.site.trace = new ++ s.site.trace) (others : Unparsed r.serial new)
    (same : t.made? r = s.made? r) : ParsedOnce driver t r := by
  obtain ⟨made, kept, resources, distinct, before, later, earlier⟩ := h
  rw [before, ← List.append_assoc] at trace
  exact ⟨made, same.trans kept, resources, distinct, trace, others.append later, earlier⟩

/-- The commands are made now, and nothing was parsed for them before. -/
theorem ParsedOnce.now (unmade : s.made? r = none) (placed : r.serial < s.site.indexes.next)
    (sound : r.profile.flaw? = none) (unparsed : Unparsed r.serial s.site.trace) :
    ParsedOnce driver ((onSite (Site.index driver r)).after s) r := by
  rw [after_onSite, Site.index_made unmade]
  refine .intro rfl ?_ (fun _ => Index.resource_of_parsed) (Index.nodup_parsed _ sound)
    (List.nil_append _).symm (List.forall_mem_nil _) unparsed
  rw [made?, Numbered.get?_modify, if_pos rfl]
  cases known : s.site.indexes.get? r.serial with
  | none =>
    rw [Site.get?_eq_none_iff] at known
    exact absurd placed (Nat.not_lt.2 known)
  | some x => rfl

variable (driver) in
/-- The commands of every profile that was ever registered were made once at most. The profiles are
listed by serial. -/
structure ProfileLedger (ps : List Profile) (s : Service σ) : Prop where
  length_eq : ps.length = s.site.indexes.next
  sound : ∀ p ∈ ps, p.flaw? = none
  onRecord {r : Registration} : s.OnRecord r → ps[r.serial]? = some r.profile
  parsed {r : Registration} : ps[r.serial]? = some r.profile →
    s.made? r = none ∧ Unparsed r.serial s.site.trace ∨ ParsedOnce driver s r
  beyond {serial : Nat} : ps.length ≤ serial → Unparsed serial s.site.trace

namespace ProfileLedger

theorem of_fresh (h : Fresh s) : ProfileLedger driver [] s where
  length_eq := by
    rw [h.indexes]
    rfl
  sound := List.forall_mem_nil _
  onRecord hr := absurd ((Listed.of_fresh h).placed hr) (by
    rw [h.indexes]
    exact Nat.not_lt_zero _)
  parsed hr := by cases hr
  beyond _ := by
    rw [h.trace]
    exact List.forall_mem_nil _

/-- Nothing is parsed, no commands are made, and only profiles that are listed are on record. -/
theorem onward (h : ProfileLedger driver ps s)
    (records : ∀ {r}, t.OnRecord r → ps[r.serial]? = some r.profile)
    (indexes : t.site.indexes = s.site.indexes) (noting : Noting (·.parsed? = none) s t) :
    ProfileLedger driver ps t := by
  obtain ⟨new, trace, others⟩ := noting
  have unparsed (serial : Nat) : Unparsed serial new := fun x hx => by
    rw [others x hx]
    nofun
  have made (r : Registration) : t.made? r = s.made? r := by rw [made?, indexes, made?]
  refine ⟨by rw [indexes, h.length_eq], h.sound, records, fun {r} hr => ?_, fun hn => ?_⟩
  · rcases h.parsed hr with ⟨unmade, never⟩ | once
    · refine .inl ⟨(made r).trans unmade, ?_⟩
      rw [trace]
      exact (unparsed _).append never
    · exact .inr (once.onward trace (unparsed _) (made r))
  · rw [trace]
    exact (unparsed _).append (h.beyond hn)

theorem elsewhere (h : ProfileLedger driver ps s) (other : Elsewhere s t) :
    ProfileLedger driver ps t :=
  h.onward (fun hr => h.onRecord (hr.congr other.registry)) other.indexes
    (other.noting.mono fun _ => Effect.parsed?_of_isElsewhere)

/-- The commands of a profile that is listed are looked up, and made if there are none yet. -/
theorem index (h : ProfileLedger driver ps s) (hr : ps[r.serial]? = some r.profile) :
    ProfileLedger driver ps ((onSite (Site.index driver r)).after s) := by
  cases before : s.made? r with
  | some i =>
    rw [after_onSite, Site.index_kept before]
    exact h
  | none =>
    have placed : r.serial < ps.length := (List.getElem?_eq_some_iff.1 hr).1
    have unparsed : Unparsed r.serial s.site.trace := by
      rcases h.parsed hr with ⟨-, never⟩ | ⟨-, kept, -⟩
      · exact never
      · rw [before] at kept
        cases kept
    have once : ParsedOnce driver ((onSite (Site.index driver r)).after s) r :=
      .now before (Nat.lt_of_lt_of_eq placed h.length_eq) (h.sound _ (List.mem_of_getElem? hr))
        unparsed
    rw [after_onSite, Site.index_made before] at once ⊢
    generalize Index.build (driver.parser s.site.driverState) r.profile = i at once ⊢
    refine ⟨?_, h.sound, fun hr' => h.onRecord hr', fun {r'} hr' => ?_, fun hn => ?_⟩
    · exact h.length_eq.trans (Numbered.next_modify _ _ _).symm
    · by_cases serial : r.serial = r'.serial
      · obtain ⟨number, p⟩ := r'
        obtain rfl : r.serial = number := serial
        obtain rfl : r.profile = p := Option.some.inj (hr.symm.trans hr')
        exact .inr once
      · have same : (s.site.indexes.modify r.serial fun _ => some i).get? r'.serial =
            s.site.indexes.get? r'.serial := by
          rw [Numbered.get?_modify, if_neg serial]
        have others := Unparsed.parsings serial s.site.now i.parsed
        rcases h.parsed hr' with ⟨unmade, never⟩ | once
        · exact .inl ⟨(congrArg Option.join same).trans unmade, others.append never⟩
        · exact .inr (once.onward rfl others (congrArg Option.join same))
    · have apart := Nat.ne_of_lt (Nat.lt_of_lt_of_le placed hn)
      exact (Unparsed.parsings apart s.site.now i.parsed).append (h.beyond hn)

/-- A profile is registered under the next serial. -/
theorem added (h : ProfileLedger driver ps s) {p : Profile} (sound : p.flaw? = none)
    (records : ∀ {r}, t.OnRecord r → s.OnRecord r ∨ r = ⟨s.site.indexes.next, p⟩)
    (indexes : t.site.indexes = s.site.indexes.add none)
    (trace : t.site.trace = s.site.trace) : ProfileLedger driver (ps ++ [p]) t := by
  refine ⟨?_, ?_, fun {r} hr => ?_, fun {r} hr => ?_, fun {serial} hn => ?_⟩
  · rw [indexes, Numbered.next_add, List.length_append, h.length_eq, List.length_singleton]
  · exact List.forall_mem_append.2 ⟨h.sound, by simpa using sound⟩
  · rcases records hr with hr | rfl
    · exact getElem?_of_isPrefix (List.prefix_append _ _) (h.onRecord hr)
    · rw [← h.length_eq, List.getElem?_concat_length]
  · have made : t.made? r = if r.serial = s.site.indexes.next then none else s.made? r := by
      rw [made?, indexes, Numbered.get?_add]
      split <;> rfl
    rcases getElem?_of_concat hr with ⟨before, hr⟩ | ⟨new, -⟩
    · rw [if_neg (Nat.ne_of_lt (Nat.lt_of_lt_of_eq before h.length_eq))] at made
      rcases h.parsed hr with ⟨unmade, never⟩ | once
      · exact .inl ⟨made.trans unmade, trace ▸ never⟩
      · exact .inr (once.onward (trace.trans (List.nil_append _).symm) (List.forall_mem_nil _) made)
    · rw [if_pos (new.trans h.length_eq)] at made
      exact .inl ⟨made, trace ▸ h.beyond (Nat.le_of_eq new.symm)⟩
  · rw [trace]
    exact h.beyond (by
      rw [List.length_append, List.length_singleton] at hn
      omega)

/-- Whatever attributes of a profile were parsed were parsed once. -/
theorem once (h : ProfileLedger driver ps s) {time : Nat} {resource : String}
    (hx : (time, .driver (.parse r resource)) ∈ s.site.trace) : ParsedOnce driver s r := by
  obtain ⟨serial, profile⟩ := r
  cases listed : ps[serial]? with
  | none => exact absurd rfl (h.beyond (List.getElem?_eq_none_iff.1 listed) _ hx)
  | some p =>
    rcases h.parsed (r := ⟨serial, p⟩) listed with ⟨-, never⟩ | once
    · exact absurd rfl (never _ hx)
    · have parsed := once
      obtain ⟨-, -, -, -, trace, later, earlier⟩ := parsed
      rw [trace] at hx
      rcases List.mem_append.1 hx with hx | hx
      · exact absurd rfl (later _ hx)
      rcases List.mem_append.1 hx with hx | hx
      · obtain ⟨name, -, same⟩ := List.mem_map.1 (List.mem_reverse.1 hx)
        cases same
        exact once
      · exact absurd rfl (earlier _ hx)

end ProfileLedger

end Service

end FieldGateway
