import FieldGateway.Command.Basic
import Mathlib.Data.List.Forall2
import Mathlib.Data.List.Nodup

/-
  What the commands of a profile are. A profile offers every declared command, and every resource
  that no declared command stands in front of, in each direction it allows (`Profile.offers`). An
  offer holds if all its operations name resources whose attributes the driver can parse. The
  index has one command for each offer that holds, in this order, and nothing else
  (`Index.meaning_build`); that outcomes of parsing are on record while it is built does not show.
-/

namespace FieldGateway

/-! ## What a profile offers -/

/-- A name in a direction, and the operations that it stands for. -/
structure Offer where
  name : String
  direction : Direction
  operations : List Operation

/-- The same operations in every direction that is allowed. -/
def Offer.each (name : String) (operations : List Operation) (allowed : Direction → Bool) :
    List Offer :=
  ([Direction.get, .set].filter allowed).map fun d => ⟨name, d, operations⟩

/-- A resource by itself is one operation with its own default text. -/
def Resource.operation (r : Resource) : Operation :=
  { resource := r.name, defaultText := r.properties.defaultText }

namespace Profile

/-- A declared command has taken the name in this direction. -/
def Takes (p : Profile) (name : String) (d : Direction) : Prop :=
  ∃ c ∈ p.commands, c.name = name ∧ c.access.allows d = true

instance (p : Profile) (name : String) (d : Direction) : Decidable (p.Takes name d) :=
  inferInstanceAs (Decidable (∃ c ∈ p.commands, c.name = name ∧ c.access.allows d = true))

/-- The declared commands in their order, then the resources in theirs. -/
def offers (p : Profile) : List Offer :=
  (p.commands.flatMap fun c => Offer.each c.name c.operations c.access.allows) ++
  p.resources.flatMap fun r =>
    Offer.each r.name [r.operation] fun d => r.properties.access.allows d ∧ ¬p.Takes r.name d

end Profile

namespace Index

variable (parse : Parse) (p : Profile)

/-- Every operation is on a resource whose attributes can be parsed. -/
def Holds (o : Offer) : Prop :=
  ∀ op ∈ o.operations, ∃ r ∈ p.resources, r.name = op.resource ∧
    (parse r.name r.attributes).isSome = true

instance (o : Offer) : Decidable (Holds parse p o) :=
  inferInstanceAs (Decidable (∀ op ∈ o.operations, ∃ r ∈ p.resources, r.name = op.resource ∧
    (parse r.name r.attributes).isSome = true))

/-- The step does the operation on the resource. -/
structure Performs (op : Operation) (r : Resource) (step : Step) : Prop where
  resource : step.request.resource = op.resource
  attributes : parse r.name r.attributes = some step.request.attributes
  type : step.request.type = r.properties.type
  mask (bits : UInt64) : step.request.mask = some ⟨bits⟩ ↔
    r.properties.mask = some bits ∧ r.properties.type.isInteger = true
  properties : step.properties = r.properties
  mappings : step.mappings = op.mappings
  defaultText : step.defaultText = op.defaultText

/-- The command is what was offered, its steps the operations one by one. -/
structure Realizes (o : Offer) (c : Command) : Prop where
  name : c.name = o.name
  direction : c.direction = o.direction
  profileName : c.profileName = p.name
  steps : List.Forall₂
    (fun op step => ∃ r ∈ p.resources, r.name = op.resource ∧ Performs parse op r step)
    o.operations c.steps

/-- The index says what the profile offers, and its answers are these commands. -/
structure IsMeaning (i : Index) : Prop where
  realized : List.Forall₂ (Realizes parse p) (p.offers.filter (Holds parse p)) i.commands
  distinct : (i.commands.map fun c => (c.name, c.direction)).Nodup
  resolved (name : String) (d : Direction) (c : Command) :
    i.resolve? name d = some c ↔ c ∈ i.commands ∧ c.name = name ∧ c.direction = d
  known (name : String) : i.hasCommand name = true ↔ ∃ c ∈ i.commands, c.name = name
  probed : Option.Rel (Realizes parse p)
    ((p.offers.filter (Holds parse p)).find? fun o => o.direction = .get ∧ o.operations.length = 1)
    i.probe?

/-! ## Profiles without flaws -/

end Index

/-- Where keys are not repeated, what is found is what has the key. -/
theorem find?_eq_some_of_nodup {α κ : Type} {xs : List α} {key : α → κ} (nodup : (xs.map key).Nodup)
    {k : κ} {test : α → Bool} (tests : ∀ x, test x = true ↔ key x = k) {x : α} :
    xs.find? test = some x ↔ x ∈ xs ∧ key x = k := by
  constructor
  · intro found
    exact ⟨List.mem_of_find?_eq_some found, (tests x).1 (List.find?_some found)⟩
  · rintro ⟨hx, rfl⟩
    cases found : xs.find? test with
    | none => exact absurd ((tests x).2 rfl) (List.find?_eq_none.1 found x hx)
    | some y =>
      have same : key y = key x := (tests y).1 (List.find?_some found)
      rw [List.inj_on_of_nodup_map nodup (List.mem_of_find?_eq_some found) hx same]

theorem nodup_of_firstRepeated {xs seen : List String} (h : firstRepeated seen xs = none) :
    xs.Nodup ∧ ∀ x ∈ xs, x ∉ seen := by
  induction xs generalizing seen with
  | nil => exact ⟨.nil, nofun⟩
  | cons x xs ih =>
    unfold firstRepeated at h
    split at h
    · cases h
    · rename_i new
      rw [List.contains_iff_mem] at new
      obtain ⟨nodup, apart⟩ := ih h
      refine ⟨List.nodup_cons.2 ⟨fun hx => apart x hx List.mem_cons_self, nodup⟩, ?_⟩
      refine List.forall_mem_cons.2 ⟨new, fun y hy seen => ?_⟩
      exact apart y hy (List.mem_cons_of_mem _ seen)

namespace Profile

variable {p : Profile}

theorem nodup_of_flaw? (sound : p.flaw? = none) :
    (p.resources.map (·.name)).Nodup ∧ (p.commands.map (·.name)).Nodup := by
  unfold flaw? at sound
  split at sound
  · cases sound
  split at sound
  · cases sound
  · rename_i resources
    exact ⟨(nodup_of_firstRepeated resources).1,
      (nodup_of_firstRepeated (Option.map_eq_none_iff.1 sound)).1⟩

theorem resource?_eq_some_iff (nodup : (p.resources.map (·.name)).Nodup) {name : String}
    {r : Resource} : p.resource? name = some r ↔ r ∈ p.resources ∧ r.name = name :=
  find?_eq_some_of_nodup nodup fun _ => beq_iff_eq

end Profile

namespace Offer

/-- What no two offers have in common. -/
def key (o : Offer) : String × Direction := (o.name, o.direction)

theorem mem_each {name : String} {ops : List Operation} {allowed : Direction → Bool} {o : Offer} :
    o ∈ each name ops allowed ↔
      o.name = name ∧ o.operations = ops ∧ allowed o.direction = true := by
  simp only [each, List.mem_map, List.mem_filter]
  constructor
  · rintro ⟨d, ⟨-, ha⟩, rfl⟩
    exact ⟨rfl, rfl, ha⟩
  · rintro ⟨rfl, rfl, ha⟩
    refine ⟨o.direction, ⟨?_, ha⟩, rfl⟩
    cases o.direction <;> decide

theorem nodup_each (name : String) (ops : List Operation) (allowed : Direction → Bool) :
    ((each name ops allowed).map key).Nodup := by
  rw [each, List.map_map]
  exact List.Nodup.map (fun _ _ h => (Prod.mk.inj h).2) (List.Nodup.filter _ (by decide))

theorem nodup_flatMap_each {α : Type} {xs : List α} {name : α → String}
    (nodup : (xs.map name).Nodup) (ops : α → List Operation) (allowed : α → Direction → Bool) :
    ((xs.flatMap fun x => each (name x) (ops x) (allowed x)).map key).Nodup := by
  rw [List.map_flatMap, List.nodup_flatMap]
  refine ⟨fun x _ => nodup_each _ _ _, (List.pairwise_map.1 nodup).imp ?_⟩
  intro x y apart k hx hy
  obtain ⟨o, ho, rfl⟩ := List.mem_map.1 hx
  obtain ⟨o', ho', same⟩ := List.mem_map.1 hy
  have names : o'.name = o.name := (Prod.mk.inj same).1
  rw [(mem_each.1 ho).1, (mem_each.1 ho').1] at names
  exact apart names.symm

end Offer

namespace Profile

/-- A command that may be read and written, as declared or as a resource by itself. -/
inductive TwoWay (p : Profile) : String → List Operation → Prop
  | declared {c : Declaration} (h : c ∈ p.commands) (both : c.access = .readWrite) :
      p.TwoWay c.name c.operations
  | resource {r : Resource} (h : r ∈ p.resources) (both : r.properties.access = .readWrite)
      (alone : ∀ c ∈ p.commands, c.name ≠ r.name) : p.TwoWay r.name [r.operation]

theorem TwoWay.offered {p : Profile} {name : String} {ops : List Operation}
    (h : p.TwoWay name ops) (d : Direction) : ⟨name, d, ops⟩ ∈ p.offers := by
  rw [offers, List.mem_append]
  cases h with
  | declared h both =>
    refine .inl (List.mem_flatMap.2 ⟨_, h, Offer.mem_each.2 ⟨rfl, rfl, ?_⟩⟩)
    cases d <;> rw [both] <;> rfl
  | resource h both alone =>
    refine .inr (List.mem_flatMap.2 ⟨_, h, Offer.mem_each.2 ⟨rfl, rfl, ?_⟩⟩)
    rw [decide_eq_true_eq]
    refine ⟨?_, fun ⟨c, hc, name, _⟩ => alone c hc name⟩
    cases d <;> rw [both] <;> rfl

end Profile

/-- A resource is offered in no direction that a declared command has taken. -/
theorem Profile.nodup_offers {p : Profile} (sound : p.flaw? = none) :
    (p.offers.map Offer.key).Nodup := by
  obtain ⟨resources, commands⟩ := nodup_of_flaw? sound
  rw [offers, List.map_append, List.nodup_append]
  refine ⟨Offer.nodup_flatMap_each commands _ _, Offer.nodup_flatMap_each resources _ _, ?_⟩
  intro k hk k' hk' same
  obtain ⟨o, ho, rfl⟩ := List.mem_map.1 hk
  obtain ⟨o', ho', rfl⟩ := List.mem_map.1 hk'
  obtain ⟨c, hc, ho⟩ := List.mem_flatMap.1 ho
  obtain ⟨r, -, ho'⟩ := List.mem_flatMap.1 ho'
  obtain ⟨declared, -, allows⟩ := Offer.mem_each.1 ho
  obtain ⟨alone, -, free⟩ := Offer.mem_each.1 ho'
  obtain ⟨name, direction⟩ := Prod.mk.inj same
  rw [declared, alone] at name
  exact (of_decide_eq_true free).2 ⟨c, hc, name, direction ▸ allows⟩

/-! ## Outcomes on record -/

namespace Index

variable {parse : Parse} {p : Profile}

/-- Every outcome on record is what parsing the resource at its place comes to. -/
def Recorded (parse : Parse) (p : Profile) (past : Attempts) : Prop :=
  ∀ place outcome, past.lookup place = some outcome →
    ∃ r, p.resources[place]? = some r ∧ outcome = parse r.name r.attributes

/-- An outcome comes with the record as it is then. -/
structure Answers {α : Type} (parse : Parse) (p : Profile) (answer : α × Attempts) (outcome : α) :
    Prop where
  outcome : answer.1 = outcome
  recorded : Recorded parse p answer.2

/-- It does not show whether the outcome was on record. -/
theorem answers_attempt {past : Attempts} (recorded : Recorded parse p past) {place : Nat}
    {r : Resource} (at_place : p.resources[place]? = some r) :
    Answers parse p (attempt parse place r past) (parse r.name r.attributes) := by
  unfold attempt
  cases known : past.lookup place with
  | some outcome =>
    obtain ⟨r', hr', rfl⟩ := recorded place outcome known
    rw [at_place] at hr'
    cases hr'
    exact ⟨rfl, recorded⟩
  | none =>
    refine ⟨rfl, fun other outcome h => ?_⟩
    rw [List.lookup_append] at h
    cases before : past.lookup other with
    | some x =>
      rw [before, Option.some_or] at h
      exact recorded other outcome (before.trans h)
    | none =>
      rw [before, Option.none_or, List.lookup_cons, List.lookup_nil] at h
      split at h
      · rename_i same
        cases h
        exact ⟨r, beq_iff_eq.1 same ▸ at_place, rfl⟩
      · cases h

theorem locate?_eq (name : String) : (locate? p name).map Prod.fst = p.resource? name := by
  rw [locate?, Profile.resource?]
  conv => rhs; rw [← List.zipIdx_map_fst 0 p.resources]
  rw [List.find?_map]
  rfl

theorem at_place_of_locate? {name : String} {r : Resource} {place : Nat}
    (h : locate? p name = some (r, place)) : p.resources[place]? = some r :=
  List.mem_zipIdx_iff_getElem?.1 (List.mem_of_find?_eq_some h)

/-- The step of an operation, if its resource can be found and parsed. -/
def step? (parse : Parse) (p : Profile) (op : Operation) : Option Step := do
  let r ← p.resource? op.resource
  let attributes ← parse r.name r.attributes
  some (Step.of r attributes op.defaultText op.mappings)

theorem answers_stepsOf {past : Attempts} (recorded : Recorded parse p past)
    (ops : List Operation) :
    Answers parse p (stepsOf parse p ops past) (ops.mapM (step? parse p)) := by
  induction ops generalizing past with
  | nil => exact ⟨rfl, recorded⟩
  | cons op ops ih =>
    rw [stepsOf, List.mapM_cons, step?, ← locate?_eq]
    cases found : locate? p op.resource with
    | none => exact ⟨rfl, recorded⟩
    | some located =>
      obtain ⟨r, place⟩ := located
      have answered := answers_attempt recorded (at_place_of_locate? found)
      dsimp only [Option.map_some, Option.bind_eq_bind, Option.bind_some]
      rw [← answered.outcome]
      have recorded := answered.recorded
      generalize attempt parse place r past = answer at recorded
      obtain ⟨_ | attributes, past⟩ := answer
      · exact ⟨rfl, recorded⟩
      · obtain ⟨rest, recorded⟩ := ih recorded
        refine ⟨?_, recorded⟩
        dsimp only [Option.bind_some]
        rw [rest]
        cases ops.mapM (step? parse p) <;> rfl

/-- The command of an offer, if there is a step for every operation. -/
def command? (parse : Parse) (p : Profile) (o : Offer) : Option Command :=
  (o.operations.mapM (step? parse p)).map fun steps => ⟨o.name, o.direction, p.name, steps⟩

/-- A resource by itself is found under its own name. -/
theorem answers_ownSteps (nodup : (p.resources.map (·.name)).Nodup) {past : Attempts}
    (recorded : Recorded parse p past) {r : Resource} {place : Nat}
    (at_place : p.resources[place]? = some r) :
    Answers parse p (ownSteps parse r place past) ([r.operation].mapM (step? parse p)) := by
  obtain ⟨outcome, recorded⟩ := answers_attempt recorded at_place
  have found : p.resource? r.operation.resource = some r :=
    (Profile.resource?_eq_some_iff nodup).2 ⟨List.mem_of_getElem? at_place, rfl⟩
  refine ⟨?_, recorded⟩
  rw [ownSteps, List.mapM_cons, step?, found]
  dsimp only [Option.bind_eq_bind, Option.bind_some]
  rw [outcome]
  cases parse r.name r.attributes <;> rfl

/-! ## Building -/

/-- The commands of the offers were added, and the record is still right. -/
structure Grown (parse : Parse) (p : Profile) (s t : State) (offers : List Offer) : Prop where
  commands : t.commands = s.commands ++ offers.filterMap (command? parse p)
  recorded : Recorded parse p t.past

theorem grown_add {s : State} {o : Offer} {found : Option (List Step) × Attempts}
    (answers : Answers parse p found (o.operations.mapM (step? parse p))) :
    Grown parse p s (s.add p o.name o.direction found) [o] := by
  obtain ⟨outcome, recorded⟩ := answers
  obtain ⟨steps, past⟩ := found
  have command : command? parse p o = steps.map fun steps => ⟨o.name, o.direction, p.name, steps⟩ :=
    congrArg (Option.map _) outcome.symm
  refine ⟨?_, ?_⟩
  · rw [List.filterMap_cons, command]
    cases steps <;> simp [State.add]
  · cases steps <;> exact recorded

/-- What each element adds is added by all of them in their order. -/
theorem grown_foldl {α : Type} (xs : List α) {f : State → α → State} {offers : α → List Offer}
    (step : ∀ x ∈ xs, ∀ s, Recorded parse p s.past → Grown parse p s (f s x) (offers x))
    {s : State} (recorded : Recorded parse p s.past) :
    Grown parse p s (xs.foldl f s) (xs.flatMap offers) := by
  induction xs generalizing s with
  | nil => exact ⟨(List.append_nil _).symm, recorded⟩
  | cons x xs ih =>
    obtain ⟨first, recorded⟩ := step x List.mem_cons_self s recorded
    obtain ⟨rest, recorded⟩ := ih (fun x hx => step x (List.mem_cons_of_mem _ hx)) recorded
    refine ⟨?_, recorded⟩
    rw [List.foldl_cons, rest, first, List.flatMap_cons, List.filterMap_append, List.append_assoc]

/-- One command after another, in the directions that are allowed. -/
theorem grown_directions {name : String} {ops : List Operation} {allowed : Direction → Bool}
    (find : Attempts → Option (List Step) × Attempts)
    (answers : ∀ past, Recorded parse p past →
      Answers parse p (find past) (ops.mapM (step? parse p)))
    {s : State} (recorded : Recorded parse p s.past) :
    Grown parse p s
      ((directions.filter allowed).foldl (fun s d => s.add p name d (find s.past)) s)
      (Offer.each name ops allowed) := by
  rw [Offer.each, List.map_eq_flatMap]
  exact grown_foldl _
    (fun d _ s recorded => grown_add (o := ⟨name, d, ops⟩) (answers s.past recorded)) recorded

theorem declares_eq (name : String) (d : Direction) :
    declares p name d = decide (p.Takes name d) := by
  rw [Bool.eq_iff_iff, decide_eq_true_iff]
  simp [declares, Profile.Takes]

theorem grown_declaration (c : Declaration) {s : State} (recorded : Recorded parse p s.past) :
    Grown parse p s (addDeclaration parse p s c)
      (Offer.each c.name c.operations c.access.allows) :=
  grown_directions (stepsOf parse p c.operations)
    (fun _ recorded => answers_stepsOf recorded c.operations) recorded

theorem grown_resource (nodup : (p.resources.map (·.name)).Nodup) {r : Resource} {place : Nat}
    (at_place : p.resources[place]? = some r) {s : State} (recorded : Recorded parse p s.past) :
    Grown parse p s (addResource parse p s (r, place))
      (Offer.each r.name [r.operation] fun d =>
        r.properties.access.allows d ∧ ¬p.Takes r.name d) := by
  have allowed : (fun d => decide (r.properties.access.allows d = true ∧ ¬p.Takes r.name d)) =
      fun d => r.properties.access.allows d && !declares p r.name d := by
    funext d
    simp [declares_eq]
  rw [allowed]
  exact grown_directions (ownSteps parse r place)
    (fun _ recorded => answers_ownSteps nodup recorded at_place) recorded

/-- Declarations first, then the resources with their places. -/
theorem commands_build (sound : p.flaw? = none) :
    (build parse p).commands = p.offers.filterMap (command? parse p) := by
  have nodup := (Profile.nodup_of_flaw? sound).1
  have nothing : Recorded parse p (State.mk [] []).past := nofun
  have declared := grown_foldl p.commands
    (fun c _ _ recorded => grown_declaration c recorded) nothing
  have all := grown_foldl p.resources.zipIdx
    (fun r hr _ recorded => grown_resource nodup (List.mem_zipIdx_iff_getElem?.1 hr) recorded)
    declared.recorded
  have resources := List.flatMap_map (g := fun r : Resource => Offer.each r.name [r.operation]
    fun d => r.properties.access.allows d ∧ ¬p.Takes r.name d) Prod.fst p.resources.zipIdx
  rw [List.zipIdx_map_fst] at resources
  rw [Profile.offers, List.filterMap_append, resources]
  exact all.commands.trans (congrArg (· ++ _) declared.commands)

/-! ## Meaning -/

theorem usableMask_eq_some_iff {props : Properties} {bits : UInt64} :
    props.usableMask = some ⟨bits⟩ ↔ props.mask = some bits ∧ props.type.isInteger = true := by
  unfold Properties.usableMask
  cases props.type.isInteger <;> simp

theorem performs_of_step? {op : Operation} {step : Step} (h : step? parse p op = some step) :
    ∃ r ∈ p.resources, r.name = op.resource ∧ Performs parse op r step := by
  obtain ⟨r, found, h⟩ := Option.bind_eq_some_iff.1 h
  obtain ⟨attributes, parsed, h⟩ := Option.bind_eq_some_iff.1 h
  cases h
  have name : r.name = op.resource := beq_iff_eq.1 (List.find?_some found :)
  refine ⟨r, List.mem_of_find?_eq_some found, name, ?_⟩
  exact ⟨name, parsed, rfl, fun _ => usableMask_eq_some_iff, rfl, rfl, rfl⟩

theorem isSome_step?_iff (nodup : (p.resources.map (·.name)).Nodup) {op : Operation} :
    (step? parse p op).isSome = true ↔
      ∃ r ∈ p.resources, r.name = op.resource ∧ (parse r.name r.attributes).isSome = true := by
  constructor
  · intro h
    obtain ⟨step, h⟩ := Option.isSome_iff_exists.1 h
    obtain ⟨r, hr, name, performs⟩ := performs_of_step? h
    exact ⟨r, hr, name, performs.attributes ▸ rfl⟩
  · rintro ⟨r, hr, name, parsed⟩
    have found : p.resource? op.resource = some r :=
      (Profile.resource?_eq_some_iff nodup).2 ⟨hr, name⟩
    obtain ⟨attributes, parsed⟩ := Option.isSome_iff_exists.1 parsed
    simp [step?, found, parsed]

theorem isSome_mapM {α β : Type} (f : α → Option β) (xs : List α) :
    (xs.mapM f).isSome = xs.all fun x => (f x).isSome := by
  induction xs with
  | nil => rfl
  | cons x xs ih =>
    rw [List.mapM_cons, List.all_cons, ← ih]
    cases f x with
    | none => rfl
    | some y => cases xs.mapM f <;> rfl

theorem forall₂_of_mapM {α β : Type} {f : α → Option β} {xs : List α} {ys : List β}
    (h : xs.mapM f = some ys) : List.Forall₂ (fun x y => f x = some y) xs ys := by
  induction xs generalizing ys with
  | nil =>
    cases h
    exact .nil
  | cons x xs ih =>
    rw [List.mapM_cons] at h
    obtain ⟨y, first, h⟩ := Option.bind_eq_some_iff.1 h
    obtain ⟨rest, others, h⟩ := Option.bind_eq_some_iff.1 h
    cases h
    exact .cons first (ih others)

theorem isSome_command?_iff (nodup : (p.resources.map (·.name)).Nodup) {o : Offer} :
    (command? parse p o).isSome = true ↔ Holds parse p o := by
  rw [command?, Option.isSome_map, isSome_mapM, List.all_eq_true]
  exact forall₂_congr fun op _ => isSome_step?_iff nodup

theorem realizes_of_command? {o : Offer} {c : Command} (h : command? parse p o = some c) :
    Realizes parse p o c := by
  obtain ⟨steps, found, h⟩ := Option.map_eq_some_iff.1 h
  cases h
  exact ⟨rfl, rfl, rfl, (forall₂_of_mapM found).imp fun _ _ => performs_of_step?⟩

/-- What is made of each element that something is made of. -/
theorem forall₂_filterMap {α β : Type} {R : α → β → Prop} {f : α → Option β} {test : α → Bool}
    (tests : ∀ x, (f x).isSome = test x) (rel : ∀ x y, f x = some y → R x y) (xs : List α) :
    List.Forall₂ R (xs.filter test) (xs.filterMap f) := by
  induction xs with
  | nil => exact .nil
  | cons x xs ih =>
    rw [List.filter_cons, List.filterMap_cons, ← tests x]
    cases made : f x with
    | none => exact ih
    | some y => exact .cons (rel x y made) ih

/-- Tests that agree find elements that belong together. -/
theorem rel_find? {α β : Type} {R : α → β → Prop} {xs : List α} {ys : List β}
    (h : List.Forall₂ R xs ys) {f : α → Bool} {g : β → Bool} (tests : ∀ x y, R x y → f x = g y) :
    Option.Rel R (xs.find? f) (ys.find? g) := by
  induction h with
  | nil => exact .none
  | cons hxy _ ih =>
    rw [List.find?_cons, List.find?_cons, tests _ _ hxy]
    split
    · exact .some hxy
    · exact ih

theorem exists_of_forall₂ {α β : Type} {R : α → β → Prop} {xs : List α} {ys : List β}
    (h : List.Forall₂ R xs ys) {y : β} (hy : y ∈ ys) : ∃ x ∈ xs, R x y := by
  induction h with
  | nil => cases hy
  | cons hxy _ ih =>
    rcases List.mem_cons.1 hy with rfl | hy
    · exact ⟨_, List.mem_cons_self, hxy⟩
    · obtain ⟨x, hx, hxy⟩ := ih hy
      exact ⟨x, List.mem_cons_of_mem _ hx, hxy⟩

/-- What an offer resolves to was made of it, as no other offer has its name and direction. -/
theorem command?_of_resolve? (sound : p.flaw? = none) {o : Offer} (ho : o ∈ p.offers) {c : Command}
    (h : (build parse p).resolve? o.name o.direction = some c) : command? parse p o = some c := by
  have hc : c ∈ p.offers.filterMap (command? parse p) := by
    rw [← commands_build sound]
    exact List.mem_of_find?_eq_some h
  obtain ⟨o', ho', made⟩ := List.mem_filterMap.1 hc
  have realizes := realizes_of_command? made
  have key : c.name = o.name ∧ c.direction = o.direction := by simpa using List.find?_some h
  have same : o'.key = o.key := by
    rw [Offer.key, ← realizes.name, ← realizes.direction, key.1, key.2, Offer.key]
  rw [← List.inj_on_of_nodup_map (p.nodup_offers sound) ho' ho same]
  exact made

/-- Whatever the driver makes of the attributes, the index of a profile that can be registered
says what the profile offers. -/
theorem meaning_build (parse : Parse) {p : Profile} (sound : p.flaw? = none) :
    IsMeaning parse p (build parse p) := by
  have nodup := (Profile.nodup_of_flaw? sound).1
  have realized : List.Forall₂ (Realizes parse p) (p.offers.filter (Holds parse p))
      (build parse p).commands := by
    rw [commands_build sound]
    refine forall₂_filterMap (fun o => ?_) (fun _ _ => realizes_of_command?) p.offers
    rw [Bool.eq_iff_iff, isSome_command?_iff nodup, decide_eq_true_iff]
  have distinct : ((build parse p).commands.map fun c => (c.name, c.direction)).Nodup := by
    have keys := List.forall₂_map_left_iff.2 (List.forall₂_map_right_iff.2
      (realized.imp fun o c h => (congrArg₂ Prod.mk h.name h.direction).symm))
    rw [List.forall₂_eq_eq_eq] at keys
    rw [← keys]
    exact (p.nodup_offers sound).sublist (List.filter_sublist.map Offer.key)
  constructor
  case realized => exact realized
  case distinct => exact distinct
  case resolved =>
    intro name d c
    rw [← Prod.mk.injEq]
    exact find?_eq_some_of_nodup distinct (by simp)
  case known => simp [hasCommand]
  case probed =>
    refine rel_find? realized fun o c h => ?_
    rw [Bool.eq_iff_iff]
    simp [Command.size, h.direction, h.steps.length_eq]

/-- The driver fails on one resource, and a declared command that names no resource is dropped and
still stands in front of the resource of its name. -/
theorem meaning_of_dropped :
    let resource (name : String) (type : ValueType) : Resource :=
      { name, properties := { type, mask := some 15, defaultText := some "5" } }
    let p : Profile :=
      { name := "pump"
        resources := [resource "Level" (.scalar (.int .int16)), resource "State" .object,
          resource "All" (.scalar .string)]
        commands := [
          { name := "All", access := .read, operations := [⟨"Level", none, ∅⟩, ⟨"Gone", none, ∅⟩] },
          { name := "Both", operations := [⟨"All", some "off", ∅⟩, ⟨"Level", none, ∅⟩] },
          { name := "Reset", access := .write, operations := [⟨"State", none, ∅⟩] }] }
    let parse : Parse := fun name attributes => if name = "State" then none else some attributes
    p.flaw? = none ∧ IsMeaning parse p (build parse p) ∧
      (build parse p).commands.map (fun c => (c.name, c.direction)) =
        [("Both", .get), ("Both", .set), ("Level", .get), ("Level", .set), ("All", .set)] ∧
      (build parse p).commands.map (fun c => c.steps.map fun s => (s.request.mask, s.defaultText)) =
        [[(none, some "off"), (some ⟨15⟩, none)], [(none, some "off"), (some ⟨15⟩, none)],
          [(some ⟨15⟩, some "5")], [(some ⟨15⟩, some "5")], [(none, some "5")]] := by
  intro resource p parse
  have sound : p.flaw? = none := by decide
  exact ⟨sound, meaning_build parse sound, by decide, by decide⟩

end Index

end FieldGateway
