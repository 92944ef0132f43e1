import FieldGateway.Proofs.Commands.Index

/-
  Whose attributes are parsed while an index is built. An outcome goes on record under the place of
  its resource, whether it is a failure or not, and a place that is on record is not tried again
  (`Sparing`). So of a profile that can be registered no resource is parsed twice (`nodup_parsed`),
  however many commands it is part of.
-/

namespace FieldGateway.Index

variable {parse : Parse} {p : Profile}

/-- No place has two outcomes on record. -/
def Sparing (past : Attempts) : Prop := (past.map Prod.fst).Nodup

variable (parse) in
theorem sparing_attempt {past : Attempts} (h : Sparing past) (place : Nat) (r : Resource) :
    Sparing (attempt parse place r past).2 := by
  unfold attempt
  cases known : past.lookup place with
  | some outcome => exact h
  | none =>
    rw [List.lookup_eq_none_iff] at known
    rw [Sparing, List.map_append, List.map_singleton]
    refine h.append (List.nodup_singleton _) (List.disjoint_singleton.2 fun again => ?_)
    obtain ⟨tried, htried, same⟩ := List.mem_map.1 again
    exact absurd same.symm (bne_iff_ne.1 (known tried htried))

theorem sparing_stepsOf {past : Attempts} (h : Sparing past) (ops : List Operation) :
    Sparing (stepsOf parse p ops past).2 := by
  induction ops generalizing past with
  | nil => exact h
  | cons op ops ih =>
    unfold stepsOf
    cases locate? p op.resource with
    | none => exact h
    | some located =>
      have tried := sparing_attempt parse h located.2 located.1
      dsimp only
      generalize attempt parse located.2 located.1 past = answer at tried
      obtain ⟨_ | attributes, past⟩ := answer
      · exact tried
      · exact ih tried

theorem sparing_ownSteps {past : Attempts} (h : Sparing past) (r : Resource) (place : Nat) :
    Sparing (ownSteps parse r place past).2 :=
  sparing_attempt parse h place r

theorem sparing_add {found : Option (List Step) × Attempts} (h : Sparing found.2) (s : State)
    (name : String) (d : Direction) : Sparing (s.add p name d found).past := by
  obtain ⟨_ | steps, past⟩ := found <;> exact h

theorem sparing_addDeclaration {s : State} (h : Sparing s.past) (c : Declaration) :
    Sparing (addDeclaration parse p s c).past :=
  List.foldlRecOn _ _ (motive := fun s : State => Sparing s.past) h
    fun s h d _ => sparing_add (sparing_stepsOf h c.operations) s c.name d

theorem sparing_addResource {s : State} (h : Sparing s.past) (r : Resource × Nat) :
    Sparing (addResource parse p s r).past :=
  List.foldlRecOn _ _ (motive := fun s : State => Sparing s.past) h
    fun s h d _ => sparing_add (sparing_ownSteps h r.1 r.2) s r.1.name d

/-- Different places are different names, if no name is repeated. -/
theorem Sparing.nodup_names {past : Attempts} (h : Sparing past)
    (names : (p.resources.map (·.name)).Nodup) :
    (past.filterMap fun a => p.resources[a.1]?.map (·.name)).Nodup := by
  have inj (i j : Nat) (name : String) (hi : name ∈ (p.resources.map (·.name))[i]?)
      (hj : name ∈ (p.resources.map (·.name))[j]?) : i = j := by
    obtain ⟨hi, rfl⟩ := List.getElem?_eq_some_iff.1 hi
    obtain ⟨hj, same⟩ := List.getElem?_eq_some_iff.1 hj
    exact (names.getElem_inj_iff.1 same).symm
  have mapped := List.Nodup.filterMap inj h
  rw [List.filterMap_map] at mapped
  have same : (fun a : Nat × Option Json => p.resources[a.1]?.map (·.name)) =
      ((p.resources.map (·.name))[·]?) ∘ Prod.fst :=
    funext fun _ => List.getElem?_map.symm
  rw [same]
  exact mapped

/-- Whatever the driver makes of them, the attributes of a resource are parsed once at most. -/
theorem nodup_parsed (parse : Parse) (sound : p.flaw? = none) : (build parse p).parsed.Nodup := by
  have declared : Sparing (p.commands.foldl (addDeclaration parse p) ⟨[], []⟩).past :=
    List.foldlRecOn _ _ (motive := fun s : State => Sparing s.past)
      (show Sparing [] from List.nodup_nil) fun s h c _ => sparing_addDeclaration h c
  have all := List.foldlRecOn p.resources.zipIdx (addResource parse p)
    (motive := fun s : State => Sparing s.past) declared fun s h r _ => sparing_addResource h r
  exact all.nodup_names (Profile.nodup_of_flaw? sound).1

/-- Only resources of the profile are parsed. -/
theorem resource_of_parsed {name : String} (h : name ∈ (build parse p).parsed) :
    ∃ r ∈ p.resources, r.name = name := by
  obtain ⟨a, -, found⟩ := List.mem_filterMap.1 h
  obtain ⟨r, at_place, rfl⟩ := Option.map_eq_some_iff.1 found
  exact ⟨r, List.mem_of_getElem? at_place, rfl⟩

end FieldGateway.Index
