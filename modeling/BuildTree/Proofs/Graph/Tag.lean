import BuildTree.Proofs.Graph.Inputs
import BuildTree.Proofs.Graph.Registration

/-!
# The groups of tags

A tag is entered before its group is registered. Registering the group is refused just if its name is claimed
already. The tag is in the table all the same from then on, so it is found by every later use of it, and its group,
which is no registered target, can never become one: what has been claimed stays claimed.

Every other tag has a group that is registered once, and stays so: the only claims that pass from one target to another
are those of a target for the pass.
-/

namespace BuildTree.Graph
open Effect Relation

/-- Whether the first use of a tag would be refused: its name belongs to something else. -/
def refusesTag (g : Graph) (name : String) : Bool :=
  (g.tags.get? name).isNone && (g.claims.get? (tagPrefix ++ name)).isSome

theorem refusesTag_eq_true_iff (g : Graph) (name : String) :
    g.refusesTag name = true ↔ g.tags.get? name = none ∧ ∃ t, g.claims.get? (tagPrefix ++ name) = some t := by
  simp [refusesTag, Option.isSome_iff_exists]

/-- The graph with the group of a tag, which is registered. -/
def withRegisteredTag (g : Graph) (name : String) (location : Option Location) : Graph :=
  (g.withTag name location).registered ⟨g.nodes.size⟩

section Fresh
variable (g : Graph) (name : String) (location : Option Location)

theorem node_withTag_self :
    (g.withTag name location).node ⟨g.nodes.size⟩ = Target.emptyGroup (tagPrefix ++ name) location :=
  node_push_self g _

theorem made_withTag_self : (g.withTag name location).Made ⟨g.nodes.size⟩ := by simp [Made, withTag]

theorem get?_tags_withTag (other : String) :
    (g.withTag name location).tags.get? other = if other = name then some ⟨g.nodes.size⟩ else g.tags.get? other :=
  Table.get?_insert _ _ _ _

theorem openedPartition_withTag_self :
    (g.withTag name location).openedPartition ((g.withTag name location).node ⟨g.nodes.size⟩) = none := by
  rw [node_withTag_self, openedPartition]
  cases (g.withTag name location).pass <;> rfl

theorem registrable_withTag_iff :
    (g.withTag name location).Registrable ⟨g.nodes.size⟩ ↔ g.claims.get? (tagPrefix ++ name) = none := by
  have houts : ((g.withTag name location).node ⟨g.nodes.size⟩).allOutputs = [tagPrefix ++ name] := by
    rw [node_withTag_self]
    rfl
  rw [registrable_of_openedPartition_eq_none (openedPartition_withTag_self g name location), houts, unclaimed_none_iff]
  exact List.forall_mem_singleton

/-- A tag is in the table already, or its group is registered, or that is refused and the tag is entered all the
same. -/
theorem tag_cases :
    (∃ t, g.tags.get? name = some t ∧ (tag name location).run g = (.ok t, g)) ∨
      (g.tags.get? name = none ∧ g.claims.get? (tagPrefix ++ name) = none ∧
        (tag name location).run g = (.ok ⟨g.nodes.size⟩, g.withRegisteredTag name location)) ∨
      (g.refusesTag name = true ∧ ∃ f, (tag name location).run g = (.error f, g.withTag name location)) := by
  cases hget : g.tags.get? name with
  | some t => exact .inl ⟨t, rfl, tag_of_some location hget⟩
  | none =>
    have hdecides := register_decides (g.withTag name location) ⟨g.nodes.size⟩
    rw [registrable_withTag_iff] at hdecides
    cases hclaim : g.claims.get? (tagPrefix ++ name) with
    | none =>
      refine .inr (.inl ⟨rfl, rfl, ?_⟩)
      rw [tag_of_none location hget, hdecides.accepted hclaim]
      rfl
    | some u =>
      obtain ⟨f, hrefused⟩ := hdecides.refused fun h => by cases hclaim.symm.trans h
      refine .inr (.inr ⟨(g.refusesTag_eq_true_iff name).mpr ⟨hget, u, hclaim⟩, f, ?_⟩)
      rw [tag_of_none location hget, hrefused]
      rfl

end Fresh

theorem get?_tags_of_tag {g g' : Graph} {name : String} {location : Option Location} {t : TargetId}
    (h : (tag name location).run g = (.ok t, g')) : g'.tags.get? name = some t := by
  rcases tag_cases g name location with ⟨u, hget, hrun⟩ | ⟨_, _, hrun⟩ | ⟨_, f, hrun⟩
  · cases hrun.symm.trans h
    exact hget
  · cases hrun.symm.trans h
    exact (get?_tags_withTag g name location name).trans (if_pos rfl)
  · cases congrArg Prod.fst (hrun.symm.trans h)

/-- What stands for the pass is a target of that kind. -/
def PassKind (g : Graph) : Prop :=
  ∀ r, g.pass = some r → (g.node r).isPass = true

/-- The group in the tag table under a name. -/
structure TagGroup (g : Graph) (name : String) (t : TargetId) : Prop where
  ordinary : g.Ordinary t
  isGroup : (g.node t).isGroup = true
  outputs : (g.node t).outputs = [tagPrefix ++ name]
  implicitOutputs : (g.node t).implicitOutputs = []
  partition : (g.node t).partition = .null

/-- The group of a tag when it is a target among the others: registered once, found by its name, and the owner of
it. -/
structure TagRegistered (g : Graph) (name : String) (t : TargetId) : Prop extends TagGroup g name t where
  once : g.targets.count t = 1
  named : g.named.get? (tagPrefix ++ name) = some t
  claimed : g.claims.get? (tagPrefix ++ name) = some t

/-- The group of a tag when registering it was refused. -/
structure TagStranded (g : Graph) (name : String) (t : TargetId) : Prop extends TagGroup g name t where
  unregistered : t ∉ g.targets
  taken : ∃ u, g.claims.get? (tagPrefix ++ name) = some u

theorem not_registered_of_stranded {g : Graph} {name : String} {t : TargetId} (h : g.TagStranded name t) :
    ¬ g.TagRegistered name t := fun hreg =>
  h.unregistered (List.count_pos_iff.mp (hreg.once ▸ Nat.one_pos))

section Steps
variable {Fit : Target → Prop} {Asked : TargetId → Prop} {g g' : Graph} {name : String} {t : TargetId}

theorem Growth.products (step : Growth Fit Asked g g') (h : g.Ordinary t) :
    Target.SameProducts (g.node t) (g'.node t) := by
  cases step with
  | make fit => exact (still_push g _).products t h.1
  | edit u same => exact (still_modifyNode g u same).products t h.1
  | enterTag location fresh => exact (still_withTag g _ location).products t h.1
  | enterPool admitted => exact .refl _
  | register made free asked => exact .refl _
  | @generate r path free =>
    have hne : t ≠ r := by
      rintro rfl
      cases h.2.symm.trans free.isPass
    have hnode : (g.generated r path).node t = g.node t := node_modifyNode_of_ne g _ hne
    rw [hnode]
    exact .refl _

theorem Growth.tagGroup (step : Growth Fit Asked g g') (h : g.TagGroup name t) : g'.TagGroup name t := by
  have same := step.products h.ordinary
  have hgroup : (g'.node t).isGroup = (g.node t).isGroup := by rw [Target.isGroup, Target.isGroup, same.action]
  exact ⟨step.keeps.ordinary h.ordinary, hgroup.trans h.isGroup, same.outputs.trans h.outputs,
    same.implicitOutputs.trans h.implicitOutputs, same.partition.trans h.partition⟩

/-- A claim of another target than the one for the pass is in the way of every later one. -/
theorem Unclaimed.notMem (hpass : PassKind g) {outputs : List String} (free : g.Unclaimed g.pass outputs) {o : String}
    (hclaim : g.claims.get? o = some t) (h : g.Ordinary t) : o ∉ outputs := by
  intro ho
  have := hpass t (free o ho t hclaim).symm
  rw [h.2] at this
  cases this

theorem Registrable.notMem {u : TargetId} (free : g.Registrable u) {o : String}
    (hclaim : g.claims.get? o = some t) : o ∉ (g.node u).allOutputs := by
  intro ho
  cases hclaim.symm.trans ((unclaimed_none_iff g _).mp free.outputs o ho)

/-- A claim of another target than the one for the pass stays. -/
theorem Growth.claims (step : Growth Fit Asked g g') (hpass : PassKind g) {o : String}
    (hclaim : g.claims.get? o = some t) (h : g.Ordinary t) : g'.claims.get? o = some t := by
  cases step with
  | make fit => exact hclaim
  | edit u same => exact hclaim
  | enterTag location fresh => exact hclaim
  | enterPool admitted => exact hclaim
  | register made free asked =>
    rw [get?_claims_registered, if_neg, if_neg (free.notMem hclaim), hclaim]
    intro hfile
    exact (free.file o hfile).notMem hpass hclaim h (List.mem_singleton_self o)
  | @generate r path free =>
    have hne : o ≠ g.generatedPath path := by
      rintro rfl
      exact (free.pass_eq ▸ free.file : g.Unclaimed g.pass _).notMem hpass hclaim h (List.mem_singleton_self _)
    show (g.claims.insert (g.generatedPath path) r).get? o = some t
    rw [Table.get?_insert, if_neg hne, hclaim]

/-- What is claimed stays claimed. -/
theorem Growth.claimed (step : Growth Fit Asked g g') {o : String} (h : o ∈ g.claims.keys) : o ∈ g'.claims.keys := by
  cases step with
  | make fit => exact h
  | edit u same => exact h
  | enterTag location fresh => exact h
  | enterPool admitted => exact h
  | register made free asked => exact mem_keys_claims_registered (.inr h)
  | generate free => exact (Table.mem_keys_insert_iff _ _ _ _).mpr (.inr h)

theorem claimed_of_growth (steps : ReflTransGen (Growth Fit Asked) g g') {o : String} (h : o ∈ g.claims.keys) :
    o ∈ g'.claims.keys := by
  induction steps with
  | refl => exact h
  | tail _ step ih => exact step.claimed ih

/-- A target of which an output is claimed already is not registered by a step that follows. -/
theorem Growth.count_targets (step : Growth Fit Asked g g') {o : String} (ho : o ∈ (g.node t).allOutputs)
    (hclaim : o ∈ g.claims.keys) : g'.targets.count t = g.targets.count t := by
  cases step with
  | make fit => rfl
  | edit u same => rfl
  | enterTag location fresh => rfl
  | enterPool admitted => rfl
  | @register u made free asked =>
    obtain ⟨v, hv⟩ := (Table.mem_keys_iff _ o).mp hclaim
    have hne : u ≠ t := by
      rintro rfl
      exact free.notMem hv ho
    show (g.targets ++ [u]).count t = g.targets.count t
    rw [List.count_append, List.count_singleton, if_neg (by simpa using hne), Nat.add_zero]
  | generate free => rfl

/-- What a group is found by stays the same as long as it owns its name. -/
theorem Growth.named (step : Growth Fit Asked g g') {o : String} {u : TargetId} (hclaim : g.claims.get? o = some u)
    (h : g.named.get? o = some t) : g'.named.get? o = some t := by
  cases step with
  | make fit => exact h
  | edit v same => exact h
  | enterTag location fresh => exact h
  | enterPool admitted => exact h
  | @register v made free asked =>
    have hne : o ≠ (g.node v).name := by
      rintro rfl
      exact free.notMem hclaim List.mem_cons_self
    show (if (g.node v).isGroup then g.named.insert (g.node v).name v else g.named).get? o = some t
    split
    · rw [Table.get?_insert, if_neg hne, h]
    · exact h
  | generate free => exact h

theorem Growth.tag (step : Growth Fit Asked g g') (h : g.tags.get? name = some t) : g'.tags.get? name = some t := by
  cases step with
  | @enterTag other location fresh =>
    have hne : name ≠ other := by
      rintro rfl
      cases fresh.symm.trans h
    show (g.tags.insert other ⟨g.nodes.size⟩).get? name = some t
    rw [Table.get?_insert, if_neg hne, h]
  | _ => exact h

theorem Growth.passKind (step : Growth Fit Asked g g') (hmade : ∀ r, g.pass = some r → g.Made r) (h : PassKind g) :
    PassKind g' := fun r hr => by
  have hpass : g.pass = some r := step.keeps.pass ▸ hr
  rw [step.keeps.isPass (hmade r hpass)]
  exact h r hpass

theorem TagGroup.mem_allOutputs (h : g.TagGroup name t) : tagPrefix ++ name ∈ (g.node t).allOutputs := by
  rw [Target.allOutputs, h.outputs]
  exact List.mem_cons_self

theorem Growth.tagRegistered (step : Growth Fit Asked g g') (hpass : PassKind g) (h : g.TagRegistered name t) :
    g'.TagRegistered name t where
  toTagGroup := step.tagGroup h.toTagGroup
  once := (step.count_targets h.mem_allOutputs ((Table.mem_keys_iff _ _).mpr ⟨t, h.claimed⟩)).trans h.once
  named := step.named h.claimed h.named
  claimed := step.claims hpass h.claimed h.ordinary

theorem Growth.tagStranded (step : Growth Fit Asked g g') (h : g.TagStranded name t) : g'.TagStranded name t where
  toTagGroup := step.tagGroup h.toTagGroup
  unregistered := by
    rw [← List.count_eq_zero, step.count_targets h.mem_allOutputs ((Table.mem_keys_iff _ _).mpr h.taken),
      List.count_eq_zero]
    exact h.unregistered
  taken := (Table.mem_keys_iff _ _).mp (step.claimed ((Table.mem_keys_iff _ _).mpr h.taken))

theorem tagGroup_withTag (g : Graph) (name : String) (location : Option Location) :
    (g.withTag name location).TagGroup name ⟨g.nodes.size⟩ := by
  have hnode := g.node_withTag_self name location
  refine ⟨ordinary_withTag g name location, ?_, ?_, ?_, ?_⟩
  all_goals
    rw [hnode]
    rfl

end Steps

/-- Every entry of the tag table is a group of its name. -/
def TagGroups (g : Graph) : Prop :=
  ∀ name t, g.tags.get? name = some t → g.TagGroup name t

theorem TagGroup.name_eq {g : Graph} {name other : String} {t : TargetId} (h : g.TagGroup name t)
    (h' : g.TagGroup other t) : name = other :=
  (String.append_right_inj tagPrefix).mp (List.cons.inj (h.outputs.symm.trans h'.outputs)).1

section TagGroups
variable {Fit : Target → Prop} {Asked : TargetId → Prop} {g g' : Graph}

theorem Growth.tagGroups (step : Growth Fit Asked g g') (h : TagGroups g) : TagGroups g' := by
  intro name t ht
  have hold : g.tags.get? name = some t → g'.TagGroup name t := fun ht => step.tagGroup (h name t ht)
  cases step with
  | @enterTag other location fresh =>
    have ht' : (g.tags.insert other ⟨g.nodes.size⟩).get? name = some t := ht
    rw [Table.get?_insert] at ht'
    split at ht'
    next he =>
      cases ht'
      rw [he]
      exact tagGroup_withTag g other location
    · exact hold ht'
  | _ => exact hold ht

theorem tagGroups_of_growth (steps : ReflTransGen (Growth Fit Asked) g g') (h : TagGroups g) : TagGroups g' := by
  induction steps with
  | refl => exact h
  | tail _ step ih => exact step.tagGroups ih

theorem tagGroups_blank (buildDir : Option String) : TagGroups (blank buildDir) := fun _ _ h => by cases h

end TagGroups

end BuildTree.Graph
