import BuildTree.Proofs.Graph.Tag

/-!
# Attaching to tags

Attaching a dependency to tags goes through if none of them is refused, and which of them would be is not changed by
those before it: the group of a tag claims the name of that tag alone. Then every tag needs the dependency once more for
each time it is listed, tags that were not there are made for that, and nothing else about any target has changed.
-/

namespace BuildTree

/-- A target with more implicit inputs. -/
def Target.needing (t : Target) (deps : List Dependency) : Target :=
  { t with implicitInputs := t.implicitInputs ++ deps }

theorem Target.needing_nil (t : Target) : t.needing [] = t := by
  rw [Target.needing, List.append_nil]

theorem Target.needing_needing (t : Target) (deps others : List Dependency) :
    (t.needing deps).needing others = t.needing (deps ++ others) := by
  simp only [Target.needing, List.append_assoc]

namespace Graph
open Effect Relation

/-- The group of a tag, or the one that its first use makes. -/
def tagNode (g : Graph) (location : Option Location) (name : String) : Target :=
  match g.tags.get? name with
  | some t => g.node t
  | none => Target.emptyGroup (tagPrefix ++ name) location

theorem tagNode_of_some {g : Graph} {name : String} {t : TargetId} (h : g.tags.get? name = some t)
    (location : Option Location) : g.tagNode location name = g.node t := by
  rw [tagNode, h]

/-- A tag that a step neither enters nor attaches to keeps its group. -/
theorem tagNode_of_same {g g' : Graph} {name : String} (htags : g'.tags.get? name = g.tags.get? name)
    (hnode : ∀ t, g.tags.get? name = some t → g'.node t = g.node t) (location : Option Location) :
    g'.tagNode location name = g.tagNode location name := by
  rw [tagNode, tagNode, htags]
  cases ht : g.tags.get? name with
  | none => rfl
  | some t => exact hnode t ht

/-- The graph after a dependency has been attached to tags, each time one of them is listed. -/
structure Attached (dep : Dependency) (location : Option Location) (names : List String) (g g' : Graph) : Prop where
  made : ∀ t, g.Made t → g'.Made t
  tags : ∀ name t, g.tags.get? name = some t → g'.tags.get? name = some t
  entered : ∀ name ∈ names, ∃ t, g'.tags.get? name = some t
  fresh : ∀ name t, g.tags.get? name = none → g'.tags.get? name = some t → name ∈ names ∧ ¬ g.Made t
  group : ∀ name, g'.tagNode location name =
    (g.tagNode location name).needing (List.replicate (names.count name) dep)
  others : ∀ t, g.Made t → (∀ name, g.tags.get? name ≠ some t) → g'.node t = g.node t
  targets : ∃ groups, g'.targets = g.targets ++ groups ∧ ∀ t ∈ groups, ¬ g.Made t ∧ ∃ name, g'.tags.get? name = some t

namespace Attached
variable {dep : Dependency} {location : Option Location} {g g' g'' : Graph}

theorem nil : Attached dep location [] g g where
  made _ h := h
  tags _ _ h := h
  entered _ h := absurd h List.not_mem_nil
  fresh _ _ h h' := by cases h.symm.trans h'
  group _ := (Target.needing_nil _).symm
  others _ _ _ := rfl
  targets := ⟨[], (List.append_nil _).symm, fun _ h => absurd h List.not_mem_nil⟩

theorem cons {name : String} {rest : List String} (h : Attached dep location [name] g g')
    (h' : Attached dep location rest g' g'') : Attached dep location (name :: rest) g g'' where
  made t ht := h'.made t (h.made t ht)
  tags other t ht := h'.tags other t (h.tags other t ht)
  entered other hother := by
    rcases List.mem_cons.mp hother with rfl | hother
    · obtain ⟨t, ht⟩ := h.entered other (List.mem_singleton_self other)
      exact ⟨t, h'.tags other t ht⟩
    · exact h'.entered other hother
  fresh other t hnone ht := by
    cases hfirst : g'.tags.get? other with
    | none =>
      obtain ⟨hmem, hnew⟩ := h'.fresh other t hfirst ht
      exact ⟨List.mem_cons_of_mem name hmem, fun hmade => hnew (h.made t hmade)⟩
    | some u =>
      obtain rfl : t = u := Option.some.inj (ht.symm.trans (h'.tags other u hfirst))
      obtain ⟨hmem, hnew⟩ := h.fresh other t hnone hfirst
      exact ⟨List.mem_cons.mpr (.inl (List.mem_singleton.mp hmem)), hnew⟩
  group other := by
    rw [h'.group, h.group, Target.needing_needing, List.replicate_append_replicate, ← List.count_append,
      List.singleton_append]
  others t hmade hnone := by
    have hnone' : ∀ other, g'.tags.get? other ≠ some t := fun other ht => by
      cases hold : g.tags.get? other with
      | none => exact (h.fresh other t hold ht).2 hmade
      | some u =>
        obtain rfl : t = u := Option.some.inj (ht.symm.trans (h.tags other u hold))
        exact hnone other hold
    rw [h'.others t (h.made t hmade) hnone', h.others t hmade hnone]
  targets := by
    obtain ⟨groups, htargets, hgroups⟩ := h.targets
    obtain ⟨groups', htargets', hgroups'⟩ := h'.targets
    refine ⟨groups ++ groups', by rw [htargets', htargets, List.append_assoc], fun t ht => ?_⟩
    rcases List.mem_append.mp ht with ht | ht
    · obtain ⟨hnew, other, hother⟩ := hgroups t ht
      exact ⟨hnew, other, h'.tags other t hother⟩
    · obtain ⟨hnew, hother⟩ := hgroups' t ht
      exact ⟨fun hmade => hnew (h.made t hmade), hother⟩

end Attached

section Tags
variable {g : Graph} {name : String} (location : Option Location) (dep : Dependency)

theorem count_singleton_of_ne {other : String} (h : other ≠ name) : List.count other [name] = 0 :=
  List.count_eq_zero.mpr fun hmem => h (List.mem_singleton.mp hmem)

/-- Attaching once to a tag that is there already. -/
theorem attached_of_some (groups : TagGroups g) {t : TargetId} (h : g.tags.get? name = some t) :
    Attached dep location [name] g (g.modifyNode t (·.needing [dep])) where
  made u hu := (made_modifyNode_iff g t u _).mpr hu
  tags _ _ hu := hu
  entered other hother := ⟨t, List.mem_singleton.mp hother ▸ h⟩
  fresh _ _ hnone hu := by cases hnone.symm.trans hu
  group other := by
    by_cases he : other = name
    · subst he
      rw [tagNode_of_some (g := g.modifyNode t _) h, tagNode_of_some h, List.count_singleton_self,
        node_modifyNode_self g _ (groups other t h).ordinary.1]
      rfl
    · have hne : ∀ u, g.tags.get? other = some u → u ≠ t := fun u hu hut =>
        he ((groups other u hu).name_eq (hut ▸ groups name t h))
      have htags : (g.modifyNode t (·.needing [dep])).tags.get? other = g.tags.get? other := rfl
      rw [count_singleton_of_ne he, List.replicate_zero, Target.needing_nil]
      exact tagNode_of_same htags (fun u hu => node_modifyNode_of_ne g _ (hne u hu)) location
  others u _ hnone := node_modifyNode_of_ne g _ fun hut => hnone name (hut ▸ h)
  targets := ⟨[], (List.append_nil _).symm, fun _ hu => absurd hu List.not_mem_nil⟩

/-- Attaching to a tag at its first use. -/
theorem attached_of_none (groups : TagGroups g) (h : g.tags.get? name = none) :
    Attached dep location [name] g
      ((g.withRegisteredTag name location).modifyNode ⟨g.nodes.size⟩ (·.needing [dep])) := by
  let id : TargetId := ⟨g.nodes.size⟩
  let g' := (g.withRegisteredTag name location).modifyNode id (·.needing [dep])
  have hget : ∀ other, g'.tags.get? other = if other = name then some id else g.tags.get? other :=
    get?_tags_withTag g name location
  have hself : g'.node id = (Target.emptyGroup (tagPrefix ++ name) location).needing [dep] := by
    have hmade : (g.withRegisteredTag name location).Made id := made_withTag_self g name location
    rw [node_modifyNode_self _ _ hmade]
    exact congrArg (·.needing [dep]) (node_withTag_self g name location)
  have hnew : ¬ g.Made id := Nat.lt_irrefl _
  have hold : ∀ u, g.Made u → g'.node u = g.node u := fun u hu => by
    have hne : u ≠ id := fun he => hnew (he ▸ hu)
    rw [node_modifyNode_of_ne _ _ hne]
    exact node_push g _ hu
  refine ⟨fun u hu => (made_modifyNode_iff _ id u _).mpr ((still_withTag g name location).made u hu),
    fun other u hu => ?_, fun other hother => ⟨id, ?_⟩, fun other u hnone hu => ?_, fun other => ?_,
    fun u hu _ => hold u hu, [id], rfl, fun u hu => ?_⟩
  · have hne : other ≠ name := fun he => by cases (he ▸ hu).symm.trans h
    rw [hget, if_neg hne, hu]
  · rw [hget, if_pos (List.mem_singleton.mp hother)]
  · rw [hget] at hu
    split at hu
    next he =>
      cases hu
      exact ⟨List.mem_singleton.mpr he, hnew⟩
    · cases hnone.symm.trans hu
  · by_cases he : other = name
    · subst he
      rw [tagNode_of_some (g := g') ((hget other).trans (if_pos rfl)), hself, tagNode, h, List.count_singleton_self]
      rfl
    · rw [count_singleton_of_ne he, List.replicate_zero, Target.needing_nil]
      exact tagNode_of_same ((hget other).trans (if_neg he))
        (fun u hu => hold u (groups other u hu).ordinary.1) location
  · rw [List.mem_singleton.mp hu]
    exact ⟨hnew, name, (hget name).trans (if_pos rfl)⟩

theorem get?_claims_withRegisteredTag (g : Graph) (name o : String) :
    (g.withRegisteredTag name location).claims.get? o =
      if o = tagPrefix ++ name then some ⟨g.nodes.size⟩ else g.claims.get? o := by
  have houts : ((g.withTag name location).node ⟨g.nodes.size⟩).allOutputs = [tagPrefix ++ name] := by
    rw [node_withTag_self]
    rfl
  rw [withRegisteredTag, get?_claims_registered, openedPartition_withTag_self, houts, if_neg (by simp)]
  simp only [List.mem_singleton]
  rfl

/-- Making the group of a tag does not change which tags would be refused. -/
theorem refusesTag_withRegisteredTag (hclaim : g.claims.get? (tagPrefix ++ name) = none) (other : String) :
    (g.withRegisteredTag name location).refusesTag other = g.refusesTag other := by
  have htags : (g.withRegisteredTag name location).tags.get? other =
      if other = name then some ⟨g.nodes.size⟩ else g.tags.get? other := get?_tags_withTag g name location other
  rw [refusesTag, refusesTag, htags, get?_claims_withRegisteredTag]
  by_cases he : other = name
  · subst he
    simp [hclaim]
  · have hne : tagPrefix ++ other ≠ tagPrefix ++ name := fun h => he ((String.append_right_inj tagPrefix).mp h)
    rw [if_neg he, if_neg hne]

/-- A tag is refused, or found or made without a change of what is refused. -/
theorem tag_outcome (g : Graph) (name : String) :
    (g.refusesTag name = false ∧ ∃ t g', (tag name location).run g = (.ok t, g') ∧
        ∀ other, g'.refusesTag other = g.refusesTag other) ∨
      (g.refusesTag name = true ∧ ∃ f, (tag name location).run g = (.error f, g.withTag name location)) := by
  rcases tag_cases g name location with ⟨t, hget, hrun⟩ | ⟨_, hclaim, hrun⟩ | hrefused
  · exact .inl ⟨by rw [refusesTag, hget]; rfl, t, g, hrun, fun _ => rfl⟩
  · exact .inl ⟨by rw [refusesTag, hclaim, Option.isSome_none, Bool.and_false], _, _, hrun,
      refusesTag_withRegisteredTag location hclaim⟩
  · exact .inr hrefused

/-- Attaching to one tag: it is refused, or done without a change of what is refused. -/
theorem attach_singleton_cases (groups : TagGroups g) (name : String) :
    (g.refusesTag name = false ∧ ∃ g', (attach dep location [name]).run g = (.ok (), g') ∧
        Attached dep location [name] g g' ∧ ∀ other, g'.refusesTag other = g.refusesTag other) ∨
      (g.refusesTag name = true ∧ ∃ f, (attach dep location [name]).run g = (.error f, g.withTag name location)) := by
  rw [attach_cons]
  rcases tag_cases g name location with ⟨t, hget, hrun⟩ | ⟨hget, hclaim, hrun⟩ | ⟨hrefuses, f, hrun⟩
  · rw [hrun]
    exact .inl ⟨by rw [refusesTag, hget]; rfl, _, rfl, attached_of_some location dep groups hget, fun _ => rfl⟩
  · rw [hrun]
    exact .inl ⟨by rw [refusesTag, hclaim, Option.isSome_none, Bool.and_false], _, rfl,
      attached_of_none location dep groups hget, refusesTag_withRegisteredTag location hclaim⟩
  · rw [hrun]
    exact .inr ⟨hrefuses, f, rfl⟩

end Tags

section Attach
variable (dep : Dependency) (location : Option Location)

theorem attach_append (before after : List String) (g : Graph) :
    (attach dep location (before ++ after)).run g =
      andThen (fun _ => attach dep location after) ((attach dep location before).run g) := by
  induction before generalizing g with
  | nil => rfl
  | cons name rest ih =>
    rw [List.cons_append, attach_cons, attach_cons]
    rcases (tag name location).run g with ⟨outcome, g'⟩
    cases outcome with
    | error f => rfl
    | ok t =>
      simp only [andThen_ok, run_bind, addImplicitInputs, run_modify]
      exact ih _

/-- Attaching to tags goes through if none of them is refused, and stops at the first one that is. -/
theorem attach_cases {g : Graph} (groups : TagGroups g) (names : List String) :
    ((∀ name ∈ names, g.refusesTag name = false) ∧
        ∃ g', (attach dep location names).run g = (.ok (), g') ∧ Attached dep location names g g') ∨
      ∃ before name after g', names = before ++ name :: after ∧ (∀ other ∈ before, g.refusesTag other = false) ∧
        g.refusesTag name = true ∧ Attached dep location before g g' ∧
        ∃ f, (attach dep location names).run g = (.error f, g'.withTag name location) := by
  induction names generalizing g with
  | nil => exact .inl ⟨fun _ h => absurd h List.not_mem_nil, g, rfl, .nil⟩
  | cons name rest ih =>
    have hsplit := attach_append dep location [name] rest g
    rw [List.singleton_append] at hsplit
    rcases attach_singleton_cases location dep groups name with ⟨hfree, g', hrun, hfirst, hsame⟩ | ⟨htaken, f, hrun⟩
    · have groups' : TagGroups g' := by
        have hgrowth : ReflTransGen (Growth (fun _ => True) fun _ => False) g ((attach dep location [name]).run g).2 :=
          growth_attach g dep location [name]
        rw [hrun] at hgrowth
        exact tagGroups_of_growth hgrowth groups
      rw [hrun, andThen_ok] at hsplit
      rw [hsplit]
      rcases ih groups' with
        ⟨hrest, g'', hok, hattached⟩ | ⟨before, other, after, g'', hnames, hbefore, htaken, h, hfail⟩
      · refine .inl ⟨List.forall_mem_cons.mpr ⟨hfree, fun other hother => ?_⟩, g'', hok, hfirst.cons hattached⟩
        rw [← hsame]
        exact hrest other hother
      · refine .inr ⟨name :: before, other, after, g'', by rw [hnames, List.cons_append],
          List.forall_mem_cons.mpr ⟨hfree, fun m hm => ?_⟩, ?_, hfirst.cons h, hfail⟩
        · rw [← hsame]
          exact hbefore m hm
        · rw [← hsame]
          exact htaken
    · rw [hsplit, hrun, andThen_error]
      exact .inr ⟨[], name, rest, g, rfl, fun _ h => absurd h List.not_mem_nil, htaken, .nil, f, rfl⟩

end Attach

section Given

theorem leadingTexts_map (names : List String) : Argument.leadingTexts (names.map .text) = (names, .ok ()) := by
  induction names with
  | nil => rfl
  | cons name rest ih => rw [List.map_cons, Argument.leadingTexts, ih]

theorem leadingTexts_eq_ok {values : List Given} {names : List String}
    (h : Argument.leadingTexts values = (names, .ok ())) : values = names.map .text := by
  induction values generalizing names with
  | nil =>
    cases h
    rfl
  | cons value rest ih =>
    cases value with
    | text name =>
      rw [Argument.leadingTexts] at h
      rcases hrest : Argument.leadingTexts rest with ⟨others, outcome⟩
      rw [hrest] at h
      obtain ⟨rfl, rfl⟩ := Prod.mk.inj h
      rw [ih hrest, List.map_cons]
    | _ => cases congrArg Prod.snd h

/-- Going through an argument, one meets these tags and nothing else, and none of them is refused. -/
def Attachable (g : Graph) (tags : Given) (names : List String) : Prop :=
  Argument.items tags = .ok (names.map .text) ∧ ∀ name ∈ names, g.refusesTag name = false

/-- A target is attached to all the tags in an argument if it can be, and otherwise that fails. -/
theorem attachGiven_cases {g : Graph} (groups : TagGroups g) (t : TargetId) (tags : Given)
    (location : Option Location) :
    (∃ names g', g.Attachable tags names ∧ (attachGiven (.target t) tags location).run g = (.ok (), g') ∧
        Attached (.target t) location names g g') ∨
      ((∀ names, ¬ g.Attachable tags names) ∧
        ∃ f g', (attachGiven (.target t) tags location).run g = (.error f, g')) := by
  simp only [attachGiven, run_bind, run_lift]
  cases hitems : Argument.items tags with
  | error f =>
    refine .inr ⟨fun names h => ?_, f, g, rfl⟩
    cases hitems.symm.trans h.1
  | ok values =>
    rcases hleading : Argument.leadingTexts values with ⟨names, outcome⟩
    simp only [andThen_ok, hleading, run_bind, run_get, Argument.dependency]
    cases outcome with
    | error f =>
      refine .inr ⟨fun others h => ?_, ?_⟩
      · obtain rfl := Except.ok.inj (hitems.symm.trans h.1)
        rw [leadingTexts_map] at hleading
        cases congrArg Prod.snd hleading
      · generalize (attach (.target t) location names).run g = first
        obtain ⟨attached, g'⟩ := first
        cases attached with
        | error f' => exact ⟨f', g', rfl⟩
        | ok _ => exact ⟨f, g', rfl⟩
    | ok _ =>
      obtain rfl := leadingTexts_eq_ok hleading
      rcases attach_cases (.target t) location groups names with
        ⟨hfree, g', hrun, h⟩ | ⟨_, name, _, g', hnames, _, htaken, _, f, hrun⟩
      · exact .inl ⟨names, g', ⟨hitems, hfree⟩, by rw [hrun]; rfl, h⟩
      · refine .inr ⟨fun others h => ?_, f, _, by rw [hrun]; rfl⟩
        have hsame : names = others :=
          (List.map_inj_right fun _ _ => Value.text.inj).mp (Except.ok.inj (hitems.symm.trans h.1))
        have hmem : name ∈ others := hsame ▸ hnames ▸ List.mem_append_right _ List.mem_cons_self
        cases (h.2 name hmem).symm.trans htaken

end Given

end Graph
end BuildTree
