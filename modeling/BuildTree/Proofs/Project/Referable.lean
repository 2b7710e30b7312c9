import BuildTree.Proofs.Graph.Apart
import BuildTree.Proofs.Project.Reached

/-!
# What scripts refer to

Whatever scripts do, they get hold of two kinds of targets only: groups, and steps that are registered. Names lead
to no others, nor do look-ups, tags or what a call gives. So a target needs no others explicitly, since all that it
needs comes from the arguments of a call.
-/

namespace BuildTree
open Effect Relation

namespace Target

/-- A target as a pass makes it, for itself or by a declaration, that needs explicitly only targets of which something
holds. -/
structure NeedsOnly (R : TargetId → Prop) (t : Target) : Prop where
  inputs : ∀ u, .target u ∈ t.inputs → R u
  kind : t.isPass = true ∨ t.isStep = true ∨ (t.isGroup = true ∧ t.otherOutputs = [])

/-- What a target needs explicitly afterwards it needed before, or something holds of it. -/
structure AddsOnly (R : TargetId → Prop) (t u : Target) : Prop where
  inputs : ∀ v, .target v ∈ u.inputs → .target v ∈ t.inputs ∨ R v
  action : u.action = t.action
  outputs : t.isPass = false → u.otherOutputs = t.otherOutputs

variable {R : TargetId → Prop} {t u v : Target}

theorem NeedsOnly.mono {R' : TargetId → Prop} (h : t.NeedsOnly R) (himp : ∀ u, R u → R' u) : t.NeedsOnly R' :=
  ⟨fun u hu => himp u (h.inputs u hu), h.kind⟩

theorem addsOnly_of_inputs (hinputs : u.inputs = t.inputs) (haction : u.action = t.action)
    (houtputs : t.isPass = false → u.otherOutputs = t.otherOutputs) : AddsOnly R t u :=
  ⟨fun _ hv => .inl (hinputs ▸ hv), haction, houtputs⟩

theorem AddsOnly.trans (h : AddsOnly R t u) (h' : AddsOnly R u v) : AddsOnly R t v where
  inputs w hw := (h'.inputs w hw).elim (h.inputs w) .inr
  action := h'.action.trans h.action
  outputs hpass := (h'.outputs (by rw [isPass, h.action, ← isPass, hpass])).trans (h.outputs hpass)

theorem NeedsOnly.after (h : t.NeedsOnly R) (hadds : AddsOnly R t u) : u.NeedsOnly R where
  inputs v hv := (hadds.inputs v hv).elim (h.inputs v) id
  kind := by
    rw [isPass, isStep, isGroup, hadds.action, ← isPass, ← isStep, ← isGroup]
    refine h.kind.imp_right fun hkind => hkind.imp_right fun hgroup => ⟨hgroup.1, ?_⟩
    rw [hadds.outputs (isPass_of_kind (.inr hgroup.1)), hgroup.2]

theorem NeedsOnly.otherOutputs_eq (h : t.NeedsOnly R) (hgroup : t.isGroup = true) : t.otherOutputs = [] := by
  rcases h.kind with hpass | hstep | ⟨_, houtputs⟩
  · cases hpass.symm.trans (isPass_of_kind (.inr hgroup))
  · unfold isStep at hstep
    unfold isGroup at hgroup
    cases haction : t.action <;> simp [haction] at hstep hgroup
  · exact houtputs

theorem addsOnly_addInputPath (t : Target) (path : String) : AddsOnly R t (t.addInputPath path) := by
  unfold addInputPath
  split
  · exact addsOnly_of_inputs rfl rfl fun _ => rfl
  · refine ⟨fun v hv => .inl ?_, rfl, fun _ => rfl⟩
    simpa using hv

instance : Graph.Steady (AddsOnly R) (NeedsOnly R) where
  refl _ := addsOnly_of_inputs rfl rfl fun _ => rfl
  trans := AddsOnly.trans
  new := NeedsOnly.after
  group _ _ := ⟨fun _ h => absurd h List.not_mem_nil, .inr (.inr ⟨rfl, rfl⟩)⟩
  implicitInputs _ _ := addsOnly_of_inputs rfl rfl fun _ => rfl
  metadata _ _ := addsOnly_of_inputs rfl rfl fun _ => rfl
  output t path hpass :=
    addsOnly_of_inputs (Graph.addOutput_inputs path t) (Graph.addOutput_action path t) fun h => by
      cases h.symm.trans hpass

end Target

namespace Graph

/-- What scripts can refer to: a group, which makes nothing but its name, or a step that is registered. -/
structure Referable (g : Graph) (u : TargetId) : Prop where
  made : g.Made u
  kind : ((g.node u).isGroup = true ∧ (g.node u).otherOutputs = []) ∨ (u ∈ g.targets ∧ (g.node u).isStep = true)

theorem Referable.ordinary {g : Graph} {u : TargetId} (h : g.Referable u) : g.Ordinary u :=
  ⟨h.made, Target.isPass_of_kind (h.kind.symm.imp And.right And.left)⟩

/-- What is found by its name is a registered group. -/
def NamedGroups (g : Graph) : Prop :=
  ∀ entry ∈ g.named, entry.2 ∈ g.targets ∧ (g.node entry.2).isGroup = true

/-- Growth in which only targets of which something holds are added to explicit inputs. -/
structure Draws (R : TargetId → Prop) (g g' : Graph) : Prop where
  growth : ScriptGrowth g g'
  each : EachTarget (Target.AddsOnly R) (Target.NeedsOnly R) g g'

instance (R : TargetId → Prop) : IsPreorder Graph (Draws R) where
  refl g := ⟨.refl, refl_of (EachTarget (Target.AddsOnly R) (Target.NeedsOnly R)) g⟩
  trans _ _ _ h h' :=
    ⟨h.growth.trans h'.growth, trans_of (EachTarget (Target.AddsOnly R) (Target.NeedsOnly R)) h.each h'.each⟩

section Growth
variable {Fit : Target → Prop} {Asked : TargetId → Prop} {g g' : Graph}

theorem Growth.referable (step : Growth Fit Asked g g') {u : TargetId} (h : g.Referable u) : g'.Referable u := by
  have same := step.products h.ordinary
  have houts : (g'.node u).otherOutputs = (g.node u).otherOutputs := (List.cons.inj same.outputs).2
  refine ⟨step.keeps.made u h.made, ?_⟩
  rw [Target.isGroup, Target.isStep, same.action, ← Target.isGroup, ← Target.isStep, houts]
  exact h.kind.imp_right fun hstep => ⟨step.keeps.targets.subset hstep.1, hstep.2⟩

theorem referable_of_growth (steps : ReflTransGen (Growth Fit Asked) g g') {u : TargetId} (h : g.Referable u) :
    g'.Referable u := by
  induction steps with
  | refl => exact h
  | tail _ step ih => exact step.referable ih

theorem Growth.namedGroups (step : Growth Fit Asked g g') (made : TargetsMade g) (h : NamedGroups g) :
    NamedGroups g' := by
  have hold : ∀ entry ∈ g.named, entry.2 ∈ g'.targets ∧ (g'.node entry.2).isGroup = true := fun entry hentry => by
    obtain ⟨hmem, hgroup⟩ := h entry hentry
    refine ⟨step.keeps.targets.subset hmem, ?_⟩
    rw [Target.isGroup, step.keeps.action _ (made _ hmem), ← Target.isGroup, hgroup]
  cases step with
  | @register t made free asked =>
    intro entry hentry
    have hentry' : entry ∈ (if (g.node t).isGroup then g.named.insert (g.node t).name t else g.named) := hentry
    split at hentry'
    next hgroup =>
      rcases Table.mem_of_mem_insert hentry' with rfl | hentry'
      · exact ⟨List.mem_append_right _ (List.mem_singleton_self t), hgroup⟩
      · exact hold entry hentry'
    · exact hold entry hentry'
  | _ => exact hold

theorem namedGroups_of_growth (steps : ReflTransGen (Growth Fit Asked) g g') (made : TargetsMade g)
    (h : NamedGroups g) : NamedGroups g' := by
  induction steps with
  | refl => exact h
  | tail before step ih => exact step.namedGroups (targetsMade_of_growth before made) ih

theorem TagGroup.referable {name : String} {t : TargetId} (h : g.TagGroup name t) : g.Referable t :=
  ⟨h.ordinary.1, .inl ⟨h.isGroup, (List.cons.inj h.outputs).2⟩⟩

end Growth

section Draws
variable {R : TargetId → Prop}

theorem draws_addPassInput (t : TargetId) (value : Given) : Leads (Draws R) (addPassInput t value) := fun g =>
  ⟨leads_addPassInput t value g, each_addPassInput (fun u path _ => u.addsOnly_addInputPath path) t value g⟩

/-- Explicit inputs are added from values that stand for such targets only. -/
theorem draws_depends (t : TargetId) {values : List Given}
    (h : ∀ value ∈ values, ∀ u, value.reference? = some u → R u) : Leads (Draws R) (depends t values) := by
  intro g
  refine ⟨leads_depends t values g, ?_⟩
  have hadd : EachTarget (Target.AddsOnly R) (Target.NeedsOnly R) g
      ((addInputs t (Argument.leadingDependencies g values).1).run g).2 := by
    refine each_modifyNode g t ⟨fun v hv => ?_, rfl, fun _ => rfl⟩
    refine (List.mem_append.mp hv).imp_right fun hv => ?_
    obtain ⟨value, hvalue, hu⟩ := Argument.reference?_of_leadingDependencies hv
    exact h value hvalue v hu
  exact hadd

end Draws
end Graph

namespace Session

/-- A session in which scripts can refer to groups and to registered steps only, and in which no target needs anything
else explicitly. -/
structure Traced (s : Session) : Prop where
  targets : s.graph.TargetsMade
  tags : s.graph.TagGroups
  named : s.graph.NamedGroups
  nodes : ∀ t, s.graph.Made t → (s.graph.node t).NeedsOnly s.graph.Referable
  bindings : ∀ entry ∈ s.bindings, s.graph.Referable entry.2

namespace Traced
variable {s s' : Session}

theorem grown (h : s.Traced) (draws : Graph.Draws s.graph.Referable s.graph s'.graph)
    (hbindings : ∀ entry ∈ s'.bindings, s'.graph.Referable entry.2) : s'.Traced where
  targets := Graph.targetsMade_of_growth draws.growth h.targets
  tags := Graph.tagGroups_of_growth draws.growth h.tags
  named := Graph.namedGroups_of_growth draws.growth h.targets h.named
  nodes t ht := (draws.each.forall_made h.nodes t ht).mono fun _ => Graph.referable_of_growth draws.growth
  bindings := hbindings

theorem of_graph (h : s.Traced) (hgraph : s'.graph = s.graph) (hbindings : s'.bindings = s.bindings) : s'.Traced := by
  refine h.grown (hgraph ▸ refl_of (Graph.Draws s.graph.Referable) s.graph) fun entry hentry => ?_
  rw [hgraph]
  exact h.bindings entry (hbindings ▸ hentry)

theorem referable_of_named (h : s.Traced) {entry : String × TargetId} (hentry : entry ∈ s.graph.named) :
    s.graph.Referable entry.2 := by
  obtain ⟨hmem, hgroup⟩ := h.named entry hentry
  have made := h.targets entry.2 hmem
  exact ⟨made, .inl ⟨hgroup, (h.nodes entry.2 made).otherOutputs_eq hgroup⟩⟩

/-- Arguments stand for targets that names are bound to. -/
theorem referable_of_resolve (h : s.Traced) {args : Arguments String} {resolved : Arguments TargetId}
    (hresolved : args.resolve s.boundTarget = .ok resolved) : ∀ u ∈ resolved.references, s.graph.Referable u := by
  intro u hu
  obtain ⟨name, hname⟩ := Arguments.lookedUp_of_resolve hresolved hu
  unfold boundTarget at hname
  split at hname
  next t hget =>
    cases hname
    exact h.bindings _ (Table.mem_of_get? hget)
  · cases hname

end Traced
end Session

namespace Pass
open Session

theorem refers_referable : Refers Traced Graph.Referable where
  grown h growth := Graph.referable_of_growth growth h
  bound hs h := hs.bindings _ (Table.mem_of_get? h)
  found hs h := by
    obtain ⟨entry, hentry, rfl⟩ := Graph.exists_of_findGiven h
    exact hs.referable_of_named hentry
  tagged {s name here t g'} hs h := by
    have hgrowth : Graph.ScriptGrowth s.graph ((Graph.tag name here).run s.graph).2 := Graph.leads_tag name here s.graph
    rw [h] at hgrowth
    exact (Graph.tagGroups_of_growth hgrowth hs.tags name t (Graph.get?_tags_of_tag h)).referable

/-- What is declared can be referred to. -/
theorem yields_declare (kind : Declare.Kind) (here : Option Location) (args : Arguments TargetId) :
    Yields Traced (declare kind here args) fun t s => s.graph.Referable t := by
  intro s id s' _ hrun
  obtain ⟨b, t, _, htarget, hadd⟩ := declare_eq_ok hrun
  obtain ⟨rfl, hgrowth⟩ := Declare.add_eq_ok hadd
  have hnode : (({ s.graph with nodes := s.graph.nodes.push t } : Graph).registered ⟨s.graph.nodes.size⟩).node
      ⟨s.graph.nodes.size⟩ = t := Graph.node_push_self s.graph t
  refine Graph.referable_of_growth hgrowth ⟨by simp [Graph.Made, Graph.registered], ?_⟩
  rw [hnode]
  exact (Declare.Kind.declaredOver_of_target htarget).kind.symm.imp_right fun hstep =>
    ⟨List.mem_append_right _ (List.mem_singleton_self _), hstep⟩

theorem admits_draws (R : TargetId → Prop) :
    Admits (fun t => t.isPass = false ∧ t.NeedsOnly R) (Graph.Draws R) :=
  have each : Admits (Target.NeedsOnly R) (Graph.EachTarget (Target.AddsOnly R) (Target.NeedsOnly R)) := admits_each
  admits_growth.join each (fun _ h => h) fun _ _ growth same => ⟨growth, same⟩

theorem draws_perform {R : TargetId → Prop} (here : Option Location) (verb : Verb) (on : Option String)
    {args : Arguments TargetId} (h : ∀ u ∈ args.references, R u) :
    Leads (Deeds (Graph.Draws R)) (perform here verb on args) := by
  have hpositional : ∀ value ∈ args.positional, ∀ u, value.reference? = some u → R u := fun value hvalue u hu =>
    h u (List.mem_flatMap.mpr ⟨value, List.mem_append_left _ hvalue, Argument.mem_references hu⟩)
  refine leads_perform (admits_draws R) verb on (fun kind s b t hbind htarget => ?_)
    (fun _ t => Graph.draws_depends t hpositional) fun _ => Graph.draws_addPassInput
  have hdeclared := Declare.Kind.declaredOver_of_target htarget
  exact ⟨hdeclared.isPass, fun u hu => h u (Signature.references_subset hbind (hdeclared.inputs u hu)),
    .inr hdeclared.kind⟩

end Pass

namespace Session

theorem kept_traced : Kept Traced where
  of_graph := Traced.of_graph
  noted {s r} hs _ script := by
    have hedit : Graph.ScriptGrowth s.graph (s.graph.modifyNode r (Target.addInputPath script)) :=
      .single (.edit s.graph r (Graph.same_addInputPath script))
    have heach : Graph.EachTarget (Target.AddsOnly s.graph.Referable) (Target.NeedsOnly s.graph.Referable) s.graph
        (s.graph.modifyNode r (Target.addInputPath script)) :=
      Graph.each_modifyNode s.graph r (Target.addsOnly_addInputPath (s.graph.node r) script)
    exact hs.grown ⟨hedit, heach⟩ fun entry hentry => Graph.referable_of_growth hedit (hs.bindings entry hentry)
  call {s} hs here verb args on bindTo := by
    obtain ⟨s₁, bindings, hdone, hrun, hnew⟩ := Pass.callStatement_cases hs on bindTo
      (fun resolved hresolved => Pass.draws_perform (some here) verb on (hs.referable_of_resolve hresolved) s)
      fun resolved _ => Pass.yields_perform_of Pass.refers_referable verb on fun kind =>
        Pass.yields_declare kind (some here) resolved
    rw [hrun]
    refine hs.grown hdone.graph fun entry hentry => ?_
    rcases hnew entry hentry with hold | hgiven
    · exact Graph.referable_of_growth hdone.graph.growth (hs.bindings entry hold)
    · exact hgiven

/-- What holds of empty groups and of the target for the pass holds of all that there is at the start. -/
theorem nodes_start (Alters : Target → Target → Prop) {New : Target → Prop} [Graph.Lasting Alters New] (setup : Setup)
    (files : FileTree) (hpass : New (passTarget setup)) (t : TargetId) (made : (start setup files).graph.Made t) :
    New ((start setup files).graph.node t) := by
  have htag : Graph.EachTarget Alters New (Graph.blank (some setup.build.toString))
      (Graph.start (some setup.build.toString)) := Graph.each_tag Graph.defaultTag none _
  have hpush : Graph.EachTarget Alters New (Graph.start (some setup.build.toString)) (graphWithTarget setup) :=
    Graph.each_push _ hpass
  have hnodes := hpush.forall_made (htag.forall_made fun u hu => absurd hu (Nat.not_lt_zero _))
  rw [graph_start, startGraph_eq setup] at made ⊢
  generalize graphWithTarget setup = g at hnodes made ⊢
  exact hnodes t made

theorem traced_start (setup : Setup) (files : FileTree) : (start setup files).Traced where
  targets := targetsMade_of_reached (.start : Reached setup files _)
  tags := tagGroups_of_reached (.start : Reached setup files _)
  named := by
    have hnamed := Graph.namedGroups_of_growth (growth_graphWithTarget setup)
      (fun _ h => absurd h List.not_mem_nil) fun _ h => absurd h List.not_mem_nil
    rw [graph_start, startGraph_eq setup]
    generalize graphWithTarget setup = g at hnamed ⊢
    exact hnamed
  nodes := nodes_start (Target.AddsOnly _) setup files ⟨fun _ h => absurd h List.not_mem_nil, .inl rfl⟩
  bindings := fun _ h => absurd h List.not_mem_nil

theorem traced_of_reached {setup : Setup} {files : FileTree} {s : Session} (h : Reached setup files s) : s.Traced :=
  kept_traced.of_reached (traced_start setup files) h

theorem apart_of_reached {setup : Setup} {files : FileTree} {s : Session} (h : Reached setup files s) :
    s.graph.Apart :=
  graph_of_reached Graph.apart_blank (fun step => step.apart) Graph.apart_installed h

end Session
end BuildTree
