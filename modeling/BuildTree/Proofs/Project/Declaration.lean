import BuildTree.Proofs.Graph.Attachment
import BuildTree.Proofs.Project.Reached

/-!
# Declarations as a whole

A declaration that goes through has registered its target behind all others, and what is behind it are groups of tags
that it was the first to use; each tag needs the target as often as it is listed. A declaration that fails has done
nothing, with one exception: attaching to the tags comes after registering. A declaration that could be registered,
but not attached to all that is listed as its tags, has left its target behind, and its outputs are taken from then on.
-/

namespace BuildTree
open Effect Relation

namespace Graph

/-- The graph with one more target, which is not registered. -/
def withTarget (g : Graph) (t : Target) : Graph :=
  { g with nodes := g.nodes.push t }

/-- A graph in which nothing has changed but that targets may have been made that nothing refers to. -/
structure AsBefore (g g' : Graph) : Prop where
  same : g' = { g with nodes := g'.nodes }
  made : ∀ t, g.Made t → g'.Made t
  node : ∀ t, g.Made t → g'.node t = g.node t

theorem AsBefore.refl (g : Graph) : AsBefore g g := ⟨rfl, fun _ h => h, fun _ _ => rfl⟩

theorem AsBefore.targets {g g' : Graph} (h : AsBefore g g') : g'.targets = g.targets := by
  have htargets := congrArg Graph.targets h.same
  exact htargets

theorem asBefore_withTarget (g : Graph) (t : Target) : AsBefore g (g.withTarget t) where
  same := rfl
  made := (still_push g t).made
  node _ h := node_push g t h

/-- A target has been declared with tags: it is the last one that does not belong to a tag, it is what it was made as,
it is attached to every tag as often as that is listed, and nothing else about targets and tags has changed. -/
structure Declared (here : Option Location) (t : Target) (names : List String) (g g' : Graph) (id : TargetId) :
    Prop where
  fresh : ¬ g.Made id
  node : g'.node id = t
  notTag : ∀ name, g'.tags.get? name ≠ some id
  targets : ∃ groups, g'.targets = g.targets ++ id :: groups ∧ ∀ u ∈ groups, ∃ name, g'.tags.get? name = some u
  tags : ∀ name u, g.tags.get? name = some u → g'.tags.get? name = some u
  entered : ∀ name, (∃ u, g'.tags.get? name = some u) ↔ (∃ u, g.tags.get? name = some u) ∨ name ∈ names
  attached : ∀ name,
    g'.tagNode here name = (g.tagNode here name).needing (List.replicate (names.count name) (.target id))
  others : ∀ u, g.Made u → (∀ name, g.tags.get? name ≠ some u) → g'.node u = g.node u

section Declared
variable {g : Graph} {t : Target} {here : Option Location} {names : List String}

theorem tagGroups_registered (groups : TagGroups g) (t : Target) (free : (g.withTarget t).Registrable ⟨g.nodes.size⟩) :
    TagGroups ((g.withTarget t).registered ⟨g.nodes.size⟩) := by
  have hmake : Growth (fun _ => True) (fun _ => True) g (g.withTarget t) := .make g trivial
  have hmade : (g.withTarget t).Made ⟨g.nodes.size⟩ := by simp [Made, withTarget]
  have hregister : Growth (fun _ => True) (fun _ => True) (g.withTarget t) _ := .register hmade free fun _ => trivial
  exact hregister.tagGroups (hmake.tagGroups groups)

theorem declared_of_attached (groups : TagGroups g) {g' : Graph}
    (h : Attached (.target ⟨g.nodes.size⟩) here names ((g.withTarget t).registered ⟨g.nodes.size⟩) g') :
    Declared here t names g g' ⟨g.nodes.size⟩ := by
  let id : TargetId := ⟨g.nodes.size⟩
  have hnew : ¬ g.Made id := Nat.lt_irrefl _
  have hmade : ((g.withTarget t).registered id).Made id := by simp [Made, registered, withTarget, id]
  have hbefore : ∀ name, ((g.withTarget t).registered id).tags.get? name ≠ some id := fun name hname =>
    hnew (groups name id hname).ordinary.1
  have hold : ∀ u, g.Made u → ((g.withTarget t).registered id).node u = g.node u := fun u hu => node_push g t hu
  refine ⟨hnew, ?_, fun name hname => ?_, ?_, h.tags, fun name => ⟨?_, ?_⟩, fun name => ?_,
    fun u hu hnone => ?_⟩
  · rw [h.others id hmade hbefore]
    exact node_push_self g t
  · cases hfirst : g.tags.get? name with
    | none => exact (h.fresh name id hfirst hname).2 hmade
    | some u =>
      obtain rfl : id = u := Option.some.inj (hname.symm.trans (h.tags name u hfirst))
      exact hbefore name hfirst
  · obtain ⟨fresh, htargets, hfresh⟩ := h.targets
    refine ⟨fresh, ?_, fun u hu => (hfresh u hu).2⟩
    rw [htargets]
    exact List.append_assoc g.targets [id] fresh
  · rintro ⟨u, hu⟩
    cases hfirst : g.tags.get? name with
    | none => exact .inr (h.fresh name u hfirst hu).1
    | some v => exact .inl ⟨v, rfl⟩
  · rintro (⟨u, hu⟩ | hname)
    · exact ⟨u, h.tags name u hu⟩
    · exact h.entered name hname
  · have htags : ((g.withTarget t).registered id).tags.get? name = g.tags.get? name := rfl
    rw [h.group, tagNode_of_same htags (fun u hu => hold u (groups name u hu).ordinary.1) here]
  · have hmade' : ((g.withTarget t).registered id).Made u := (still_push g t).made u hu
    rw [h.others u hmade' hnone, hold u hu]

end Declared
end Graph

namespace Declare
variable {s : Session} {here : Option Location}

/-- A declaration that fails too late: its target can be registered, but not be attached to all its tags. -/
def LeavesBehind (s : Session) (kind : Kind) (here : Option Location) (args : Arguments TargetId) (t : Target) : Prop :=
  ∃ b, kind.signature.bind? args = some b ∧ kind.target s here b = .ok t ∧
    (s.graph.withTarget t).Registrable ⟨s.graph.nodes.size⟩ ∧
    ∀ names, ¬ ((s.graph.withTarget t).registered ⟨s.graph.nodes.size⟩).Attachable
      (Argument.oneText (b.getMany "tags")) names

/-- Adding a target: it is registered and attached, or it is registered and not attached, or nothing is done. -/
theorem add_cases {g : Graph} (groups : g.TagGroups) (here : Option Location) (t : Target) (tags : Given) :
    (∃ names g', (g.withTarget t).Registrable ⟨g.nodes.size⟩ ∧
        ((g.withTarget t).registered ⟨g.nodes.size⟩).Attachable (Argument.oneText tags) names ∧
        (add here t tags).run g = (.ok ⟨g.nodes.size⟩, g') ∧ g.Declared here t names g' ⟨g.nodes.size⟩) ∨
      (∃ f g', (g.withTarget t).Registrable ⟨g.nodes.size⟩ ∧
        (∀ names, ¬ ((g.withTarget t).registered ⟨g.nodes.size⟩).Attachable (Argument.oneText tags) names) ∧
        (add here t tags).run g = (.error f, g') ∧ ⟨g.nodes.size⟩ ∈ g'.targets ∧
        ∀ o ∈ t.allOutputs, o ∈ g'.claims.keys) ∨
      (∃ f, ¬ (g.withTarget t).Registrable ⟨g.nodes.size⟩ ∧ (add here t tags).run g = (.error f, g.withTarget t)) := by
  have hrun : (add here t tags).run g = andThen (fun _ => do
      Graph.attachGiven (.target ⟨g.nodes.size⟩) (Argument.oneText tags) here
      return ⟨g.nodes.size⟩) ((Graph.register ⟨g.nodes.size⟩).run (g.withTarget t)) := by
    simp only [add, run_bind, Graph.run_allocate, andThen_ok]
    rfl
  have hdecides := Graph.register_decides (g.withTarget t) ⟨g.nodes.size⟩
  rw [hrun]
  by_cases free : (g.withTarget t).Registrable ⟨g.nodes.size⟩
  · rw [hdecides.accepted free, andThen_ok, run_bind]
    have hcases := Graph.attachGiven_cases (Graph.tagGroups_registered groups t free) ⟨g.nodes.size⟩
      (Argument.oneText tags) here
    rcases hcases with ⟨names, g', hattachable, hok, h⟩ | ⟨hnot, f, g', hfailed⟩
    · rw [hok]
      exact .inl ⟨names, g', free, hattachable, rfl, Graph.declared_of_attached groups h⟩
    · rw [hfailed]
      have hgrowth : Graph.ScriptGrowth ((g.withTarget t).registered ⟨g.nodes.size⟩) _ :=
        Graph.leads_attachGiven (.target ⟨g.nodes.size⟩) (Argument.oneText tags) here _
      rw [hfailed] at hgrowth
      have htarget : ⟨g.nodes.size⟩ ∈ ((g.withTarget t).registered ⟨g.nodes.size⟩).targets :=
        List.mem_append_right _ (List.mem_singleton_self _)
      have houts : ((g.withTarget t).node ⟨g.nodes.size⟩).allOutputs = t.allOutputs :=
        congrArg Target.allOutputs (Graph.node_push_self g t)
      exact .inr (.inl ⟨f, g', free, hnot, rfl, (Graph.Growth.keeps_of_steps hgrowth).targets.subset htarget,
        fun o ho => Graph.claimed_of_growth hgrowth (Graph.mem_keys_claims_registered (.inl (houts ▸ ho)))⟩)
  · obtain ⟨f, hrefused⟩ := hdecides.refused free
    rw [hrefused]
    exact .inr (.inr ⟨f, free, rfl⟩)

end Declare

/-- A declaration does what adding its target to the graph does, if its arguments are those of a target. -/
theorem run_declare_cases (kind : Declare.Kind) (here : Option Location) (args : Arguments TargetId) (s : Session) :
    (∃ b t, kind.signature.bind? args = some b ∧ kind.target s here b = .ok t ∧
        (Pass.declare kind here args).run s = (((Declare.add here t (b.getMany "tags")).run s.graph).1,
          s.grown ((Declare.add here t (b.getMany "tags")).run s.graph).2)) ∨
      (∀ t, ¬ Declare.LeavesBehind s kind here args t) ∧ ∃ f, (Pass.declare kind here args).run s = (.error f, s) := by
  unfold Pass.declare
  cases hbind : kind.signature.bind? args with
  | none =>
    refine .inr ⟨fun t h => ?_, .typeMismatch, rfl⟩
    obtain ⟨b, hb, _⟩ := h
    cases hbind.symm.trans hb
  | some b =>
    simp only [run_bind, run_get, andThen_ok, run_lift]
    cases htarget : kind.target s here b with
    | error f =>
      refine .inr ⟨fun t h => ?_, f, rfl⟩
      obtain ⟨b', hb, ht, _⟩ := h
      cases hbind.symm.trans hb
      cases htarget.symm.trans ht
    | ok t => exact .inl ⟨b, t, rfl, htarget, rfl⟩

/-- What a declaration does, wherever a pass has got to. If it gives a target, that has been declared with its tags,
each as often as it is listed. If it fails, the graph is as it was, unless it leaves a target behind. A declaration
that leaves one behind always fails, and the outputs of that target are taken. -/
theorem declaration_effect {setup : Setup} {files : FileTree} {s : Session} (reached : Session.Reached setup files s)
    (kind : Declare.Kind) (here : Option Location) (args : Arguments TargetId) :
    (∀ id, ((Pass.declare kind here args).run s).1 = .ok id → ∃ b t names, kind.signature.bind? args = some b ∧
        kind.target s here b = .ok t ∧ Argument.items (Argument.oneText (b.getMany "tags")) = .ok (names.map .text) ∧
        s.graph.Declared here t names ((Pass.declare kind here args).run s).2.graph id) ∧
      (∀ f, ((Pass.declare kind here args).run s).1 = .error f →
        (s.graph.AsBefore ((Pass.declare kind here args).run s).2.graph ↔
          ∀ t, ¬ Declare.LeavesBehind s kind here args t)) ∧
      ∀ t, Declare.LeavesBehind s kind here args t → (∃ f, ((Pass.declare kind here args).run s).1 = .error f) ∧
        ∃ id ∉ s.graph.targets, id ∈ ((Pass.declare kind here args).run s).2.graph.targets ∧
          ∀ o ∈ t.allOutputs, o ∈ ((Pass.declare kind here args).run s).2.graph.claims.keys := by
  have groups := Session.tagGroups_of_reached reached
  have hmade := Session.targetsMade_of_reached reached
  have hnew : (⟨s.graph.nodes.size⟩ : TargetId) ∉ s.graph.targets := fun h => Nat.lt_irrefl _ (hmade _ h)
  rcases run_declare_cases kind here args s with ⟨b, t, hbind, htarget, hrun⟩ | ⟨hnone, f, hrun⟩
  · have honly : ∀ t', Declare.LeavesBehind s kind here args t' → t' = t ∧
        (s.graph.withTarget t).Registrable ⟨s.graph.nodes.size⟩ ∧
        ∀ names, ¬ ((s.graph.withTarget t).registered ⟨s.graph.nodes.size⟩).Attachable
          (Argument.oneText (b.getMany "tags")) names := by
      rintro t' ⟨b', hb, ht, hleft⟩
      cases hbind.symm.trans hb
      cases htarget.symm.trans ht
      exact ⟨rfl, hleft⟩
    rw [hrun]
    rcases Declare.add_cases groups here t (b.getMany "tags") with
      ⟨names, g', _, hattachable, hadd, hdeclared⟩ | ⟨f, g', free, hnot, hadd, htargets, hclaims⟩ | ⟨f, hrefused, hadd⟩
    · rw [hadd]
      refine ⟨fun id hid => ?_, fun f hf => ?_, fun t' ht' => absurd hattachable ((honly t' ht').2.2 names)⟩
      · cases hid
        exact ⟨b, t, names, hbind, htarget, hattachable.1, hdeclared⟩
      · cases hf
    · rw [hadd]
      refine ⟨fun id hid => ?_, fun f hf => ⟨fun h => ?_, fun h => ?_⟩, fun t' ht' => ⟨⟨f, rfl⟩, _, hnew, htargets, ?_⟩⟩
      · cases hid
      · exact absurd (h.targets ▸ htargets) hnew
      · exact absurd ⟨b, hbind, htarget, free, hnot⟩ (h t)
      · rw [(honly t' ht').1]
        exact hclaims
    · rw [hadd]
      refine ⟨fun id hid => ?_, fun f hf => iff_of_true (s.graph.asBefore_withTarget t) fun t' ht' => ?_,
        fun t' ht' => absurd (honly t' ht').2.1 hrefused⟩
      · cases hid
      · exact hrefused (honly t' ht').2.1
  · rw [hrun]
    refine ⟨fun id hid => ?_, fun f hf => iff_of_true (.refl s.graph) hnone, fun t ht => absurd ht (hnone t)⟩
    cases hid

/-- The session after a group has been declared that is named like the group of a tag. -/
def docsTaken : Session :=
  ((runStatement (Pass.frameOf 0 ⟨.slash, ["s", "kiln.py"]⟩)
    (.call 1 .group ⟨[.text "tags/docs"], []⟩ none none)).run (.start plainSetup [])).2

theorem reached_docsTaken : Session.Reached plainSetup [] docsTaken := .ran 0 _ _ .start

/-- The arguments of a copy with tags. -/
def copyTagged (tags : List String) : Arguments TargetId :=
  ⟨[.text "out.txt", .text "in.txt"], [("tags", .list (tags.map .text))]⟩

theorem copyTagged_docs_fails :
    ∃ f, ((Pass.declare .copy none (copyTagged ["docs"])).run docsTaken).1 = .error f := by
  have hfault : FailsWith (fun _ => True) ((Pass.declare .copy none (copyTagged ["docs"])).run docsTaken).1 := by
    decide +kernel
  obtain ⟨f, hf, _⟩ := hfault
  exact ⟨f, hf⟩

/-- A copy with other tags is declared, and attached twice to one of them. With this tag it is left behind. -/
theorem declaration_effect_docsTaken :
    (∃ t g' id, docsTaken.graph.Declared none t ["all", "dist", "all"] g' id ∧
      (g'.tagNode none "all").implicitInputs = [.target id, .target id]) ∧
      ∃ t, Declare.LeavesBehind docsTaken .copy none (copyTagged ["docs"]) t := by
  constructor
  · obtain ⟨hdeclared, _, _⟩ := declaration_effect reached_docsTaken .copy none (copyTagged ["all", "dist", "all"])
    have hok : ((Pass.declare .copy none (copyTagged ["all", "dist", "all"])).run docsTaken).1.toOption = some ⟨3⟩ := by
      decide +kernel
    obtain ⟨b, t, names, hbind, _, htags, h⟩ := hdeclared ⟨3⟩ (eq_ok_of_toOption hok)
    cases hbind
    have hnames : ["all", "dist", "all"].map Value.text = names.map .text := Except.ok.inj htags
    obtain rfl := (List.map_inj_right fun _ _ => Value.text.inj).mp hnames
    refine ⟨t, _, ⟨3⟩, h, ?_⟩
    rw [h.attached "all"]
    decide +kernel
  · obtain ⟨_, hfailed, _⟩ := declaration_effect reached_docsTaken .copy none (copyTagged ["docs"])
    obtain ⟨f, hf⟩ := copyTagged_docs_fails
    by_contra hnone
    have hbefore := (hfailed f hf).mpr (not_exists.mp hnone)
    have htargets := hbefore.targets
    revert htargets
    decide +kernel

/-- So it is not so that a declaration which fails has done nothing. -/
theorem not_declaration_atomic :
    ¬ ∀ (setup : Setup) (files : FileTree) (s : Session), Session.Reached setup files s →
      ∀ (kind : Declare.Kind) (here : Option Location) (args : Arguments TargetId) (f : Fault),
        ((Pass.declare kind here args).run s).1 = .error f →
          s.graph.AsBefore ((Pass.declare kind here args).run s).2.graph := by
  intro h
  obtain ⟨f, hf⟩ := copyTagged_docs_fails
  have htargets := (h plainSetup [] docsTaken reached_docsTaken .copy none (copyTagged ["docs"]) f hf).targets
  revert htargets
  decide +kernel

end BuildTree
