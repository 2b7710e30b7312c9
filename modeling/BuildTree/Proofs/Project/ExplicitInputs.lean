import BuildTree.Proofs.Ninja.Failure
import BuildTree.Proofs.Ninja.Producers
import BuildTree.Proofs.Project.Referable

/-!
# What tools are given as files

The explicit inputs of a statement are what its rule hands to a tool. They are the outputs of what a target was declared
to need. A step makes its outputs by running something; a group makes nothing, and its name means something only inside
the build. So a tool is given files just if no group is among what its target needs explicitly, and looking a group up
gives that group, not what is in it.
-/

namespace BuildTree
open Effect BuildTree.Graph Ninja

namespace Ninja

/-- A path that the target was given as such, or an output of a registered target whose statement runs something. -/
def IsFile (g : Graph) (t : Target) (p : String) : Prop :=
  .path p ∈ t.inputs ∨
    ∃ u ∈ g.targets, (declared g (g.node u)).rule ≠ phony ∧ p ∈ (declared g (g.node u)).allOutputs

instance (g : Graph) (t : Target) (p : String) : Decidable (IsFile g t p) :=
  inferInstanceAs (Decidable (_ ∨ _))

section Rule
variable (g : Graph) {t : Target}

theorem rule_of_isGroup (h : t.isGroup = true) : (declared g t).rule = phony := by
  unfold Target.isGroup at h
  show g.text t.action.rule = phony
  cases haction : t.action <;> simp [haction] at h
  rfl

theorem rule_of_isStep (h : t.isStep = true) : (declared g t).rule ≠ phony := by
  unfold Target.isStep at h
  show g.text t.action.rule ≠ phony
  cases haction : t.action with
  | run recipe => exact show "command" ≠ phony by decide
  | copy => exact show "copy" ≠ phony by decide
  | compile c =>
    rw [haction] at h
    cases hrule : c.rule with
    | text rule =>
      have hrules : rule = "compile" ∨ rule = "link" := by simpa [hrule] using h
      have htext : g.text (Action.compile c).rule = rule := congrArg g.text hrule
      rw [htext]
      rcases hrules with rfl | rfl <;> decide
    | _ => simp [hrule] at h
  | _ => simp [haction] at h

end Rule

/-- A statement that compiles, links or copies is that of a registered target. -/
theorem exists_of_origin {g : Graph} {st : Statement} (h : Origin g st) (rule : st.rule ∈ ["compile", "link", "copy"]) :
    ∃ t ∈ g.targets, st = declared g (g.node t) := by
  cases h with
  | target registered stated => exact ⟨_, registered, (targetStatement_eq_ok stated).1⟩
  | pass _ stated _ =>
    rw [stated] at rule
    exact absurd rule (by simp [passStatement])
  | clean stated =>
    rw [stated] at rule
    exact absurd rule (by decide)
  | help stated _ =>
    rw [stated] at rule
    exact absurd rule (by simp [helpStatement])

section Inputs
variable {g : Graph} {t : Target}

/-- An explicit input is a file, or it is the name of a group that the target needs explicitly. -/
theorem isFile_or_group (h : ∀ u, .target u ∈ t.inputs → g.Referable u) {p : String}
    (hp : p ∈ (declared g t).inputs) :
    IsFile g t p ∨ ∃ u, .target u ∈ t.inputs ∧ (g.node u).isGroup = true ∧ p = (g.node u).name := by
  obtain ⟨dep, hdep, hp⟩ := List.mem_flatMap.mp hp
  cases dep with
  | path q =>
    rw [List.mem_singleton.mp hp]
    exact .inl (.inl hdep)
  | target u =>
    rcases (h u hdep).kind with ⟨hgroup, houtputs⟩ | ⟨registered, hstep⟩
    · refine .inr ⟨u, hdep, hgroup, ?_⟩
      have hp' : p ∈ (g.node u).name :: (g.node u).otherOutputs := hp
      rw [houtputs] at hp'
      exact List.mem_singleton.mp hp'
    · exact .inl (.inr ⟨u, registered, rule_of_isStep g hstep, List.mem_append_left _ hp⟩)

theorem name_mem_inputs {u : TargetId} (hu : .target u ∈ t.inputs) : (g.node u).name ∈ (declared g t).inputs :=
  List.mem_flatMap.mpr ⟨_, hu, List.mem_cons_self⟩

/-- The name of a registered group is no file, unless the target was given it as a path as well. -/
theorem isFile_name_iff (apart : g.Apart) {u : TargetId} (registered : u ∈ g.targets)
    (hgroup : (g.node u).isGroup = true) : IsFile g t (g.node u).name ↔ .path (g.node u).name ∈ t.inputs := by
  refine ⟨fun h => h.resolve_right ?_, .inl⟩
  rintro ⟨v, hv, hrule, hname⟩
  obtain rfl := apart.unique v hv u registered _ hname (List.mem_append_left _ List.mem_cons_self)
  exact hrule (rule_of_isGroup g hgroup)

/-- The statement of a target that can need groups and registered steps: what it is given are files, just if the name of
every group that the target needs explicitly is one. Otherwise it is given names of such groups, and those of registered
groups are files only if the target was given them as paths. -/
structure Fed (g : Graph) (t : Target) (st : Statement) : Prop where
  stated : st = declared g t
  inputs : ∀ p ∈ st.inputs, IsFile g t p ∨
    ∃ u, .target u ∈ t.inputs ∧ (g.node u).isGroup = true ∧ p = (g.node u).name
  files_iff : (∀ p ∈ st.inputs, IsFile g t p) ↔
    ∀ u, .target u ∈ t.inputs → (g.node u).isGroup = true → IsFile g t (g.node u).name
  group : ∀ u ∈ g.targets, .target u ∈ t.inputs → (g.node u).isGroup = true →
    (g.node u).name ∈ st.inputs ∧ (IsFile g t (g.node u).name ↔ .path (g.node u).name ∈ t.inputs)

theorem fed_declared (h : ∀ u, .target u ∈ t.inputs → g.Referable u) (apart : g.Apart) : Fed g t (declared g t) where
  stated := rfl
  inputs _ hp := isFile_or_group h hp
  files_iff := by
    refine ⟨fun hfiles u hu _ => hfiles _ (name_mem_inputs hu), fun hgroups p hp => ?_⟩
    rcases isFile_or_group h hp with hfile | ⟨u, hu, hgroup, rfl⟩
    · exact hfile
    · exact hgroups u hu hgroup
  group _ registered hu hgroup := ⟨name_mem_inputs hu, isFile_name_iff apart registered hgroup⟩

end Inputs
end Ninja

/-- What a statement that compiles, links or copies is given as explicit inputs, wherever a pass has got to. The
statements of registered targets are all written, if partitions are named by texts. Looking up gives registered groups,
and all that is handed on of a group is its name. -/
theorem explicitInputs_fed {setup : Setup} {files : FileTree} {s : Session} (reached : Session.Reached setup files s)
    {interpreter : String} {out : Table (List Item)} (emitted : emitItems s.graph interpreter = .ok out)
    {entry : String × List Item} (hentry : entry ∈ out) {st : Ninja.Statement} (stated : Item.build st ∈ entry.2)
    (rule : st.rule ∈ ["compile", "link", "copy"]) :
    (∃ t ∈ s.graph.targets, Fed s.graph (s.graph.node t) st) ∧
      ((∀ t ∈ s.graph.targets, (s.graph.node t).Named) →
        ∀ u ∈ s.graph.targets, ∃ e ∈ out, Item.build (declared s.graph (s.graph.node u)) ∈ e.2) ∧
      ∀ value u, s.graph.findGiven value = .ok u → u ∈ s.graph.targets ∧
        (declared s.graph (s.graph.node u)).rule = phony ∧ s.graph.resolve [.target u] = [(s.graph.node u).name] := by
  have traced := Session.traced_of_reached reached
  refine ⟨?_, fun named u hu => ?_, fun value u hfound => ?_⟩
  · obtain ⟨t, ht, rfl⟩ := exists_of_origin ((originated_of_mem emitted hentry).split stated).1 rule
    have hneeds := (traced.nodes t (traced.targets t ht)).inputs
    exact ⟨t, ht, fed_declared hneeds (Session.apart_of_reached reached)⟩
  · obtain ⟨_, items, hitems, hbuild⟩ := (laid_of_emitItems named emitted).statement hu
    exact ⟨_, Table.mem_of_get? hitems, hbuild⟩
  · obtain ⟨entry, hentry, rfl⟩ := exists_of_findGiven hfound
    obtain ⟨registered, hgroup⟩ := traced.named entry hentry
    refine ⟨registered, rule_of_isGroup _ hgroup, ?_⟩
    have houtputs := (traced.nodes _ (traced.targets _ registered)).otherOutputs_eq hgroup
    have hname : (s.graph.node entry.2).outputs = [(s.graph.node entry.2).name] := congrArg (List.cons _) houtputs
    rw [Graph.resolve, List.flatMap_singleton]
    exact hname

/-- A project that compiles a source, names a group for the object, and links what it finds by that name. -/
def linkedFiles : FileTree :=
  [("/s/kiln.py", .script [
    .call 1 .compile ⟨[.text "main.o"], [("source", .text "main.c")]⟩ none (some "obj"),
    .call 2 .group ⟨[.text "objects", .target "obj"], []⟩ none none,
    .call 3 .find ⟨[.text "objects$"], []⟩ none (some "found"),
    .call 4 .link ⟨[.text "app"], [("objects", .list [.target "found"])]⟩ none none])]

def linked : Session :=
  (Pass.configure.run (.start plainSetup linkedFiles)).2

theorem reached_linked : Session.Reached plainSetup linkedFiles linked := .configured .start

theorem run_configure_linked : Pass.configure.run (.start plainSetup linkedFiles) = (.ok (), linked) :=
  eq_ok_pair_of_toOption (by decide +kernel)

theorem exists_emitItems_linked : ∃ out, emitItems linked.graph plainSetup.interpreter = .ok out :=
  exists_emitItems_of_root _ (List.length_eq_zero_iff.mp (by decide +kernel)) (by decide +kernel) (by decide +kernel)
    (by decide +kernel) (by decide +kernel)

/-- The statements that compile and that link there. -/
def linkedStatements : List Ninja.Statement :=
  let values : List Binding := [⟨"compiler", "cc"⟩, ⟨"flags", ""⟩, ⟨"root", "/s"⟩]
  [⟨["/b/main.o"], [], "compile", ["/s/main.c"], [], [], values⟩,
    ⟨["/b/app"], [], "link", ["objects"], [], [], values⟩]

theorem mem_of_linkedStatements {out : Table (List Item)}
    (emitted : emitItems linked.graph plainSetup.interpreter = .ok out) {st : Ninja.Statement}
    (h : st ∈ linkedStatements) : ∃ entry ∈ out, Item.build st ∈ entry.2 := by
  have hnamed : ∀ t ∈ linked.graph.targets, (linked.graph.node t).Named := by decide +kernel
  have hdeclared : ∀ st ∈ linkedStatements, ∃ t ∈ linked.graph.targets,
      st = declared linked.graph (linked.graph.node t) := by
    decide +kernel
  obtain ⟨t, ht, rfl⟩ := hdeclared st h
  exact exists_build_of_registered hnamed emitted ht

/-- The source that is compiled is a file. What is linked is the name of the group, which is none. -/
theorem explicitInputs_fed_linked :
    ∃ out, emitItems linked.graph plainSetup.interpreter = .ok out ∧ ∀ st ∈ linkedStatements,
      ∃ t ∈ linked.graph.targets, Fed linked.graph (linked.graph.node t) st ∧
        ((∀ p ∈ st.inputs, IsFile linked.graph (linked.graph.node t) p) ↔ st.rule = "compile") := by
  have hfiles : ∀ st ∈ linkedStatements, st.rule ∈ ["compile", "link", "copy"] ∧
      ∀ t ∈ linked.graph.targets, st = declared linked.graph (linked.graph.node t) →
        ((∀ p ∈ st.inputs, IsFile linked.graph (linked.graph.node t) p) ↔ st.rule = "compile") := by
    decide +kernel
  obtain ⟨out, emitted⟩ := exists_emitItems_linked
  refine ⟨out, emitted, fun st hst => ?_⟩
  obtain ⟨entry, hentry, hbuild⟩ := mem_of_linkedStatements emitted hst
  obtain ⟨hrule, hinputs⟩ := hfiles st hst
  obtain ⟨⟨t, ht, hfed⟩, _⟩ := explicitInputs_fed reached_linked emitted hentry hbuild hrule
  exact ⟨t, ht, hfed, hinputs t ht hfed.stated⟩

/-- Scripts that declare and look up, and do nothing else. -/
def DeclaresOnly (files : FileTree) : Prop :=
  ∀ entry ∈ files, ∀ body, entry.2 = .script body → ∀ statement ∈ body, ∃ line verb args bindTo,
    statement = .call line verb args none bindTo ∧
      verb ∈ [Verb.command, .compile, .link, .copy, .group, .find, .tag]

theorem declaresOnly_linked : DeclaresOnly linkedFiles := by
  intro entry hentry body hbody statement hstatement
  rw [List.mem_singleton.mp hentry] at hbody
  cases hbody
  simp only [List.mem_cons, List.not_mem_nil, or_false] at hstatement
  rcases hstatement with rfl | rfl | rfl | rfl <;> exact ⟨_, _, _, _, rfl, by decide⟩

/-- Nothing is made by the name of the group in that project but by statements that run nothing. -/
theorem rule_eq_phony_linked {out : Table (List Item)}
    (emitted : emitItems linked.graph plainSetup.interpreter = .ok out) {entry : String × List Item}
    (hentry : entry ∈ out) {st : Ninja.Statement} (hbuild : Item.build st ∈ entry.2)
    (hname : "objects" ∈ st.allOutputs) : st.rule = phony := by
  have htargets : ∀ t ∈ linked.graph.targets, "objects" ∈ (declared linked.graph (linked.graph.node t)).allOutputs →
      (declared linked.graph (linked.graph.node t)).rule = phony := by
    decide +kernel
  have hpass : ∀ r ∈ linked.graph.pass.toList, "objects" ∉ passFiles linked.graph r := by decide +kernel
  cases ((originated_of_mem emitted hentry).split hbuild).1 with
  | target registered stated =>
    obtain rfl := (targetStatement_eq_ok stated).1
    exact htargets _ registered hname
  | pass installed stated _ =>
    rw [stated] at hname
    exact absurd ((List.mem_append.mp hname).resolve_right List.not_mem_nil) (hpass _ (Option.mem_toList.mpr installed))
  | clean stated =>
    rw [stated] at hname
    exact absurd hname (by decide)
  | help stated _ =>
    rw [stated] at hname
    exact absurd hname (show "objects" ∉ ["help"] by decide)

/-- So it is not so that all that such scripts let tools be given are paths that scripts have given, or outputs of
statements that run something. -/
theorem not_explicitInputs_files :
    ¬ ∀ (setup : Setup) (files : FileTree) (s : Session), DeclaresOnly files →
      Pass.configure.run (.start setup files) = (.ok (), s) → ∀ out, emitItems s.graph setup.interpreter = .ok out →
        ∀ entry ∈ out, ∀ st, Item.build st ∈ entry.2 → st.rule ∈ ["compile", "link", "copy"] → ∀ p ∈ st.inputs,
          (∃ t ∈ s.graph.targets, .path p ∈ (s.graph.node t).inputs) ∨
            ∃ e ∈ out, ∃ other, Item.build other ∈ e.2 ∧ other.rule ≠ phony ∧ p ∈ other.allOutputs := by
  intro h
  obtain ⟨st, hst, hrule, hp⟩ : ∃ st ∈ linkedStatements,
      st.rule ∈ ["compile", "link", "copy"] ∧ "objects" ∈ st.inputs := by
    decide +kernel
  have hpath : ∀ t ∈ linked.graph.targets, Dependency.path "objects" ∉ (linked.graph.node t).inputs := by
    decide +kernel
  obtain ⟨out, emitted⟩ := exists_emitItems_linked
  obtain ⟨entry, hentry, hbuild⟩ := mem_of_linkedStatements emitted hst
  have hfile := h plainSetup linkedFiles linked declaresOnly_linked run_configure_linked out emitted entry hentry st
    hbuild hrule "objects" hp
  rcases hfile with ⟨t, ht, hgiven⟩ | ⟨e, he, other, hother, hphony, hout⟩
  · exact hpath t ht hgiven
  · exact hphony (rule_eq_phony_linked emitted he hother hout)

end BuildTree
