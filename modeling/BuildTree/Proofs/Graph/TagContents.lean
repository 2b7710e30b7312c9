import BuildTree.Proofs.Graph.Claims
import BuildTree.Proofs.Graph.TagHistory
import BuildTree.Proofs.Ninja.Failure
import BuildTree.Proofs.Ninja.Producers

/-!
# What the group of a tag holds

If every operation of a run is carried out and nothing but attaching adds to the groups of tags, the group of a tag
needs what was attached to it, in that order and each time it was, and nothing else. It does not matter when the group
was made: what is looked up, before anything is attached or afterwards, is the one group. Its statement refers to the
outputs that the attached targets have in the end.
-/

namespace BuildTree

/-- A target that needs these as implicit inputs, and nothing else. -/
structure Target.HoldsOnly (t : Target) (deps : List Dependency) : Prop where
  inputs : t.inputs = []
  implicitInputs : t.implicitInputs = deps
  orderOnlyInputs : t.orderOnlyInputs = []

theorem Target.HoldsOnly.needing {t : Target} {deps : List Dependency} (h : t.HoldsOnly deps)
    (more : List Dependency) : (t.needing more).HoldsOnly (deps ++ more) :=
  ⟨h.inputs, congrArg (· ++ more) h.implicitInputs, h.orderOnlyInputs⟩

theorem Target.holdsOnly_emptyGroup (name : String) (location : Option Location) :
    (Target.emptyGroup name location).HoldsOnly [] := ⟨rfl, rfl, rfl⟩

namespace Graph
open Effect Relation

/-- What an operation attaches, tag by tag. -/
def Operation.attachments : Operation → List (String × Dependency)
  | .attach dep _ names => names.map (·, dep)
  | _ => []

/-- What operations attach to a tag, in their order, each time they do. -/
def attachedTo (ops : List Operation) (name : String) : List Dependency :=
  ((ops.flatMap Operation.attachments).filter (·.1 = name)).map (·.2)

/-- The target that an operation adds inputs to by itself. -/
def Operation.addsTo : Operation → Option TargetId
  | .addInputs t _ => some t
  | .addImplicitInputs t _ => some t
  | _ => none

/-- Every operation of a run is carried out, and none of them but those that attach adds to the group of a tag. -/
def AttachesOnly : Graph → List Operation → Prop
  | _, [] => True
  | g, op :: rest => g.accepts op = true ∧ (∀ entry ∈ g.tags, op.addsTo ≠ some entry.2) ∧ AttachesOnly (g.after op) rest

instance decidableAttachesOnly : (g : Graph) → (ops : List Operation) → Decidable (g.AttachesOnly ops)
  | _, [] => isTrue trivial
  | g, op :: rest =>
    have : Decidable ((g.after op).AttachesOnly rest) := decidableAttachesOnly (g.after op) rest
    inferInstanceAs (Decidable (_ ∧ _ ∧ _))

section Attachments
variable (name : String)

theorem attachedTo_cons (op : Operation) (rest : List Operation) :
    attachedTo (op :: rest) name = attachedTo [op] name ++ attachedTo rest name := by
  simp only [attachedTo, List.flatMap_cons, List.flatMap_nil, List.append_nil, List.filter_append, List.map_append]

/-- Listed twice is attached twice. -/
theorem attachedTo_attach (dep : Dependency) (location : Option Location) (names : List String) :
    attachedTo [.attach dep location names] name = List.replicate (names.count name) dep := by
  induction names with
  | nil => rfl
  | cons other rest ih =>
    have hrest : ((rest.map (·, dep)).filter (·.1 = name)).map (·.2) = List.replicate (rest.count name) dep := by
      simpa only [attachedTo, List.flatMap_cons, List.flatMap_nil, List.append_nil, Operation.attachments] using ih
    simp only [attachedTo, List.flatMap_cons, List.flatMap_nil, List.append_nil, Operation.attachments, List.map_cons]
    by_cases h : other = name
    · subst h
      rw [List.filter_cons_of_pos (by simp), List.map_cons, hrest, List.count_cons_self, List.replicate_succ]
    · rw [List.filter_cons_of_neg (by simpa using h), hrest, List.count_cons_of_ne h]

end Attachments

section Step
variable {g : Graph} {name : String} {deps : List Dependency}

/-- The place where a tag is used does not matter for what its group needs. -/
theorem holdsOnly_tagNode {location : Option Location} (h : (g.tagNode location name).HoldsOnly deps)
    (other : Option Location) : (g.tagNode other name).HoldsOnly deps := by
  unfold tagNode at h ⊢
  split
  next t ht =>
    rw [ht] at h
    exact h
  next hnone =>
    rw [hnone] at h
    exact ⟨rfl, h.implicitInputs, rfl⟩

theorem holdsOnly_of_same {g' : Graph} {location : Option Location} (h : (g.tagNode location name).HoldsOnly deps)
    (tags : g'.tags = g.tags)
    (node : ∀ t, g.tags.get? name = some t → (g.node t).HoldsOnly deps → (g'.node t).HoldsOnly deps) :
    (g'.tagNode location name).HoldsOnly deps := by
  unfold tagNode at h ⊢
  rw [tags]
  split
  next t ht =>
    rw [ht] at h
    exact node t ht h
  next hnone =>
    rw [hnone] at h
    exact h

theorem holdsOnly_withTag (groups : TagGroups g) {other : String} (fresh : g.tags.get? other = none)
    (place : Option Location) {location : Option Location} (h : (g.tagNode location name).HoldsOnly deps) :
    ((g.withTag other place).tagNode location name).HoldsOnly deps := by
  have htags := get?_tags_withTag g other place name
  by_cases he : name = other
  · subst he
    rw [if_pos rfl] at htags
    rw [tagNode, fresh] at h
    rw [tagNode_of_some htags, node_withTag_self]
    exact ⟨rfl, h.implicitInputs, rfl⟩
  · rw [if_neg he] at htags
    rw [tagNode_of_same htags fun t ht => ?_]
    · exact h
    · exact node_push g _ (groups name t ht).ordinary.1

end Step

section After
variable {g : Graph} {op : Operation}

theorem attached_of_accepts (groups : TagGroups g) {dep : Dependency} {location : Option Location}
    {names : List String} (accepted : g.accepts (.attach dep location names) = true) :
    (∀ name ∈ names, g.refusesTag name = false) ∧
      Attached dep location names g (g.after (.attach dep location names)) := by
  rcases attach_cases dep location groups names with ⟨hfree, g', hrun, attached⟩ | ⟨_, _, _, _, _, _, _, _, f, hrun⟩
  · have hafter : g.after (.attach dep location names) = g' := congrArg Prod.snd hrun
    exact ⟨hfree, hafter ▸ attached⟩
  · rw [accepts, Operation.change, hrun] at accepted
    cases accepted

theorem refusesTag_of_accepts {name : String} {location : Option Location}
    (accepted : g.accepts (.tag name location) = true) : g.refusesTag name = false := by
  rcases tag_outcome location g name with ⟨hfree, _⟩ | ⟨_, f, hrun⟩
  · exact hfree
  · rw [accepts, Operation.change, run_bind, hrun] at accepted
    cases accepted

theorem refusedBy_eq_none (groups : TagGroups g) (accepted : g.accepts op = true) : g.refusedBy op = none := by
  cases op with
  | tag name location =>
    rw [refusedBy, refusesTag_of_accepts accepted]
    rfl
  | attach dep location names =>
    have hfree := (attached_of_accepts groups accepted).1
    exact List.find?_eq_none.mpr fun name hname => by simp [hfree name hname]
  | _ => rfl

section Tag
variable {name : String} {location : Option Location} {deps : List Dependency}

theorem holdsOnly_after_tag (groups : TagGroups g) {other : String} {place : Option Location}
    (accepted : g.accepts (.tag other place) = true) (h : (g.tagNode location name).HoldsOnly deps) :
    ((g.after (.tag other place)).tagNode location name).HoldsOnly deps := by
  have hafter := after_tag g other place
  rcases tag_cases g other place with ⟨t, _, hrun⟩ | ⟨hfresh, _, hrun⟩ | ⟨hrefuses, _⟩
  · rw [hafter, hrun]
    exact h
  · rw [hafter, hrun]
    exact holdsOnly_withTag groups hfresh place h
  · cases (refusesTag_of_accepts accepted).symm.trans hrefuses

theorem holdsOnly_after_attach (groups : TagGroups g) {dep : Dependency} {place : Option Location}
    {names : List String} (accepted : g.accepts (.attach dep place names) = true)
    (h : (g.tagNode location name).HoldsOnly deps) :
    ((g.after (.attach dep place names)).tagNode location name).HoldsOnly
      (deps ++ List.replicate (names.count name) dep) := by
  have hgroup := (holdsOnly_tagNode h place).needing (List.replicate (names.count name) dep)
  rw [← (attached_of_accepts groups accepted).2.group name] at hgroup
  exact holdsOnly_tagNode hgroup location

end Tag

/-- What an operation that is carried out makes of what a tag holds: it is what the operation attaches that is new. -/
theorem holdsOnly_after (groups : TagGroups g) (accepted : g.accepts op = true)
    (spared : ∀ entry ∈ g.tags, op.addsTo ≠ some entry.2) {name : String} {location : Option Location}
    {deps : List Dependency} (h : (g.tagNode location name).HoldsOnly deps) :
    ((g.after op).tagNode location name).HoldsOnly (deps ++ attachedTo [op] name) := by
  have hquiet : ∀ g', g.after op = g' → attachedTo [op] name = [] → g'.tags = g.tags →
      (∀ t, g.tags.get? name = some t → (g.node t).HoldsOnly deps → (g'.node t).HoldsOnly deps) →
        ((g.after op).tagNode location name).HoldsOnly (deps ++ attachedTo [op] name) := by
    intro g' hafter hnothing htags hnode
    rw [hafter, hnothing, List.append_nil]
    exact holdsOnly_of_same h htags hnode
  have hsame : ∀ g', g.after op = g' → attachedTo [op] name = [] → g'.tags = g.tags → g'.nodes = g.nodes →
      ((g.after op).tagNode location name).HoldsOnly (deps ++ attachedTo [op] name) := by
    intro g' hafter hnothing htags hnodes
    refine hquiet g' hafter hnothing htags fun t _ hneeds => ?_
    rwa [node, hnodes]
  have hedit : ∀ (u : TargetId) (f : Target → Target), op.addsTo = some u → attachedTo [op] name = [] →
      g.after op = g.modifyNode u f →
        ((g.after op).tagNode location name).HoldsOnly (deps ++ attachedTo [op] name) := by
    intro u f hadds hnothing hafter
    refine hquiet _ hafter hnothing rfl fun t ht hneeds => ?_
    have hne : t ≠ u := fun he => spared _ (Table.mem_of_get? ht) (he ▸ hadds)
    rwa [node_modifyNode_of_ne g f hne]
  cases op with
  | make u =>
    refine hquiet { g with nodes := g.nodes.push u } rfl rfl rfl fun t ht hneeds => ?_
    rwa [node_push g u (groups name t ht).ordinary.1]
  | register u =>
    rcases (register_decides g u).after_cases with ⟨_, hafter⟩ | ⟨_, hafter⟩
    · exact hsame _ hafter rfl rfl rfl
    · exact hsame _ hafter rfl rfl rfl
  | tag other place =>
    have hnothing : attachedTo [.tag other place] name = [] := rfl
    rw [hnothing, List.append_nil]
    exact holdsOnly_after_tag groups accepted h
  | attach dep place names =>
    rw [attachedTo_attach]
    exact holdsOnly_after_attach groups accepted h
  | addInputs u more => exact hedit u _ rfl rfl rfl
  | addImplicitInputs u more => exact hedit u _ rfl rfl rfl
  | setMetadata u entries =>
    refine hquiet (g.modifyNode u fun v => { v with metadata := v.metadata.insertAll entries }) rfl rfl rfl
      fun t ht hneeds => ?_
    by_cases he : t = u
    · rw [← he, node_modifyNode_self g _ (groups name t ht).ordinary.1]
      exact ⟨hneeds.inputs, hneeds.implicitInputs, hneeds.orderOnlyInputs⟩
    · rwa [node_modifyNode_of_ne g _ he]
  | install r =>
    rcases (setPass_decides g r).after_cases with ⟨_, hafter⟩ | ⟨_, hafter⟩
    · exact hsame _ hafter rfl rfl rfl
    · exact hsame _ hafter rfl rfl rfl
  | addGenerated path place =>
    rcases addGenerated_cases g path place with ⟨r, free, hrun⟩ | ⟨_, f, hrun⟩
    · refine hquiet (g.generated r path) (congrArg Prod.snd hrun) rfl rfl fun t ht hneeds => ?_
      have hne : t ≠ r := by
        rintro rfl
        cases (groups name t ht).ordinary.2.symm.trans free.isPass
      have hnode : (g.generated r path).node t = g.node t := node_modifyNode_of_ne g _ hne
      rwa [hnode]
    · exact hsame g (congrArg Prod.snd hrun) rfl rfl rfl
  | declarePool pool depth place =>
    rcases (declarePool_decides g pool depth place).after_cases with ⟨_, hafter⟩ | ⟨_, hafter⟩
    · exact hsame _ hafter rfl rfl rfl
    · exact hsame _ hafter rfl rfl rfl

/-- A tag is refused only while it holds nothing. -/
theorem tag_holdsOnly (groups : TagGroups g) {name : String} {location : Option Location} {deps : List Dependency}
    (h : (g.tagNode location name).HoldsOnly deps) :
    (∃ t g', (tag name location).run g = (.ok t, g') ∧ (g'.node t).HoldsOnly deps) ∨
      g.refusesTag name = true ∧ deps = [] ∧ ∃ f g', (tag name location).run g = (.error f, g') := by
  rcases tag_outcome location g name with ⟨_, t, g', hrun, _⟩ | ⟨hrefuses, f, hrun⟩
  · refine .inl ⟨t, g', hrun, ?_⟩
    have haccepted : g.accepts (.tag name location) = true := by
      rw [accepts, Operation.change, run_bind, hrun]
      rfl
    have hafter := holdsOnly_after_tag groups haccepted h
    rwa [after_tag, hrun, tagNode_of_some (get?_tags_of_tag hrun)] at hafter
  · rw [tagNode, ((g.refusesTag_eq_true_iff name).mp hrefuses).1] at h
    exact .inr ⟨hrefuses, h.implicitInputs.symm, f, _, hrun⟩

theorem holdsOnly_start (buildDir : Option String) (name : String) (location : Option Location) :
    ((start buildDir).tagNode location name).HoldsOnly [] := by
  unfold tagNode
  split
  next t ht =>
    obtain ⟨_, rfl⟩ : defaultTag = name ∧ ⟨0⟩ = t :=
      Prod.mk.inj (List.mem_singleton.mp (Table.mem_of_get? ht)).symm
    exact ⟨rfl, rfl, rfl⟩
  · exact Target.holdsOnly_emptyGroup _ _

theorem holdsOnly_run {ops : List Operation} (valid : g.ValidRun ops) (only : g.AttachesOnly ops)
    (settled : TagsSettled [] g) {name : String} {location : Option Location} {deps : List Dependency}
    (h : (g.tagNode location name).HoldsOnly deps) :
    TagsSettled [] (g.run ops) ∧ ((g.run ops).tagNode location name).HoldsOnly (deps ++ attachedTo ops name) := by
  induction ops generalizing g deps with
  | nil =>
    refine ⟨settled, ?_⟩
    rwa [run_nil, attachedTo, List.flatMap_nil, List.filter_nil, List.map_nil, List.append_nil]
  | cons op rest ih =>
    obtain ⟨accepted, spared, hrest⟩ := only
    have settled' := tagsSettled_after valid.1 settled
    rw [refusedBy_eq_none settled.groups accepted] at settled'
    rw [attachedTo_cons, ← List.append_assoc]
    exact ih valid.2 hrest settled' (holdsOnly_after settled.groups accepted spared h)

end After

section Unlisted
variable {g : Graph} {dep : Dependency} {location : Option Location} {names : List String} {t : TargetId}

theorem Attached.node_of_unlisted {g' : Graph} (attached : Attached dep location names g g') (made : g.Made t)
    (unlisted : ∀ name ∈ names, g.tags.get? name ≠ some t) : g'.node t = g.node t := by
  by_cases htag : ∃ name, g.tags.get? name = some t
  · obtain ⟨name, ht⟩ := htag
    have hcount : names.count name = 0 := List.count_eq_zero.mpr fun hname => unlisted name hname ht
    have hgroup := attached.group name
    rwa [tagNode_of_some (attached.tags name t ht), tagNode_of_some ht, hcount, List.replicate_zero,
      Target.needing_nil] at hgroup
  · exact attached.others t made fun name ht => htag ⟨name, ht⟩

/-- Attaching changes the groups of the tags that are listed, and no other target. -/
theorem node_after_attach (groups : TagGroups g) (made : g.Made t)
    (unlisted : ∀ name ∈ names, g.tags.get? name ≠ some t) :
    (g.after (.attach dep location names)).node t = g.node t := by
  rcases attach_cases dep location groups names with
    ⟨_, g', hrun, attached⟩ | ⟨before, name, later, g', rfl, _, _, attached, f, hrun⟩
  · have hafter : g.after (.attach dep location names) = g' := congrArg Prod.snd hrun
    rw [hafter]
    exact attached.node_of_unlisted made unlisted
  · have hafter : g.after (.attach dep location (before ++ name :: later)) = g'.withTag name location :=
      congrArg Prod.snd hrun
    have hnode : (g'.withTag name location).node t = g'.node t := node_push g' _ (attached.made t made)
    rw [hafter, hnode]
    exact attached.node_of_unlisted made fun other hother => unlisted other (List.mem_append_left _ hother)

end Unlisted

/-- What is registered stays registered, in the same order. -/
theorem targets_run {g : Graph} {ops : List Operation} (valid : g.ValidRun ops) :
    g.targets <+: (g.run ops).targets := by
  induction ops generalizing g with
  | nil => exact List.prefix_refl _
  | cons op rest ih =>
    refine List.IsPrefix.trans ?_ (ih valid.2)
    rcases after_cases valid.1 with ⟨r, _, _, _, _, hafter⟩ | ⟨_, steps⟩
    · rw [hafter]
      exact List.prefix_refl _
    · exact (Growth.keeps_of_steps steps).targets

section Written
variable {g : Graph} {name : String} {deps : List Dependency} {t : TargetId}

/-- The statement of a tag that holds these. -/
def tagStatement (g : Graph) (name : String) (deps : List Dependency) : Ninja.Statement :=
  ⟨[tagPrefix ++ name], [], "phony", [], g.resolve deps, [], []⟩

/-- The line of a tag that holds these. -/
def tagLine (g : Graph) (name : String) (deps : List Dependency) : String :=
  String.intercalate " "
    (["build", Ninja.escapePath (tagPrefix ++ name) ++ ":", "phony"] ++ Ninja.sectionWords "|" (g.resolve deps))

/-- How a tag that holds these is written: there is one statement that makes it as a mere name, in the root file, and
this is its line. -/
structure TagWritten (g : Graph) (name : String) (deps : List Dependency) (files : Table (List Ninja.Item))
    (texts : Table String) : Prop where
  statement : ∃ items, files.get? Ninja.buildFile = some items ∧ Ninja.Item.build (g.tagStatement name deps) ∈ items
  only : ∀ entry ∈ files, ∀ s, Ninja.Item.build s ∈ entry.2 → tagPrefix ++ name ∈ s.outputs ++ s.implicitOutputs →
    s.rule = "phony" → s = g.tagStatement name deps
  line : ∃ front back, texts.get? Ninja.buildFile =
    some (Ninja.render front ++ (g.tagLine name deps ++ "\n") ++ Ninja.render back)

theorem line_tagStatement (g : Graph) (name : String) (deps : List Dependency) :
    (g.tagStatement name deps).line = g.tagLine name deps := by
  simp [Ninja.Statement.line, tagStatement, tagLine, Ninja.closeWithColon, Ninja.sectionWords]

theorem declared_eq_tagStatement (group : g.TagGroup name t) (needs : (g.node t).HoldsOnly deps) :
    Ninja.declared g (g.node t) = g.tagStatement name deps := by
  have haction : (g.node t).action = .group := by
    have h := group.isGroup
    unfold Target.isGroup at h
    cases haction : (g.node t).action <;> simp [haction] at h ⊢
  rw [Ninja.declared, Ninja.targetBindings, haction, group.outputs, group.implicitOutputs, needs.inputs,
    needs.implicitInputs, needs.orderOnlyInputs]
  rfl

theorem render_split (front back : List Ninja.Item) (i : Ninja.Item) :
    Ninja.render (front ++ i :: back) = Ninja.render front ++ i.render ++ Ninja.render back := by
  apply String.toList_injective
  simp only [String.toList_append, Ninja.toList_render, Ninja.Item.toList_render, List.flatMap_append,
    List.flatMap_cons, Ninja.ended_append, List.append_assoc]

/-- A target whose rule is that of mere names and that makes a tag is the group of that tag. -/
theorem eq_of_makesTag {was : List TargetId} (owned : Owned was g) (kinds : ∀ r ∈ was, (g.node r).isPass = true)
    (registered : g.TagRegistered name t) {u : TargetId} (hu : u ∈ g.targets)
    (makes : tagPrefix ++ name ∈ (g.node u).allOutputs) (hrule : (Ninja.declared g (g.node u)).rule = "phony") :
    u = t := by
  have hwas : ∀ v, (g.node v).isPass = false → v ∉ was := fun v hv hmem => by
    cases hv.symm.trans (kinds v hmem)
  have hpass : (g.node u).isPass = false := by
    unfold Target.isPass
    cases haction : (g.node u).action <;> simp [Ninja.declared, haction, Action.rule] at hrule ⊢
  by_contra hne
  have ht : t ∈ g.targets := List.count_pos_iff.mp (registered.once ▸ Nat.one_pos)
  exact owned.apart u hu t ht (hwas u hpass) (hwas t registered.ordinary.2) hne _ makes registered.mem_allOutputs

theorem tagWritten {was : List TargetId} (sound : Sound g) (owned : Owned was g)
    (kinds : ∀ r ∈ was, (g.node r).isPass = true) (registered : g.TagRegistered name t)
    (needs : (g.node t).HoldsOnly deps) {interpreter : String} {files : Table (List Ninja.Item)}
    (hfiles : Ninja.emitItems g interpreter = .ok files) :
    g.TagWritten name deps files (files.map fun (name, items) => (name, Ninja.render items)) := by
  have hdeclared := declared_eq_tagStatement registered.toTagGroup needs
  have ht : t ∈ g.targets := List.count_pos_iff.mp (registered.once ▸ Nat.one_pos)
  have hfile : Ninja.fileOf (g.node t) = Ninja.buildFile := by
    rw [Ninja.fileOf, Target.partitionName?, registered.partition]
  obtain ⟨_, items, hitems, hbuild⟩ := (Ninja.laid_of_emitItems sound.targetsNamed hfiles).statement ht
  rw [hfile] at hitems
  rw [hdeclared] at hbuild
  refine ⟨⟨items, hitems, hbuild⟩, fun entry hentry s hs hmakes hrule => ?_, ?_⟩
  · cases ((Ninja.originated_of_mem hfiles hentry).split hs).1 with
    | target hu stated =>
      obtain ⟨rfl, _, _⟩ := Ninja.targetStatement_eq_ok stated
      rw [eq_of_makesTag owned kinds registered hu hmakes hrule, hdeclared]
    | pass _ stated _ => simp [stated, Ninja.passStatement] at hrule
    | clean stated => simp [stated, Ninja.cleanStatement] at hrule
    | help stated _ => simp [stated, Ninja.helpStatement] at hrule
  · obtain ⟨front, back, rfl⟩ := List.append_of_mem hbuild
    refine ⟨front, back, ?_⟩
    have hitem : (Ninja.Item.build (g.tagStatement name deps)).render = g.tagLine name deps ++ "\n" := by
      rw [Ninja.Item.render, line_tagStatement]
      exact String.append_empty
    rw [Table.get?_map, hitems, Option.map_some, render_split, hitem]

end Written

/-- Tags hold what is attached to them. After a run in which every operation is carried out and groups of tags are added
to by attaching alone, the group of a tag, which can be looked up unless its name is taken, needs what was attached to
it, in that order and each time it was, and nothing else. To attach is to change the groups of the listed tags alone. In
the files a tag has one statement, and that refers to the outputs of what it holds, one after the other; so has the
default tag, whose group is the first target of all. -/
theorem tags_hold_attached {buildDir : Option String} {ops : List Operation} (valid : (start buildDir).ValidRun ops)
    (only : (start buildDir).AttachesOnly ops) {g : Graph} (hg : (start buildDir).run ops = g) :
    (∀ name location,
      (∃ t g', (tag name location).run g = (.ok t, g') ∧ (g'.node t).HoldsOnly (attachedTo ops name)) ∨
      g.refusesTag name = true ∧ attachedTo ops name = [] ∧ ∃ f g', (tag name location).run g = (.error f, g')) ∧
    (∀ before dep location names later, ops = before ++ .attach dep location names :: later →
      ∀ t, ((start buildDir).run before).Made t →
        (∀ name ∈ names, ((start buildDir).run before).tags.get? name ≠ some t) →
          ((start buildDir).run (before ++ [.attach dep location names])).node t =
            ((start buildDir).run before).node t) ∧
    ([⟨0⟩] <+: g.targets ∧ g.tags.get? defaultTag = some ⟨0⟩) ∧
    ∀ interpreter texts, Ninja.emit g interpreter = .ok texts → ∃ files, Ninja.emitItems g interpreter = .ok files ∧
      ∀ name t, g.tags.get? name = some t → g.TagWritten name (attachedTo ops name) files texts := by
  have holds : ∀ name location, TagsSettled [] g ∧ (g.tagNode location name).HoldsOnly (attachedTo ops name) := by
    intro name location
    have h := holdsOnly_run valid only (tagsSettled_start buildDir) (holdsOnly_start buildDir name location)
    rwa [hg, List.nil_append] at h
  have settled := (holds defaultTag none).1
  obtain ⟨sound, owned⟩ := owned_run valid (sound_start buildDir) (owned_start buildDir)
  have kinds := (kinds_run valid (sound_start buildDir) (List.Subset.refl ops) (askedFor_start buildDir _)).2.2
  refine ⟨fun name location => tag_holdsOnly settled.groups (holds name location).2,
    fun before dep location names later hops t made unlisted => ?_, ⟨?_, ?_⟩, fun interpreter texts htexts => ?_⟩
  · obtain ⟨hbefore, _⟩ := validRun_append (hops ▸ valid)
    rw [run_append]
    exact node_after_attach (tagsSettled_run hbefore (tagsSettled_start buildDir)).groups made unlisted
  · exact hg ▸ targets_run valid
  · exact hg ▸ tag_run valid (sound_start buildDir) (tagsSettled_start buildDir).passKind rfl
  · obtain ⟨files, hfiles, rfl⟩ := Ninja.items_of_emit htexts
    refine ⟨files, hfiles, fun name t ht => ?_⟩
    have needs := (holds name none).2
    rw [tagNode_of_some ht] at needs
    rw [hg] at sound owned kinds
    exact tagWritten sound owned kinds (settled.registered name t ht List.not_mem_nil) needs hfiles

/-- A library is attached to tags before it is registered, to one of them twice; a program comes later. -/
def tagged : List Operation :=
  [.make { Target.emptyGroup "/b/lib.a" none with action := .nothing, otherOutputs := ["/b/lib.h"] },
    .attach (.target ⟨1⟩) none ["dist", "all", "dist"], .register ⟨1⟩, .tag "docs" none,
    .make { Target.emptyGroup "/b/app" none with action := .nothing }, .register ⟨4⟩,
    .attach (.target ⟨4⟩) none ["all", "dist"]]

theorem validRun_tagged : (start (some "/b")).ValidRun tagged := by
  refine ⟨.inl rfl, trivial, ?_, trivial, .inl rfl, ?_, trivial, trivial⟩
  all_goals
    show Made _ _
    decide +kernel

theorem tags_hold_attached_tagged :
    (((start (some "/b")).run tagged).node ⟨2⟩).HoldsOnly [.target ⟨1⟩, .target ⟨1⟩, .target ⟨4⟩] ∧
    ∃ texts front back, Ninja.emit ((start (some "/b")).run tagged) "/usr/bin/python3" = .ok texts ∧
      texts.get? "build.ninja" = some (Ninja.render front ++
        ("build tags/dist: phony | /b/lib.a /b/lib.h /b/lib.a /b/lib.h /b/app" ++ "\n") ++ Ninja.render back) := by
  obtain ⟨hlookup, -, -, hwritten⟩ := tags_hold_attached validRun_tagged (by decide +kernel) rfl
  have htag : ((start (some "/b")).run tagged).tags.get? "dist" = some ⟨2⟩ := by decide +kernel
  have hattached : attachedTo tagged "dist" = [.target ⟨1⟩, .target ⟨1⟩, .target ⟨4⟩] := by decide
  rw [← hattached]
  constructor
  · rcases hlookup "dist" none with ⟨t, g', hrun, needs⟩ | ⟨hrefuses, _⟩
    · cases hrun.symm.trans (tag_of_some none htag)
      exact needs
    · cases htag.symm.trans ((refusesTag_eq_true_iff _ _).mp hrefuses).1
  · obtain ⟨files, hfiles⟩ := Ninja.exists_emitItems_of_root (g := (start (some "/b")).run tagged) "/usr/bin/python3"
      (List.length_eq_zero_iff.mp (by decide +kernel)) (by decide +kernel) (by decide +kernel) (by decide +kernel)
      (by decide +kernel)
    have hemit := Ninja.emit_eq_ok hfiles
    obtain ⟨_, _, htags⟩ := hwritten _ _ hemit
    obtain ⟨front, back, hline⟩ := (htags "dist" ⟨2⟩ htag).line
    have hwords : tagLine ((start (some "/b")).run tagged) "dist" (attachedTo tagged "dist") =
        "build tags/dist: phony | /b/lib.a /b/lib.h /b/lib.a /b/lib.h /b/app" := by
      rw [hattached]
      decide +kernel
    exact ⟨_, front, back, hemit, hwords ▸ hline⟩

end Graph
end BuildTree
