import BuildTree.Proofs.Graph.Attachment
import BuildTree.Proofs.Ninja.Files

/-!
# Tags after a run

Whether the group of a tag is registered was settled when the tag was used for the first time: by an operation that
was refused because the name of the group was taken, or by one that registered it. Later operations find the tag in the
table and change neither the one nor the other. What they attach to it is written just in the second case.
-/

namespace BuildTree.Graph
open Effect Relation

section Installed
variable {g : Graph} {name : String} {t r : TargetId}

theorem tagRegistered_installed (hpass : PassKind g) (free : g.Unclaimed g.pass (g.passClaims (g.node r)))
    (h : g.TagRegistered name t) : (g.installed r).TagRegistered name t where
  ordinary := h.ordinary
  isGroup := h.isGroup
  outputs := h.outputs
  implicitOutputs := h.implicitOutputs
  partition := h.partition
  once := h.once
  named := h.named
  claimed := by
    have hclaims : (g.installed r).claims = g.claims.insertKeys (g.passClaims (g.node r)) r := rfl
    rw [hclaims, Table.get?_insertKeys, if_neg (free.notMem hpass h.claimed h.ordinary), h.claimed]

theorem tagStranded_installed (h : g.TagStranded name t) : (g.installed r).TagStranded name t where
  ordinary := h.ordinary
  isGroup := h.isGroup
  outputs := h.outputs
  implicitOutputs := h.implicitOutputs
  partition := h.partition
  unregistered := h.unregistered
  taken := (Table.mem_keys_iff _ _).mp ((Table.mem_keys_insertKeys_iff _ _ _ _).mpr
    (.inr ((Table.mem_keys_iff _ _).mpr h.taken)))

end Installed

section Fresh
variable {g : Graph} {name : String} (location : Option Location)

theorem tagRegistered_withRegisteredTag (sound : Sound g) :
    (g.withRegisteredTag name location).TagRegistered name ⟨g.nodes.size⟩ := by
  let id : TargetId := ⟨g.nodes.size⟩
  have h := tagGroup_withTag g name location
  have hnew : id ∉ g.targets := fun ht => Nat.lt_irrefl _ (sound.made _ ht)
  refine ⟨⟨h.ordinary, h.isGroup, h.outputs, h.implicitOutputs, h.partition⟩, ?_, ?_, ?_⟩
  · show (g.targets ++ [id]).count id = 1
    rw [List.count_append, List.count_eq_zero.mpr hnew, List.count_singleton_self]
  · show (if ((g.withTag name location).node ⟨g.nodes.size⟩).isGroup then
      g.named.insert ((g.withTag name location).node ⟨g.nodes.size⟩).name ⟨g.nodes.size⟩ else g.named).get? _ = _
    rw [node_withTag_self]
    exact Table.get?_insert_self _ _ _
  · rw [get?_claims_withRegisteredTag, if_pos rfl]

theorem tagStranded_withTag (sound : Sound g) (h : g.refusesTag name = true) :
    (g.withTag name location).TagStranded name ⟨g.nodes.size⟩ where
  toTagGroup := tagGroup_withTag g name location
  unregistered := fun ht => Nat.lt_irrefl _ (sound.made _ ht)
  taken := ((g.refusesTag_eq_true_iff name).mp h).2

end Fresh

/-- The tag that an operation is refused for. -/
def refusedBy (g : Graph) : Operation → Option String
  | .tag name _ => if g.refusesTag name then some name else none
  | .attach _ _ names => names.find? g.refusesTag
  | _ => none

/-- The tags that the operations of a run are refused for, in order. -/
def refusedTags : Graph → List Operation → List String
  | _, [] => []
  | g, op :: rest => (g.refusedBy op).toList ++ refusedTags (g.after op) rest

/-- A graph in which the tags are known whose groups were refused. All others are registered. -/
structure TagsSettled (refused : List String) (g : Graph) : Prop where
  sound : Sound g
  passKind : PassKind g
  entered : ∀ name ∈ refused, ∃ t, g.tags.get? name = some t
  registered : ∀ name t, g.tags.get? name = some t → name ∉ refused → g.TagRegistered name t
  stranded : ∀ name t, g.tags.get? name = some t → name ∈ refused → g.TagStranded name t

theorem TagsSettled.groups {refused : List String} {g : Graph} (h : TagsSettled refused g) : TagGroups g := by
  intro name t ht
  by_cases hrefused : name ∈ refused
  · exact (h.stranded name t ht hrefused).toTagGroup
  · exact (h.registered name t ht hrefused).toTagGroup

/-- What is kept of a graph about its tags. -/
structure KeepsTags (g g' : Graph) : Prop where
  sound : Sound g'
  passKind : PassKind g'
  tag : ∀ name t, g.tags.get? name = some t → g'.tags.get? name = some t
  registered : ∀ name t, g.TagRegistered name t → g'.TagRegistered name t
  stranded : ∀ name t, g.TagStranded name t → g'.TagStranded name t

section Keeps
variable {g g' : Graph} {Asked : TargetId → Prop}

theorem keepsTags_of_growth (steps : ReflTransGen (Growth Target.Named Asked) g g') (sound : Sound g)
    (hpass : PassKind g) : KeepsTags g g' := by
  induction steps with
  | refl => exact ⟨sound, hpass, fun _ _ h => h, fun _ _ h => h, fun _ _ h => h⟩
  | tail _ step ih =>
    exact ⟨step.sound ih.sound, step.passKind ih.sound.passMade ih.passKind, fun name t h => step.tag (ih.tag name t h),
      fun name t h => step.tagRegistered ih.passKind (ih.registered name t h),
      fun name t h => step.tagStranded (ih.stranded name t h)⟩

theorem keepsTags_after {op : Operation} (valid : op.Valid g) (sound : Sound g) (hpass : PassKind g) :
    KeepsTags g (g.after op) := by
  rcases after_cases valid with ⟨r, rfl, made, free, _, hafter⟩ | ⟨_, steps⟩
  · rw [hafter]
    refine ⟨sound_installed sound made, fun r' hr' => ?_, fun _ _ h => h,
      fun _ _ h => tagRegistered_installed hpass free h, fun _ _ h => tagStranded_installed h⟩
    rw [pass_installed] at hr'
    rw [node_installed, ← Option.some.inj hr']
    exact valid.2
  · exact keepsTags_of_growth steps sound hpass

end Keeps

section New
variable {g : Graph} {name : String} {t : TargetId}

/-- A tag that its use enters. -/
theorem new_of_tag (sound : Sound g) (other : String) (location : Option Location) (hnone : g.tags.get? name = none)
    (h : ((tag other location).run g).2.tags.get? name = some t) :
    name = other ∧ (g.refusesTag name = true → ((tag other location).run g).2.TagStranded name t) ∧
      (g.refusesTag name = false → ((tag other location).run g).2.TagRegistered name t) := by
  have hname : (g.withTag other location).tags.get? name = some t → name = other ∧ t = ⟨g.nodes.size⟩ := by
    intro h
    rw [get?_tags_withTag] at h
    split at h
    next he => exact ⟨he, (Option.some.inj h).symm⟩
    · cases hnone.symm.trans h
  rcases tag_cases g other location with ⟨u, hget, hrun⟩ | ⟨hget, hclaim, hrun⟩ | ⟨hrefuses, f, hrun⟩
  · rw [hrun] at h
    cases hnone.symm.trans h
  · rw [hrun] at h ⊢
    obtain ⟨rfl, rfl⟩ := hname h
    refine ⟨rfl, fun hrefuses => ?_, fun _ => tagRegistered_withRegisteredTag location sound⟩
    rw [refusesTag, hclaim, Option.isSome_none, Bool.and_false] at hrefuses
    cases hrefuses
  · rw [hrun] at h ⊢
    obtain ⟨rfl, rfl⟩ := hname h
    exact ⟨rfl, fun _ => tagStranded_withTag location sound hrefuses, fun hfree => by cases hfree.symm.trans hrefuses⟩

/-- A tag that is entered while something is attached to tags. -/
theorem new_of_attach (sound : Sound g) (hpass : PassKind g) (dep : Dependency) (location : Option Location)
    {names : List String} (hnone : g.tags.get? name = none)
    (h : ((attach dep location names).run g).2.tags.get? name = some t) :
    (names.find? g.refusesTag = some name → ((attach dep location names).run g).2.TagStranded name t) ∧
      (names.find? g.refusesTag ≠ some name → ((attach dep location names).run g).2.TagRegistered name t) := by
  induction names generalizing g with
  | nil => cases hnone.symm.trans h
  | cons other rest ih =>
    have htag : ReflTransGen (Growth Target.Named fun _ => False) g ((tag other location).run g).2 :=
      growth_tag g other location
    have hkept := keepsTags_of_growth htag sound hpass
    have hnew := new_of_tag (t := t) sound other location hnone
    rw [attach_cons] at h ⊢
    rcases tag_outcome location g other with ⟨hfree, u, g', hrun, hsame⟩ | ⟨htaken, f, hrun⟩
    · rw [hrun] at hkept hnew h ⊢
      let next : Graph := g'.modifyNode u fun v => { v with implicitInputs := v.implicitInputs ++ [dep] }
      have hedit : ReflTransGen (Growth Target.Named fun _ => False) g' next :=
        .single (.edit g' u fun v => ⟨rfl, rfl, rfl, rfl⟩)
      have hnext := keepsTags_of_growth hedit hkept.sound hkept.passKind
      have hfind : (other :: rest).find? g.refusesTag = rest.find? next.refusesTag := by
        rw [List.find?_cons, hfree]
        exact congrArg (rest.find? ·) (funext fun m => (hsame m).symm)
      rw [hfind]
      cases hfirst : g'.tags.get? name with
      | none => exact ih hnext.sound hnext.passKind hfirst h
      | some v =>
        -- It is registered from now on, and not refused again.
        have hattach : ReflTransGen (Growth Target.Named fun _ => False) next ((attach dep location rest).run next).2 :=
          growth_attach next dep location rest
        have hrest := keepsTags_of_growth hattach hnext.sound hnext.passKind
        obtain rfl : t = v := Option.some.inj (h.symm.trans (hrest.tag name v hfirst))
        obtain ⟨rfl, _, hregistered⟩ := hnew hfirst
        refine ⟨fun hrefused => ?_, fun _ => hrest.registered name t (hnext.registered name t (hregistered hfree))⟩
        have htaken : g'.refusesTag name = true := List.find?_some hrefused
        rw [hsame name, hfree] at htaken
        cases htaken
    · rw [hrun] at hnew h ⊢
      obtain ⟨rfl, hstranded, _⟩ := hnew h
      rw [List.find?_cons, htaken]
      exact ⟨fun _ => hstranded htaken, fun hne => absurd rfl hne⟩

/-- A tag that an operation enters. -/
theorem new_of_after (sound : Sound g) (hpass : PassKind g) (op : Operation) (hnone : g.tags.get? name = none)
    (h : (g.after op).tags.get? name = some t) :
    (g.refusedBy op = some name → (g.after op).TagStranded name t) ∧
      (g.refusedBy op ≠ some name → (g.after op).TagRegistered name t) := by
  have hsame : ∀ {g'}, g.after op = g' → g'.tags = g.tags → False := fun hafter he => by
    cases hnone.symm.trans (he ▸ hafter ▸ h)
  cases op with
  | tag other location =>
    rw [after_tag] at h ⊢
    obtain ⟨rfl, hstranded, hregistered⟩ := new_of_tag sound other location hnone h
    cases hrefuses : g.refusesTag name with
    | true => exact ⟨fun _ => hstranded hrefuses, fun hne => absurd (by simp [refusedBy, hrefuses]) hne⟩
    | false => exact ⟨fun he => by simp [refusedBy, hrefuses] at he, fun _ => hregistered hrefuses⟩
  | attach dep location names => exact new_of_attach sound hpass dep location hnone h
  | register u =>
    rcases (register_decides g u).after_cases with ⟨_, hafter⟩ | ⟨_, hafter⟩
    · exact (hsame hafter rfl).elim
    · exact (hsame hafter rfl).elim
  | install r =>
    rcases (setPass_decides g r).after_cases with ⟨_, hafter⟩ | ⟨_, hafter⟩
    · exact (hsame hafter rfl).elim
    · exact (hsame hafter rfl).elim
  | addGenerated path location =>
    rcases addGenerated_cases g path location with ⟨r, _, hafter⟩ | ⟨_, f, hafter⟩
    · exact (hsame (congrArg Prod.snd hafter) rfl).elim
    · exact (hsame (congrArg Prod.snd hafter) rfl).elim
  | declarePool pool depth location =>
    rcases (declarePool_decides g pool depth location).after_cases with ⟨_, hafter⟩ | ⟨_, hafter⟩
    · exact (hsame hafter rfl).elim
    · exact (hsame hafter rfl).elim
  | make u => exact (hsame rfl rfl).elim
  | addInputs u deps => exact (hsame rfl rfl).elim
  | addImplicitInputs u deps => exact (hsame rfl rfl).elim
  | setMetadata u entries => exact (hsame rfl rfl).elim

end New

section Run
variable {g : Graph} {refused : List String}

/-- A tag that an operation is refused for is in the table from then on, and was not before. -/
theorem entered_of_refusedBy (groups : TagGroups g) {op : Operation} {name : String} (h : g.refusedBy op = some name) :
    g.tags.get? name = none ∧ ∃ t, (g.after op).tags.get? name = some t := by
  have hentered : ∀ (g' : Graph) location, ∃ t, (g'.withTag name location).tags.get? name = some t :=
    fun g' location => ⟨_, (get?_tags_withTag g' name location name).trans (if_pos rfl)⟩
  cases op with
  | tag other location =>
    have hrefuses : g.refusesTag other = true ∧ other = name := by simpa [refusedBy] using h
    obtain ⟨hrefuses, rfl⟩ := hrefuses
    refine ⟨((g.refusesTag_eq_true_iff other).mp hrefuses).1, ?_⟩
    rw [after_tag]
    rcases tag_outcome location g other with ⟨hfree, _⟩ | ⟨_, f, hrun⟩
    · cases hfree.symm.trans hrefuses
    · rw [hrun]
      exact hentered g location
  | attach dep location names =>
    have hfind : names.find? g.refusesTag = some name := h
    refine ⟨((g.refusesTag_eq_true_iff name).mp (List.find?_some hfind)).1, ?_⟩
    rcases attach_cases dep location groups names with
      ⟨hfree, _⟩ | ⟨before, other, rest, g', rfl, hbefore, htaken, _, f, hrun⟩
    · cases (hfree name (List.mem_of_find?_eq_some hfind)).symm.trans (List.find?_some hfind)
    · have hother : (before ++ other :: rest).find? g.refusesTag = some other :=
        List.find?_eq_some_iff_append.mpr ⟨htaken, before, rest, rfl, fun m hm => by rw [hbefore m hm]; rfl⟩
      obtain rfl : name = other := Option.some.inj (hfind.symm.trans hother)
      have hafter : g.after (.attach dep location (before ++ name :: rest)) = g'.withTag name location :=
        congrArg Prod.snd hrun
      rw [hafter]
      exact hentered g' location
  | _ => cases h

theorem tagsSettled_after {op : Operation} (valid : op.Valid g) (h : TagsSettled refused g) :
    TagsSettled (refused ++ (g.refusedBy op).toList) (g.after op) := by
  have kept := keepsTags_after valid h.sound h.passKind
  have hold : ∀ {name t}, g.tags.get? name = some t → (name ∈ refused ++ (g.refusedBy op).toList ↔ name ∈ refused) := by
    intro name t ht
    rw [List.mem_append, Option.mem_toList, or_iff_left]
    intro hby
    cases ht.symm.trans (entered_of_refusedBy h.groups hby).1
  have hfresh : ∀ {name}, g.tags.get? name = none →
      (name ∈ refused ++ (g.refusedBy op).toList ↔ g.refusedBy op = some name) := by
    intro name hnone
    rw [List.mem_append, Option.mem_toList, or_iff_right]
    intro hmem
    obtain ⟨t, ht⟩ := h.entered name hmem
    cases hnone.symm.trans ht
  refine ⟨kept.sound, kept.passKind, fun name hname => ?_, fun name t ht hname => ?_, fun name t ht hname => ?_⟩
  · rcases List.mem_append.mp hname with hname | hname
    · obtain ⟨t, ht⟩ := h.entered name hname
      exact ⟨t, kept.tag name t ht⟩
    · exact (entered_of_refusedBy h.groups (Option.mem_toList.mp hname)).2
  · cases hbefore : g.tags.get? name with
    | none => exact (new_of_after h.sound h.passKind op hbefore ht).2 fun he => hname ((hfresh hbefore).mpr he)
    | some u =>
      obtain rfl : t = u := Option.some.inj (ht.symm.trans (kept.tag name u hbefore))
      exact kept.registered name t (h.registered name t hbefore fun hmem => hname ((hold hbefore).mpr hmem))
  · cases hbefore : g.tags.get? name with
    | none => exact (new_of_after h.sound h.passKind op hbefore ht).1 ((hfresh hbefore).mp hname)
    | some u =>
      obtain rfl : t = u := Option.some.inj (ht.symm.trans (kept.tag name u hbefore))
      exact kept.stranded name t (h.stranded name t hbefore ((hold hbefore).mp hname))

theorem tagsSettled_run {ops : List Operation} (valid : g.ValidRun ops) (h : TagsSettled refused g) :
    TagsSettled (refused ++ g.refusedTags ops) (g.run ops) := by
  induction ops generalizing g refused with
  | nil => rwa [refusedTags, List.append_nil]
  | cons op rest ih =>
    rw [run_cons, refusedTags, ← List.append_assoc]
    exact ih valid.2 (tagsSettled_after valid.1 h)

theorem tagsSettled_blank (buildDir : Option String) : TagsSettled [] (blank buildDir) where
  sound := sound_blank buildDir
  passKind _ h := by cases h
  entered _ h := absurd h List.not_mem_nil
  registered _ _ h := by cases h
  stranded _ _ h := by cases h

theorem tagsSettled_start (buildDir : Option String) : TagsSettled [] (start buildDir) := by
  have valid : Operation.Valid (blank buildDir) (.tag defaultTag none) := trivial
  have h := tagsSettled_after valid (tagsSettled_blank buildDir)
  rw [after_tag] at h
  exact h

theorem tagRegistered_start (buildDir : Option String) : (start buildDir).TagRegistered defaultTag ⟨0⟩ :=
  (tagsSettled_start buildDir).registered defaultTag ⟨0⟩ rfl List.not_mem_nil

end Run

/-- No implicit input is taken away. -/
def MoreNeeds (t u : Target) : Prop :=
  t.implicitInputs <+: u.implicitInputs

instance : Steady MoreNeeds fun _ => True where
  refl _ := List.prefix_refl _
  trans h h' := List.IsPrefix.trans h h'
  new _ _ := trivial
  group _ _ := trivial
  implicitInputs _ _ := List.prefix_append _ _
  metadata _ _ := List.prefix_refl _
  output t path _ := by
    unfold MoreNeeds Target.addOutput
    split <;> exact List.prefix_refl _

section Needs
variable (g : Graph)

theorem needs_after (op : Operation) : EachTarget MoreNeeds (fun _ => True) g (g.after op) := by
  cases op with
  | make t => exact each_push g trivial
  | register t => exact each_register t g
  | tag name location =>
    rw [after_tag]
    exact each_tag name location g
  | attach dep location names => exact each_attach (fun u => Steady.implicitInputs u [dep]) location names g
  | addInputs t deps => exact each_modifyNode g t (List.prefix_refl _)
  | addImplicitInputs t deps => exact each_addImplicitInputs (fun u => Steady.implicitInputs u deps) t g
  | setMetadata t entries => exact each_setMetadata t entries g
  | install r =>
    rcases (setPass_decides g r).after_cases with ⟨_, hafter⟩ | ⟨_, hafter⟩
    · rw [after, Operation.change, hafter]
      exact each_of_nodes rfl
    · rw [after, Operation.change, hafter]
      exact refl_of (EachTarget MoreNeeds fun _ => True) g
  | addGenerated path location => exact each_addGenerated path location g
  | declarePool name depth location => exact each_declarePool name depth location g

theorem needs_run (ops : List Operation) : EachTarget MoreNeeds (fun _ => True) g (g.run ops) := by
  induction ops generalizing g with
  | nil => exact refl_of (EachTarget MoreNeeds fun _ => True) g
  | cons op rest ih => exact trans_of (EachTarget MoreNeeds fun _ => True) (needs_after g op) (ih (g.after op))

end Needs

/-- A run attaches a dependency to a tag: it does so by an operation that is carried out. -/
def Attaches (g : Graph) (ops : List Operation) (name : String) (dep : Dependency) : Prop :=
  ∃ before location names later, ops = before ++ .attach dep location names :: later ∧
    (g.run before).accepts (.attach dep location names) = true ∧ name ∈ names

section Attaches
variable {g : Graph}

theorem run_append (before later : List Operation) : g.run (before ++ later) = (g.run before).run later :=
  List.foldl_append

theorem validRun_append {before later : List Operation} (h : g.ValidRun (before ++ later)) :
    g.ValidRun before ∧ (g.run before).ValidRun later := by
  induction before generalizing g with
  | nil => exact ⟨trivial, h⟩
  | cons op rest ih =>
    obtain ⟨hrest, hlater⟩ := ih h.2
    exact ⟨⟨h.1, hrest⟩, hlater⟩

theorem tag_run {ops : List Operation} (valid : g.ValidRun ops) (sound : Sound g) (hpass : PassKind g) {name : String}
    {t : TargetId} (h : g.tags.get? name = some t) : (g.run ops).tags.get? name = some t := by
  induction ops generalizing g with
  | nil => exact h
  | cons op rest ih =>
    have kept := keepsTags_after valid.1 sound hpass
    exact ih valid.2 kept.sound kept.passKind (kept.tag name t h)

theorem tagRegistered_run {ops : List Operation} (valid : g.ValidRun ops) (sound : Sound g)
    (hpass : PassKind g) {name : String} {t : TargetId} (h : g.TagRegistered name t) :
    (g.run ops).TagRegistered name t := by
  induction ops generalizing g with
  | nil => exact h
  | cons op rest ih =>
    have kept := keepsTags_after valid.1 sound hpass
    exact ih valid.2 kept.sound kept.passKind (kept.registered name t h)

/-- What is attached to a tag is needed by its group at the end. -/
theorem Attaches.mem_implicitInputs {ops : List Operation} {name : String} {dep : Dependency}
    (h : g.Attaches ops name dep) (valid : g.ValidRun ops) {refused : List String} (settled : TagsSettled refused g)
    {t : TargetId} (ht : (g.run ops).tags.get? name = some t) : dep ∈ ((g.run ops).node t).implicitInputs := by
  obtain ⟨before, location, names, later, rfl, haccepted, hname⟩ := h
  obtain ⟨hbefore, hattach, hlater⟩ := validRun_append valid
  have settled' := tagsSettled_run hbefore settled
  rw [run_append, run_cons] at ht ⊢
  generalize g.run before = g at *
  rcases attach_cases dep location settled'.groups names with
    ⟨_, g', hrun, attached⟩ | ⟨_, _, _, g', _, _, _, _, f, hrun⟩
  · obtain ⟨u, hu⟩ := attached.entered name hname
    have hafter : g.after (.attach dep location names) = g' := congrArg Prod.snd hrun
    have settled'' := tagsSettled_after hattach settled'
    rw [hafter] at hlater ht settled'' ⊢
    obtain rfl : t = u := Option.some.inj (ht.symm.trans (tag_run hlater settled''.sound settled''.passKind hu))
    have hneeds : (g'.node t).implicitInputs =
        (g.tagNode location name).implicitInputs ++ List.replicate (names.count name) dep := by
      rw [← tagNode_of_some hu location, attached.group]
      rfl
    have hmem : dep ∈ (g'.node t).implicitInputs := by
      rw [hneeds]
      have hcount : names.count name ≠ 0 := Nat.ne_of_gt (List.count_pos_iff.mpr hname)
      exact List.mem_append_right _ (List.mem_replicate.mpr ⟨hcount, rfl⟩)
    exact ((needs_run g' later).old t (settled''.groups name t hu).ordinary.1).subset hmem
  · have hfails : g.accepts (.attach dep location names) = false := by
      have hrun' : (Operation.attach dep location names).change.run g = (.error f, g'.withTag _ location) := hrun
      rw [accepts, hrun']
      rfl
    cases hfails.symm.trans haccepted

end Attaches

/-- The group of a tag is a target among the others, with all that belongs to it, just if no use of the tag was refused,
and otherwise it is no target at all. In the first case it has a statement in the root file, and everything that was
attached to the tag is in it. -/
theorem tagRegistered_iff {buildDir : Option String} {ops : List Operation} (valid : (start buildDir).ValidRun ops)
    {name : String} {t : TargetId} (entry : ((start buildDir).run ops).tags.get? name = some t) :
    (((start buildDir).run ops).TagRegistered name t ↔ name ∉ (start buildDir).refusedTags ops) ∧
      (t ∈ ((start buildDir).run ops).targets ↔ name ∉ (start buildDir).refusedTags ops) ∧
      ∀ interpreter files, Ninja.emitItems ((start buildDir).run ops) interpreter = .ok files →
        name ∉ (start buildDir).refusedTags ops → ∃ items statement, files.get? Ninja.buildFile = some items ∧
          Ninja.Item.build statement ∈ items ∧ statement.outputs = [tagPrefix ++ name] ∧
          ∀ dep, (start buildDir).Attaches ops name dep →
            ∀ p ∈ ((start buildDir).run ops).resolve [dep], p ∈ statement.implicitInputs := by
  have settled := tagsSettled_run valid (tagsSettled_start buildDir)
  have hneeds : ∀ dep, (start buildDir).Attaches ops name dep →
      dep ∈ (((start buildDir).run ops).node t).implicitInputs := fun _ attaches =>
    attaches.mem_implicitInputs valid (tagsSettled_start buildDir) entry
  rw [List.nil_append] at settled
  generalize (start buildDir).run ops = g at *
  have hregistered := settled.registered name t entry
  have hstranded := settled.stranded name t entry
  have hmem : t ∈ g.targets ↔ name ∉ (start buildDir).refusedTags ops :=
    ⟨fun ht hname => (hstranded hname).unregistered ht,
      fun hname => List.count_pos_iff.mp ((hregistered hname).once ▸ Nat.one_pos)⟩
  refine ⟨⟨fun h hname => not_registered_of_stranded (hstranded hname) h, hregistered⟩, hmem,
    fun interpreter files hfiles hname => ?_⟩
  have laid := Ninja.laid_of_emitItems settled.sound.targetsNamed hfiles
  obtain ⟨_, items, hitems, hbuild⟩ := laid.statement (hmem.mpr hname)
  have hfile : Ninja.fileOf (g.node t) = Ninja.buildFile := by
    rw [Ninja.fileOf, Target.partitionName?, (hregistered hname).partition]
  refine ⟨items, _, hfile ▸ hitems, hbuild, (hregistered hname).outputs, fun dep hdep p hp => ?_⟩
  obtain ⟨d, hd, hpath⟩ := List.mem_flatMap.mp hp
  cases List.mem_singleton.mp hd
  exact List.mem_flatMap.mpr ⟨dep, hneeds dep hdep, hpath⟩

/-- A target is attached to two tags, twice. A group of the name that the second one needs is there already. -/
def takenTag : List Operation :=
  [.make (Target.emptyGroup "tags/x" none), .register ⟨1⟩,
    .make { Target.emptyGroup "/b/lib.a" none with action := .nothing }, .register ⟨2⟩,
    .attach (.target ⟨2⟩) none ["dist", "x"], .attach (.target ⟨2⟩) none ["x", "dist"]]

theorem validRun_takenTag : (start (some "/b")).ValidRun takenTag := by
  refine ⟨.inl rfl, ?_, .inl rfl, ?_, trivial, trivial, trivial⟩
  · show Made _ _
    decide +kernel
  · show Made _ _
    decide +kernel

/-- The first tag is built. The second one is not, though it was attached to without a complaint the second time. -/
theorem tagRegistered_iff_takenTag :
    ((start (some "/b")).run takenTag).TagRegistered "dist" ⟨3⟩ ∧ ⟨4⟩ ∉ ((start (some "/b")).run takenTag).targets ∧
      (start (some "/b")).Attaches takenTag "x" (.target ⟨2⟩) := by
  have hget : ((start (some "/b")).run takenTag).tags.get? "dist" = some ⟨3⟩ ∧
      ((start (some "/b")).run takenTag).tags.get? "x" = some ⟨4⟩ := by decide +kernel
  have hdist := tagRegistered_iff validRun_takenTag hget.1
  have hx := tagRegistered_iff validRun_takenTag hget.2
  refine ⟨hdist.1.mpr (by decide +kernel), fun h => hx.2.1.mp h (by decide +kernel), ?_⟩
  exact ⟨takenTag.take 5, none, ["x", "dist"], [], rfl, by decide +kernel, by decide +kernel⟩

/-- So it is not so that every tag in the table has a registered group. -/
theorem not_tagRegistered :
    ¬ ∀ (buildDir : Option String) (ops : List Operation), (start buildDir).ValidRun ops →
      ∀ name t, ((start buildDir).run ops).tags.get? name = some t →
        ((start buildDir).run ops).TagRegistered name t := by
  intro h
  have hcount := (h (some "/b") takenTag validRun_takenTag "x" ⟨4⟩ (by decide +kernel)).once
  revert hcount
  decide +kernel

end BuildTree.Graph
