import BuildTree.Proofs.Graph.Request

/-!
# What becomes of each target

Much of what growth keeps is about one target alone: how it may change once it has a place, and what is true of a new
one. `EachTarget` says it of all targets of a graph. It is enough that the way of changing is `Steady`; then no change
leads elsewhere, but for those that are asked to add explicit inputs. If it is only `Lasting`, those that are asked to
add implicit inputs are left out, too: what a graph does by itself is to attach targets to its tags.
-/

namespace BuildTree.Graph
open Effect

/-- Every target that has a place keeps it and changes in one way only, and something holds of every new target. -/
structure EachTarget (Alters : Target → Target → Prop) (New : Target → Prop) (g g' : Graph) : Prop where
  made : ∀ t, g.Made t → g'.Made t
  old : ∀ t, g.Made t → Alters (g.node t) (g'.node t)
  new : ∀ t, g'.Made t → ¬ g.Made t → New (g'.node t)

/-- A way for targets to change that allows for targets to be attached, for metadata and, if it is for the pass, for
outputs. What holds of new targets holds of empty groups and survives a change. -/
class Lasting (Alters : Target → Target → Prop) (New : outParam (Target → Prop)) : Prop where
  refl : ∀ t, Alters t t
  trans : ∀ {t u v}, Alters t u → Alters u v → Alters t v
  new : ∀ {t u}, New t → Alters t u → New u
  group : ∀ name location, New (Target.emptyGroup name location)
  attached : ∀ t u, Alters t { t with implicitInputs := t.implicitInputs ++ [.target u] }
  metadata : ∀ t entries, Alters t { t with metadata := t.metadata.insertAll entries }
  output : ∀ t path, t.isPass = true → Alters t (t.addOutput path)

/-- A lasting way for targets to change that allows for any implicit inputs. -/
class Steady (Alters : Target → Target → Prop) (New : outParam (Target → Prop)) : Prop extends Lasting Alters New where
  implicitInputs : ∀ t deps, Alters t { t with implicitInputs := t.implicitInputs ++ deps }
  attached := fun t u => implicitInputs t [.target u]

variable {Alters : Target → Target → Prop} {New : Target → Prop}

/-- What holds of new targets holds of all, if it did before. -/
theorem EachTarget.forall_made [Lasting Alters New] {g g' : Graph} (h : EachTarget Alters New g g')
    (hold : ∀ t, g.Made t → New (g.node t)) : ∀ t, g'.Made t → New (g'.node t) := by
  intro t ht
  by_cases hmade : g.Made t
  · exact Lasting.new (hold t hmade) (h.old t hmade)
  · exact h.new t ht hmade

instance [Lasting Alters New] : IsPreorder Graph (EachTarget Alters New) where
  refl _ := ⟨fun _ h => h, fun _ _ => Lasting.refl _, fun _ h hnot => absurd h hnot⟩
  trans _ g' _ h h' :=
    { made := fun t ht => h'.made t (h.made t ht)
      old := fun t ht => Lasting.trans (h.old t ht) (h'.old t (h.made t ht))
      new := fun t ht hnot => by
        by_cases hmade : g'.Made t
        · exact Lasting.new (h.new t hmade hnot) (h'.old t hmade)
        · exact h'.new t ht hmade }

section Steps
variable [Lasting Alters New]

/-- Nothing becomes of any target where the arena stays as it is. -/
theorem each_of_nodes {g g' : Graph} (h : g'.nodes = g.nodes) : EachTarget Alters New g g' where
  made t ht := by rwa [Made, h]
  old t _ := by
    rw [node, node, h]
    exact Lasting.refl _
  new t ht hnot := absurd (by rwa [Made, h] at ht) hnot

variable (g : Graph)

theorem each_push {t : Target} (new : New t) : EachTarget Alters New g { g with nodes := g.nodes.push t } where
  made := (still_push g t).made
  old u hu := by
    rw [node_push g t hu]
    exact Lasting.refl _
  new u hu hnot := by
    have hsize : u.index < g.nodes.size + 1 := by simpa [Made] using hu
    have hlast : u = ⟨g.nodes.size⟩ :=
      congrArg TargetId.mk (Nat.le_antisymm (Nat.le_of_lt_succ hsize) (Nat.le_of_not_lt hnot))
    rw [hlast, node_push_self]
    exact new

theorem each_modifyNode (t : TargetId) {f : Target → Target} (h : Alters (g.node t) (f (g.node t))) :
    EachTarget Alters New g (g.modifyNode t f) where
  made u hu := (made_modifyNode_iff g t u f).mpr hu
  old u hu := by
    by_cases hut : u = t
    · subst hut
      rw [node_modifyNode_self g f hu]
      exact h
    · rw [node_modifyNode_of_ne g f hut]
      exact Lasting.refl _
  new u hu hnot := absurd ((made_modifyNode_iff g t u f).mp hu) hnot

theorem each_generated {r : TargetId} {path : String} (free : g.Generable r path) :
    EachTarget Alters New g (g.generated r path) :=
  have h : EachTarget Alters New g (g.modifyNode r (Target.addOutput path)) :=
    each_modifyNode g r (Lasting.output _ path free.isPass)
  ⟨h.made, h.old, h.new⟩

end Steps

section Changes
variable [Lasting Alters New]

theorem each_register (t : TargetId) : Leads (EachTarget Alters New) (register t) := by
  intro g
  rcases (register_decides g t).after_cases with ⟨_, h⟩ | ⟨_, h⟩
  · rw [h]
    exact each_of_nodes rfl
  · rw [h]
    exact refl_of (EachTarget Alters New) g

theorem each_tag (name : String) (location : Option Location) : Leads (EachTarget Alters New) (tag name location) := by
  intro g
  cases h : g.tags.get? name with
  | some t =>
    rw [tag_of_some location h]
    exact refl_of (EachTarget Alters New) g
  | none =>
    let group : Target := Target.emptyGroup (tagPrefix ++ name) location
    have hpush : EachTarget Alters New g { g with nodes := g.nodes.push group } :=
      each_push g (Lasting.group Alters _ location)
    have hmake : EachTarget Alters New g (g.withTag name location) := ⟨hpush.made, hpush.old, hpush.new⟩
    rw [tag_of_none location h]
    exact trans_of (EachTarget Alters New) hmake (andThen_leads (each_register _ _) fun _ => leads_pure _)

theorem each_addImplicitInputs {deps : List Dependency}
    (h : ∀ t : Target, Alters t { t with implicitInputs := t.implicitInputs ++ deps }) (t : TargetId) :
    Leads (EachTarget Alters New) (addImplicitInputs t deps) :=
  leads_modify fun g => each_modifyNode g t (h _)

theorem each_setMetadata (t : TargetId) (entries : Record TargetId) :
    Leads (EachTarget Alters New) (setMetadata t entries) :=
  leads_modify fun g => each_modifyNode g t (Lasting.metadata _ entries)

theorem each_attach {dep : Dependency}
    (h : ∀ t : Target, Alters t { t with implicitInputs := t.implicitInputs ++ [dep] }) (location : Option Location)
    (names : List String) : Leads (EachTarget Alters New) (attach dep location names) := by
  induction names with
  | nil => exact leads_pure _
  | cons name rest ih =>
    exact leads_bind (each_tag name location) fun t => leads_bind (each_addImplicitInputs h t) fun _ => ih

theorem each_ensure (outcome : Except Fault Unit) : Leads (EachTarget Alters New) (ensure outcome) :=
  leads_of_still fun _ => rfl

/-- A target is attached to the groups of tags. -/
theorem each_attachGiven (t : TargetId) (tags : Given) (location : Option Location) :
    Leads (EachTarget Alters New) (attachGiven (.target t) tags location) := by
  refine leads_bind (leads_lift _) fun values => ?_
  rcases Argument.leadingTexts values with ⟨names, outcome⟩
  exact leads_bind leads_get fun g =>
    leads_bind (each_attach (fun group => Lasting.attached group t) location names) fun _ => each_ensure outcome

theorem each_addGenerated (path : String) (location : Option Location) :
    Leads (EachTarget Alters New) (addGenerated path location) := by
  intro g
  rcases addGenerated_cases g path location with ⟨r, free, h⟩ | ⟨_, f, h⟩
  · rw [h]
    exact each_generated g free
  · rw [h]
    exact refl_of (EachTarget Alters New) g

theorem each_declarePool (name : Given) (depth : PoolDepth) (location : Option Location) :
    Leads (EachTarget Alters New) (declarePool name depth location) := by
  intro g
  rcases (declarePool_decides g name depth location).after_cases with ⟨_, h⟩ | ⟨_, h⟩
  · rw [h]
    exact each_of_nodes rfl
  · rw [h]
    exact refl_of (EachTarget Alters New) g

theorem each_declareGivenPool (name depth : Given) (location : Option Location) :
    Leads (EachTarget Alters New) (declareGivenPool name depth location) := by
  have hdeclare : Leads (EachTarget Alters New) (do
      let depth ← (Argument.depth depth : Except Fault PoolDepth)
      declarePool name depth location : Change Unit) :=
    leads_bind (leads_lift _) fun depth => each_declarePool name depth location
  unfold declareGivenPool
  split
  · exact leads_bind (leads_throw _) fun _ => hdeclare
  · exact hdeclare

/-- The pass may be made to depend on a path, if that is a way for the target of a pass to change. -/
theorem each_addPassInput (h : ∀ (t : Target) path, t.isPass = true → Alters t (t.addInputPath path)) (t : TargetId)
    (value : Given) : Leads (EachTarget Alters New) (addPassInput t value) := by
  intro g
  rcases addPassInput_cases g t value with hrun | ⟨_, hpass, _, hrun⟩
  · rw [hrun]
    exact refl_of (EachTarget Alters New) g
  · rw [hrun]
    exact each_modifyNode g t (h _ _ hpass)

theorem each_addLeading {add : List Dependency → Change Unit} (h : ∀ deps, Leads (EachTarget Alters New) (add deps))
    (values : List Given) : Leads (EachTarget Alters New) (addLeading add values) := by
  refine leads_bind leads_get fun g => ?_
  rcases Argument.leadingDependencies g values with ⟨deps, outcome⟩
  exact leads_bind (h deps) fun _ => each_ensure outcome

end Changes

section ImplicitInputs
variable [Steady Alters New]

theorem each_dependsImplicitly (t : TargetId) (values : List Given) :
    Leads (EachTarget Alters New) (dependsImplicitly t values) :=
  each_addLeading (fun deps => each_addImplicitInputs (fun u => Steady.implicitInputs u deps) t) values

theorem each_addToGroup (t : TargetId) (values : List Given) :
    Leads (EachTarget Alters New) (addToGroup t values) := by
  refine leads_bind leads_get fun g => ?_
  split
  · exact leads_bind (leads_throw _) fun _ => each_dependsImplicitly t values
  · exact each_dependsImplicitly t values

end ImplicitInputs

end BuildTree.Graph
