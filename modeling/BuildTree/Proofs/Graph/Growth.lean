import BuildTree.Proofs.Graph.Change
import Mathlib.Logic.Relation

/-!
# How a graph grows

Whatever is asked of a graph, it grows by a few kinds of steps: a target gets a place, a target that has one changes
in what it needs, a tag or a pool is entered, a target is registered, a file of the pass is recorded. `Growth Fit Asked`
is such a step when every target that gets a place is `Fit` and those made for the pass are registered only if that is
`Asked`. Making another target the one for the pass is no growth.

What a statement about every graph needs is then shown for each kind of step alone.
-/

namespace BuildTree

/-- Two targets that make the same things in the same way and go to the same partition. -/
structure Target.SameProducts (t u : Target) : Prop where
  action : u.action = t.action
  outputs : u.outputs = t.outputs
  implicitOutputs : u.implicitOutputs = t.implicitOutputs
  partition : u.partition = t.partition

theorem Target.SameProducts.refl (t : Target) : Target.SameProducts t t := ⟨rfl, rfl, rfl, rfl⟩

theorem Target.SameProducts.allOutputs {t u : Target} (h : Target.SameProducts t u) :
    u.allOutputs = t.allOutputs := by
  rw [Target.allOutputs, Target.allOutputs, h.outputs, h.implicitOutputs]

namespace Graph
open Effect Relation

section Nodes
variable (g : Graph)

theorem node_push (t : Target) {u : TargetId} (h : g.Made u) :
    ({ g with nodes := g.nodes.push t } : Graph).node u = g.node u := by
  have hne : u.index ≠ g.nodes.size := Nat.ne_of_lt h
  simp only [node, Array.getElem?_push, if_neg hne]

theorem node_push_self (t : Target) :
    ({ g with nodes := g.nodes.push t } : Graph).node ⟨g.nodes.size⟩ = t := by
  simp [node]

theorem node_modifyNode_self {t : TargetId} (f : Target → Target) (h : g.Made t) :
    (g.modifyNode t f).node t = f (g.node t) := by
  have hget : (g.nodes.modify t.index f)[t.index]? = g.nodes[t.index]?.map f := by
    rw [Array.getElem?_modify, if_pos rfl]
  have hsome : g.nodes[t.index]? = some (g.nodes[t.index]) := Array.getElem?_eq_getElem h
  simp only [node, modifyNode, hget, hsome, Option.map_some, Option.getD_some]

theorem node_modifyNode_of_ne {t u : TargetId} (f : Target → Target) (h : u ≠ t) :
    (g.modifyNode t f).node u = g.node u := by
  have hne : t.index ≠ u.index := fun he => h (by cases t; cases u; simp_all)
  simp [node, modifyNode, Array.getElem?_modify, hne]

theorem made_modifyNode_iff (t u : TargetId) (f : Target → Target) : (g.modifyNode t f).Made u ↔ g.Made u := by
  simp [Made, modifyNode]

end Nodes

/-- One step of growth in which every new target is fit, and a target made for the pass is registered only when
asked for. -/
inductive Growth (Fit : Target → Prop) (Asked : TargetId → Prop) : Graph → Graph → Prop where
  | make (g : Graph) {t : Target} (fit : Fit t) : Growth Fit Asked g { g with nodes := g.nodes.push t }
  | edit (g : Graph) (t : TargetId) {f : Target → Target} (same : ∀ u, Target.SameProducts u (f u)) :
      Growth Fit Asked g (g.modifyNode t f)
  | enterTag {g : Graph} {name : String} (location : Option Location) (fresh : g.tags.get? name = none) :
      Growth Fit Asked g (g.withTag name location)
  | enterPool (g : Graph) {name : Given} {depth : PoolDepth} (admitted : PoolAdmitted name depth) :
      Growth Fit Asked g (g.withPool name depth)
  | register {g : Graph} {t : TargetId} (made : g.Made t) (free : g.Registrable t)
      (asked : (g.node t).isPass = true → Asked t) : Growth Fit Asked g (g.registered t)
  | generate {g : Graph} {r : TargetId} {path : String} (free : g.Generable r path) :
      Growth Fit Asked g (g.generated r path)

/-- What growth keeps of a graph: what its targets do and where they go, those that are registered in their order, the
target for the pass, and the build directory. -/
structure Keeps (g g' : Graph) : Prop where
  made : ∀ t, g.Made t → g'.Made t
  action : ∀ t, g.Made t → (g'.node t).action = (g.node t).action
  partition : ∀ t, g.Made t → (g'.node t).partition = (g.node t).partition
  targets : g.targets <+: g'.targets
  pass : g'.pass = g.pass
  buildDir : g'.buildDir = g.buildDir

theorem Keeps.refl (g : Graph) : Keeps g g :=
  ⟨fun _ h => h, fun _ _ => rfl, fun _ _ => rfl, List.prefix_refl _, rfl, rfl⟩

theorem Keeps.trans {g g' g'' : Graph} (h : Keeps g g') (h' : Keeps g' g'') : Keeps g g'' where
  made t ht := h'.made t (h.made t ht)
  action t ht := (h'.action t (h.made t ht)).trans (h.action t ht)
  partition t ht := (h'.partition t (h.made t ht)).trans (h.partition t ht)
  targets := h.targets.trans h'.targets
  pass := h'.pass.trans h.pass
  buildDir := h'.buildDir.trans h.buildDir

/-- A graph in which nothing about outputs has changed. -/
structure Still (g g' : Graph) : Prop where
  made : ∀ t, g.Made t → g'.Made t
  products : ∀ t, g.Made t → Target.SameProducts (g.node t) (g'.node t)
  targets : g'.targets = g.targets
  claims : g'.claims = g.claims
  pass : g'.pass = g.pass
  buildDir : g'.buildDir = g.buildDir

theorem Still.keeps {g g' : Graph} (h : Still g g') : Keeps g g' where
  made := h.made
  action t ht := (h.products t ht).action
  partition t ht := (h.products t ht).partition
  targets := h.targets ▸ List.prefix_refl _
  pass := h.pass
  buildDir := h.buildDir

theorem still_push (g : Graph) (t : Target) : Still g { g with nodes := g.nodes.push t } where
  made u h := by
    have : g.nodes.size < (g.nodes.push t).size := by simp
    exact Nat.lt_trans h this
  products u h := by
    rw [node_push g t h]
    exact .refl _
  targets := rfl
  claims := rfl
  pass := rfl
  buildDir := rfl

theorem still_modifyNode (g : Graph) (t : TargetId) {f : Target → Target}
    (same : ∀ u, Target.SameProducts u (f u)) : Still g (g.modifyNode t f) where
  made u h := (made_modifyNode_iff g t u f).mpr h
  products u h := by
    by_cases hu : u = t
    · subst hu
      rw [node_modifyNode_self g f h]
      exact same _
    · rw [node_modifyNode_of_ne g f hu]
      exact .refl _
  targets := rfl
  claims := rfl
  pass := rfl
  buildDir := rfl

theorem still_withTag (g : Graph) (name : String) (location : Option Location) :
    Still g (g.withTag name location) := by
  have h := still_push g (Target.emptyGroup (tagPrefix ++ name) location)
  exact ⟨h.made, h.products, rfl, rfl, rfl, rfl⟩

theorem still_withPool (g : Graph) (name : Given) (depth : PoolDepth) : Still g (g.withPool name depth) :=
  ⟨fun _ h => h, fun _ _ => .refl _, rfl, rfl, rfl, rfl⟩

theorem addOutput_action (path : String) (t : Target) : (t.addOutput path).action = t.action := by
  unfold Target.addOutput
  split <;> rfl

theorem addOutput_partition (path : String) (t : Target) : (t.addOutput path).partition = t.partition := by
  unfold Target.addOutput
  split <;> rfl

theorem mem_outputs_addOutput_iff (t : Target) (path o : String) :
    o ∈ (t.addOutput path).outputs ↔ o ∈ t.outputs ∨ o = path := by
  unfold Target.addOutput
  by_cases h : t.outputs.contains path = true
  · rw [if_pos h]
    have hmem : path ∈ t.outputs := by simpa using h
    constructor
    · exact .inl
    · rintro (ho | rfl)
      · exact ho
      · exact hmem
  · rw [if_neg h]
    simp [Target.outputs, or_assoc]

theorem keeps_generated (g : Graph) (r : TargetId) (path : String) : Keeps g (g.generated r path) where
  made u h := (made_modifyNode_iff g r u (Target.addOutput path)).mpr h
  action u h := by
    show ((g.modifyNode r (Target.addOutput path)).node u).action = _
    by_cases hu : u = r
    · subst hu
      rw [node_modifyNode_self g _ h, addOutput_action]
    · rw [node_modifyNode_of_ne g _ hu]
  partition u h := by
    show ((g.modifyNode r (Target.addOutput path)).node u).partition = _
    by_cases hu : u = r
    · subst hu
      rw [node_modifyNode_self g _ h, addOutput_partition]
    · rw [node_modifyNode_of_ne g _ hu]
  targets := List.prefix_refl _
  pass := rfl
  buildDir := rfl

theorem keeps_registered (g : Graph) (t : TargetId) : Keeps g (g.registered t) :=
  ⟨fun _ h => h, fun _ _ => rfl, fun _ _ => rfl, List.prefix_append _ _, rfl, rfl⟩

variable {Fit : Target → Prop} {Asked : TargetId → Prop}

theorem Growth.keeps {g g' : Graph} (h : Growth Fit Asked g g') : Keeps g g' := by
  cases h with
  | make fit => exact (still_push g _).keeps
  | edit t same => exact (still_modifyNode g t same).keeps
  | enterTag location fresh => exact (still_withTag g _ location).keeps
  | enterPool admitted => exact (still_withPool g _ _).keeps
  | register made free asked => exact keeps_registered g _
  | generate free => exact keeps_generated g _ _

/-- What one step keeps, growth keeps. -/
theorem Growth.keeps_of_steps {g g' : Graph} (h : ReflTransGen (Growth Fit Asked) g g') : Keeps g g' := by
  induction h with
  | refl => exact .refl g
  | tail _ step ih => exact ih.trans step.keeps

/-- What is registered has a place. -/
def TargetsMade (g : Graph) : Prop :=
  ∀ t ∈ g.targets, g.Made t

theorem Growth.targetsMade {g g' : Graph} (step : Growth Fit Asked g g') (h : TargetsMade g) : TargetsMade g' := by
  have hold : ∀ t ∈ g.targets, g'.Made t := fun t ht => step.keeps.made t (h t ht)
  cases step with
  | @register t made free asked =>
    intro u hu
    rcases List.mem_append.mp hu with hu | hu
    · exact hold u hu
    · rw [List.mem_singleton.mp hu]
      exact made
  | _ => exact hold

theorem targetsMade_of_growth {g g' : Graph} (steps : ReflTransGen (Growth Fit Asked) g g') (h : TargetsMade g) :
    TargetsMade g' := by
  induction steps with
  | refl => exact h
  | tail _ step ih => exact step.targetsMade ih

section Changes
variable (g : Graph)

theorem growth_register {t : TargetId} (made : g.Made t) (asked : (g.node t).isPass = true → Asked t) :
    ReflTransGen (Growth Fit Asked) g ((register t).run g).2 := by
  rcases (register_decides g t).after_cases with ⟨free, h⟩ | ⟨_, h⟩
  · rw [h]
    exact .single (.register made free asked)
  · rw [h]

theorem growth_tag (name : String) (location : Option Location) :
    ReflTransGen (Growth Fit Asked) g ((tag name location).run g).2 := by
  cases h : g.tags.get? name with
  | some t => rw [tag_of_some location h]
  | none =>
    have hmade : (g.withTag name location).Made ⟨g.nodes.size⟩ := by simp [Made, withTag]
    have hnode : (g.withTag name location).node ⟨g.nodes.size⟩ = Target.emptyGroup (tagPrefix ++ name) location :=
      node_push_self g _
    have hrest : ReflTransGen (Growth Fit Asked) (g.withTag name location)
        ((register ⟨g.nodes.size⟩).run (g.withTag name location)).2 := by
      refine growth_register _ hmade fun hpass => ?_
      rw [hnode] at hpass
      cases hpass
    have hstep : Growth Fit Asked g (g.withTag name location) := .enterTag location h
    rw [tag_of_none location h]
    cases hr : (register ⟨g.nodes.size⟩).run (g.withTag name location) with
    | mk outcome g' =>
      rw [hr] at hrest
      cases outcome <;> exact .head hstep hrest

theorem growth_attach (dep : Dependency) (location : Option Location) (names : List String) :
    ReflTransGen (Growth Fit Asked) g ((attach dep location names).run g).2 := by
  induction names generalizing g with
  | nil => exact .refl
  | cons name rest ih =>
    have htag : ReflTransGen (Growth Fit Asked) g ((tag name location).run g).2 := growth_tag g name location
    rw [attach_cons]
    cases hr : (tag name location).run g with
    | mk outcome g' =>
      rw [hr] at htag
      cases outcome with
      | error f => exact htag
      | ok t =>
        have hedit : Growth Fit Asked g'
            (g'.modifyNode t fun u => { u with implicitInputs := u.implicitInputs ++ [dep] }) :=
          .edit g' t fun u => ⟨rfl, rfl, rfl, rfl⟩
        exact htag.trans (.head hedit (ih _))

theorem growth_addGenerated (path : String) (location : Option Location) :
    ReflTransGen (Growth Fit Asked) g ((addGenerated path location).run g).2 := by
  rcases addGenerated_cases g path location with ⟨r, free, h⟩ | ⟨_, f, h⟩
  · rw [h]
    exact .single (.generate free)
  · rw [h]

theorem growth_declarePool (name : Given) (depth : PoolDepth) (location : Option Location) :
    ReflTransGen (Growth Fit Asked) g ((declarePool name depth location).run g).2 := by
  rcases (declarePool_decides g name depth location).after_cases with ⟨admitted, h⟩ | ⟨_, h⟩
  · rw [h]
    exact .single (.enterPool g admitted)
  · rw [h]

end Changes

end Graph
end BuildTree
