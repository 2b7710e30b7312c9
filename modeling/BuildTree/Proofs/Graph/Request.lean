import BuildTree.Graph.Request
import BuildTree.Proofs.Graph.Growth

/-!
# What is asked of a graph makes it grow

The changes that scripts ask for with arguments, each as growth of the graph from wherever it is asked. This holds of a
change that is refused halfway too: what it did until then was growth.
-/

namespace BuildTree.Graph
open Effect Relation

variable {Fit : Target → Prop} {Asked : TargetId → Prop}

theorem leads_ensure (outcome : Except Fault Unit) :
    Leads (ReflTransGen (Growth Fit Asked)) (ensure outcome) :=
  leads_of_still fun _ => rfl

theorem leads_refuse {α : Type} (r : Rejection) (location : Option Location) :
    Leads (ReflTransGen (Growth Fit Asked)) (refuse r location : Change α) :=
  leads_throw _

/-- A change of one target that leaves alone what it makes. -/
theorem leads_edit (t : TargetId) {f : Target → Target} (same : ∀ u, Target.SameProducts u (f u)) :
    Leads (ReflTransGen (Growth Fit Asked)) (modify fun g : Graph => g.modifyNode t f : Change Unit) :=
  leads_modify fun g => .single (.edit g t same)

theorem leads_addInputs (t : TargetId) (deps : List Dependency) :
    Leads (ReflTransGen (Growth Fit Asked)) (addInputs t deps) :=
  leads_edit t fun _ => ⟨rfl, rfl, rfl, rfl⟩

theorem leads_addImplicitInputs (t : TargetId) (deps : List Dependency) :
    Leads (ReflTransGen (Growth Fit Asked)) (addImplicitInputs t deps) :=
  leads_edit t fun _ => ⟨rfl, rfl, rfl, rfl⟩

theorem leads_setMetadata (t : TargetId) (entries : Record TargetId) :
    Leads (ReflTransGen (Growth Fit Asked)) (setMetadata t entries) :=
  leads_edit t fun _ => ⟨rfl, rfl, rfl, rfl⟩

theorem leads_addLeading {add : List Dependency → Change Unit}
    (hadd : ∀ deps, Leads (ReflTransGen (Growth Fit Asked)) (add deps)) (values : List Given) :
    Leads (ReflTransGen (Growth Fit Asked)) (addLeading add values) := by
  refine leads_bind leads_get fun g => ?_
  rcases Argument.leadingDependencies g values with ⟨deps, outcome⟩
  exact leads_bind (hadd deps) fun _ => leads_ensure outcome

theorem leads_depends (t : TargetId) (values : List Given) :
    Leads (ReflTransGen (Growth Fit Asked)) (depends t values) :=
  leads_addLeading (leads_addInputs t) values

theorem leads_dependsImplicitly (t : TargetId) (values : List Given) :
    Leads (ReflTransGen (Growth Fit Asked)) (dependsImplicitly t values) :=
  leads_addLeading (leads_addImplicitInputs t) values

theorem leads_addToGroup (t : TargetId) (values : List Given) :
    Leads (ReflTransGen (Growth Fit Asked)) (addToGroup t values) := by
  refine leads_bind leads_get fun g => ?_
  split
  · exact leads_bind (leads_throw _) fun _ => leads_dependsImplicitly t values
  · exact leads_dependsImplicitly t values

theorem same_addInputPath (path : String) (t : Target) : Target.SameProducts t (t.addInputPath path) := by
  unfold Target.addInputPath
  split
  · exact .refl t
  · exact ⟨rfl, rfl, rfl, rfl⟩

/-- An input of the pass is added to a target, or nothing is done. -/
theorem addPassInput_cases (g : Graph) (t : TargetId) (value : Given) :
    ((addPassInput t value).run g).2 = g ∨ ∃ path, (g.node t).isPass = true ∧ Argument.text g value = .ok path ∧
      ((addPassInput t value).run g).2 = g.modifyNode t (Target.addInputPath path) := by
  cases hpass : (g.node t).isPass with
  | false => exact .inl (by simp [addPassInput, hpass])
  | true =>
    cases htext : Argument.text g value with
    | error f => exact .inl (by simp [addPassInput, hpass, htext])
    | ok path =>
      refine .inr ⟨path, rfl, rfl, ?_⟩
      simp only [addPassInput, run_bind, run_get, andThen_ok, hpass, htext, Bool.not_true, Bool.false_eq_true, if_false,
        run_lift, run_set]

theorem leads_addPassInput (t : TargetId) (value : Given) :
    Leads (ReflTransGen (Growth Fit Asked)) (addPassInput t value) := by
  intro g
  rcases addPassInput_cases g t value with h | ⟨path, _, _, h⟩
  · rw [h]
  · rw [h]
    exact .single (.edit g t (same_addInputPath _))

theorem leads_tag (name : String) (location : Option Location) :
    Leads (ReflTransGen (Growth Fit Asked)) (tag name location) :=
  fun g => growth_tag g name location

theorem leads_attach (dep : Dependency) (location : Option Location) (names : List String) :
    Leads (ReflTransGen (Growth Fit Asked)) (attach dep location names) :=
  fun g => growth_attach g dep location names

theorem leads_addGenerated (path : String) (location : Option Location) :
    Leads (ReflTransGen (Growth Fit Asked)) (addGenerated path location) :=
  fun g => growth_addGenerated g path location

theorem leads_attachGiven (value tags : Given) (location : Option Location) :
    Leads (ReflTransGen (Growth Fit Asked)) (attachGiven value tags location) := by
  refine leads_bind (leads_lift _) fun values => ?_
  rcases Argument.leadingTexts values with ⟨names, outcome⟩
  refine leads_bind leads_get fun g => ?_
  cases Argument.dependency g value with
  | ok dep => exact leads_bind (leads_attach dep location names) fun _ => leads_ensure outcome
  | error fault =>
    cases names with
    | nil => exact leads_ensure outcome
    | cons name rest =>
      exact leads_bind (leads_tag name location) fun _ =>
        leads_bind (leads_throw fault) fun _ => leads_ensure outcome

theorem leads_declareGivenPool (name depth : Given) (location : Option Location) :
    Leads (ReflTransGen (Growth Fit Asked)) (declareGivenPool name depth location) := by
  have hdeclare : Leads (ReflTransGen (Growth Fit Asked)) (do
      let depth ← (Argument.depth depth : Except Fault PoolDepth)
      declarePool name depth location : Change Unit) :=
    leads_bind (leads_lift _) fun depth g => growth_declarePool g name depth location
  unfold declareGivenPool
  split
  · exact leads_bind (leads_refuse _ _) fun _ => hdeclare
  · exact hdeclare

end BuildTree.Graph
