import BuildTree.Project.Declare
import BuildTree.Proofs.Arguments.References
import BuildTree.Proofs.Graph.Request

/-!
# What a declaration does to the graph

A declaration makes a step or a group, which needs no other target explicitly than those that the arguments stand for.
It never makes a target for the pass, so declaring is growth in which such targets are neither made nor registered.
-/

namespace BuildTree
open Effect Relation

/-- Growth in which no target is made for the pass and no target for the pass is registered. -/
abbrev Graph.ScriptGrowth : Graph → Graph → Prop :=
  ReflTransGen (Graph.Growth (fun t => t.isPass = false) fun _ => False)

namespace Target
variable {g : Graph} {p : TargetParts} {t : Target}

/-- A step that scripts can declare: it runs commands, copies, compiles or links. -/
def isStep (t : Target) : Bool :=
  match t.action with
  | .run _ => true
  | .copy => true
  | .compile c => match c.rule with
    | .text rule => rule = "compile" || rule = "link"
    | _ => false
  | _ => false

/-- What declarations make: steps, and groups that make nothing but their name. What they need explicitly is among
these targets. -/
structure DeclaredOver (references : List TargetId) (t : Target) : Prop where
  inputs : ∀ u, .target u ∈ t.inputs → u ∈ references
  kind : t.isStep = true ∨ (t.isGroup = true ∧ t.otherOutputs = [])

theorem DeclaredOver.mono {references others : List TargetId} (h : t.DeclaredOver references)
    (sub : references ⊆ others) : t.DeclaredOver others :=
  ⟨fun u hu => sub (h.inputs u hu), h.kind⟩

theorem isPass_of_kind (h : t.isStep = true ∨ t.isGroup = true) : t.isPass = false := by
  unfold isStep isGroup at h
  unfold isPass
  cases haction : t.action <;> simp [haction] at h ⊢

theorem DeclaredOver.isPass {references : List TargetId} (h : t.DeclaredOver references) : t.isPass = false :=
  isPass_of_kind (h.kind.imp_right And.left)

/-- A target has what its parts have been read as. -/
structure Assembled (g : Graph) (p : TargetParts) (t : Target) : Prop where
  outputs : Argument.texts g (Argument.onePath p.outputs) = .ok t.outputs
  inputs : Argument.dependencies g p.inputs = .ok t.inputs
  implicitInputs : Argument.dependencies g p.implicitInputs = .ok t.implicitInputs
  implicitOutputs : Argument.texts g p.implicitOutputs = .ok t.implicitOutputs
  orderOnlyInputs : Argument.dependencies g p.orderOnlyInputs = .ok t.orderOnlyInputs

theorem assemble_eq_ok {kind : String} {make : Action → Target} (h : assemble g kind p = .ok make) (a : Action) :
    (make a).action = a ∧ Assembled g p (make a) := by
  simp only [assemble, bind_eq_ok_iff] at h
  obtain ⟨names, hnames, h⟩ := h
  cases names with
  | nil => cases h
  | cons name otherOutputs =>
    simp only [bind_eq_ok_iff] at h
    obtain ⟨inputs, hinputs, implicitInputs, himplicit, implicitOutputs, houtputs, orderOnly, horder, _, _, h⟩ := h
    cases h
    exact ⟨rfl, hnames, hinputs, himplicit, houtputs, horder⟩

theorem assembleGroup_eq_ok (h : assembleGroup g p = .ok t) : Assembled g p t ∧ t.action = .group := by
  simp only [assembleGroup, bind_eq_ok_iff] at h
  obtain ⟨make, hmake, h⟩ := h
  cases h
  exact (assemble_eq_ok hmake .group).symm

theorem assembleCopy_eq_ok (h : assembleCopy g p = .ok t) : Assembled g p t ∧ t.action = .copy := by
  simp only [assembleCopy, bind_eq_ok_iff] at h
  obtain ⟨make, hmake, h⟩ := h
  cases h
  exact (assemble_eq_ok hmake .copy).symm

theorem assembleCompilation_eq_ok {c : CompilationParts} (h : assembleCompilation g p c = .ok t) :
    Assembled g p t ∧ ∃ flags root, t.action = .compile ⟨c.rule, c.compiler, flags, root⟩ ∧
      Argument.text g c.root = .ok root := by
  simp only [assembleCompilation, bind_eq_ok_iff] at h
  obtain ⟨make, hmake, flags, _, root, hroot, h⟩ := h
  cases h
  obtain ⟨haction, assembled⟩ := assemble_eq_ok hmake (.compile ⟨c.rule, c.compiler, flags, root⟩)
  exact ⟨assembled, flags, root, haction, hroot⟩

theorem assembleRecipe_eq_ok {r : RecipeParts} (h : assembleRecipe g p r = .ok t) :
    Assembled g p t ∧ ∃ recipe, t.action = .run recipe ∧ Argument.text g r.cwd = .ok recipe.cwd ∧
      givenText g r.depfile = .ok recipe.depfile := by
  simp only [assembleRecipe, bind_eq_ok_iff] at h
  obtain ⟨make, hmake, h⟩ := h
  split at h
  · cases h
  · simp only [bind_eq_ok_iff] at h
    obtain ⟨commands, _, cwd, hcwd, depfile, hdepfile, env, _, h⟩ := h
    cases h
    obtain ⟨haction, assembled⟩ := assemble_eq_ok hmake (.run ⟨commands, cwd, depfile, env, r.pool⟩)
    exact ⟨assembled, _, haction, hcwd, hdepfile⟩

theorem Assembled.declaredOver (h : Assembled g p t)
    (hkind : t.isStep = true ∨ (t.isGroup = true ∧ t.otherOutputs = [])) : t.DeclaredOver p.inputs.references :=
  ⟨fun _ hu => Argument.mem_references_of_dependencies h.inputs hu, hkind⟩

theorem declaredOver_of_assembleGroup {name : Given} (houtputs : p.outputs = .list [name])
    (h : assembleGroup g p = .ok t) : t.DeclaredOver p.inputs.references := by
  obtain ⟨assembled, haction⟩ := assembleGroup_eq_ok h
  refine assembled.declaredOver (.inr ⟨by rw [isGroup, haction], ?_⟩)
  have htexts := assembled.outputs
  rw [houtputs] at htexts
  obtain ⟨text, _, hname⟩ := Argument.texts_singleton htexts
  exact (List.cons.inj hname).2

theorem declaredOver_of_assembleCopy (h : assembleCopy g p = .ok t) : t.DeclaredOver p.inputs.references := by
  obtain ⟨assembled, haction⟩ := assembleCopy_eq_ok h
  exact assembled.declaredOver (.inl (by rw [isStep, haction]))

theorem declaredOver_of_assembleCompilation {c : CompilationParts} (hrule : c.rule ∈ [.text "compile", .text "link"])
    (h : assembleCompilation g p c = .ok t) : t.DeclaredOver p.inputs.references := by
  obtain ⟨assembled, flags, root, haction, _⟩ := assembleCompilation_eq_ok h
  refine assembled.declaredOver (.inl ?_)
  rw [isStep, haction]
  simp only [List.mem_cons, List.not_mem_nil, or_false] at hrule
  rcases hrule with he | he <;> rw [he] <;> rfl

theorem declaredOver_of_assembleRecipe {r : RecipeParts} (h : assembleRecipe g p r = .ok t) :
    t.DeclaredOver p.inputs.references := by
  obtain ⟨assembled, recipe, haction, _⟩ := assembleRecipe_eq_ok h
  exact assembled.declaredOver (.inl (by rw [isStep, haction]))

end Target

namespace Declare
variable {s : Session} {here : Option Location} {b : Bound TargetId} {t : Target}

theorem reference?_of_input {value : Given} {u : TargetId} (h : (input s value).reference? = some u) :
    value.reference? = some u := by
  unfold input at h
  split at h
  · cases h
  · exact h

theorem references_map_input_subset (values : List Given) :
    (Value.list (values.map (input s))).references ⊆ (Value.list values).references := by
  intro u hu
  obtain ⟨v, hv, hu⟩ := List.mem_filterMap.mp hu
  obtain ⟨value, hvalue, rfl⟩ := List.mem_map.mp hv
  exact List.mem_filterMap.mpr ⟨value, hvalue, reference?_of_input hu⟩

theorem references_inputs_subset {value : Given} {values : List Given} (h : inputs s value = .ok values) :
    (Value.list values).references ⊆ value.references := by
  obtain ⟨items, hitems, rfl⟩ := (map_eq_ok_iff _ _ _).mp h
  refine List.Subset.trans (references_map_input_subset items) fun u hu => ?_
  obtain ⟨v, hv, hu⟩ := List.mem_filterMap.mp hu
  exact Argument.references_oneDependency_subset value (Argument.mem_references_of_items hitems hv hu)

theorem references_singleton_subset (value : Given) : (Value.list [value]).references ⊆ value.references := by
  intro u hu
  obtain ⟨v, hv, hu⟩ := List.mem_filterMap.mp hu
  rw [List.mem_singleton.mp hv] at hu
  exact Argument.mem_references hu

theorem declaredOver_of_compilerTarget {rule : String} (hrule : rule ∈ ["compile", "link"]) {inputList : List Given}
    {compiler : Given} {flags : List Given} (h : compilerTarget s here rule inputList compiler flags b = .ok t) :
    t.DeclaredOver (Value.list inputList).references := by
  simp only [compilerTarget, bind_eq_ok_iff] at h
  obtain ⟨⟨output, _⟩, _, command, _, words, _, root, _, implicitInputs, _, orderOnlyInputs, _, h⟩ := h
  have hgiven : Value.text rule ∈ [(.text "compile" : Given), .text "link"] := List.mem_map_of_mem hrule
  exact (Target.declaredOver_of_assembleCompilation hgiven h).mono (references_map_input_subset inputList)

theorem declaredOver_of_commandTarget (h : commandTarget s here b = .ok t) : t.DeclaredOver b.references := by
  simp only [commandTarget, bind_eq_ok_iff] at h
  obtain ⟨commands, _, ⟨first, rest⟩, _, dependencies, hdependencies, cwd, _, depfile, _, h⟩ := h
  obtain ⟨implicitInputs, _, orderOnlyInputs, _, implicitOutputs, _, h⟩ := h
  exact (Target.declaredOver_of_assembleRecipe h).mono
    (List.Subset.trans (references_inputs_subset hdependencies) (b.references_getMany_subset _))

theorem declaredOver_of_copyTarget (h : copyTarget s here b = .ok t) : t.DeclaredOver b.references := by
  simp only [copyTarget, bind_eq_ok_iff] at h
  obtain ⟨_, _, ⟨dest, _⟩, _, h⟩ := h
  have hgiven : (Value.list [input s (b.get "src")]).references ⊆ (b.get "src").references :=
    List.Subset.trans (references_map_input_subset [b.get "src"]) (references_singleton_subset _)
  have hinput : (Value.list [input s (b.get "src")]).references ⊆ b.references :=
    List.Subset.trans hgiven (b.references_get_subset _)
  exact (Target.declaredOver_of_assembleCopy h).mono hinput

theorem declaredOver_of_compileTarget (h : compileTarget s here b = .ok t) : t.DeclaredOver b.references := by
  unfold compileTarget at h
  split at h
  · cases h
  · simp only [bind_eq_ok_iff] at h
    obtain ⟨first, _, own, _, h⟩ := h
    exact (declaredOver_of_compilerTarget (by decide) h).mono
      (List.Subset.trans (references_singleton_subset _) (b.references_get_subset _))
  · cases h

theorem references_linkObjects_subset {value : Given} {objects : List Given} (h : linkObjects s value = .ok objects) :
    (Value.list objects).references ⊆ value.references := by
  unfold linkObjects at h
  split at h
  · cases h
    exact List.nil_subset _
  · exact references_inputs_subset h

theorem declaredOver_of_linkTarget (h : linkTarget s here b = .ok t) : t.DeclaredOver b.references := by
  simp only [linkTarget, bind_eq_ok_iff] at h
  obtain ⟨objects, hobjects, h⟩ := h
  split at h
  · cases h
  · simp only [bind_eq_ok_iff] at h
    obtain ⟨own, _, last, _, h⟩ := h
    exact (declaredOver_of_compilerTarget (by decide) h).mono
      (List.Subset.trans (references_linkObjects_subset hobjects) (b.references_get_subset _))
  · cases h

theorem declaredOver_of_groupTarget (h : groupTarget s here b = .ok t) : t.DeclaredOver b.references := by
  simp only [groupTarget, bind_eq_ok_iff] at h
  obtain ⟨fields, _, name, _, metadata, _, h⟩ := h
  have hgiven := references_map_input_subset (s := s) b.rest
  refine (Target.declaredOver_of_assembleGroup rfl h).mono (List.Subset.trans hgiven fun u hu => ?_)
  obtain ⟨v, hv, hu⟩ := List.mem_filterMap.mp hu
  exact b.mem_references_of_rest hv (Argument.mem_references hu)

/-- Whatever is declared, what it needs explicitly is among the targets that its arguments stand for. -/
theorem Kind.declaredOver_of_target {kind : Kind} (h : kind.target s here b = .ok t) : t.DeclaredOver b.references := by
  cases kind with
  | command => exact declaredOver_of_commandTarget h
  | copy => exact declaredOver_of_copyTarget h
  | compile => exact declaredOver_of_compileTarget h
  | link => exact declaredOver_of_linkTarget h
  | group => exact declaredOver_of_groupTarget h

/-- No declaration is about a target for the pass. -/
theorem Kind.isPass_of_target {kind : Kind} (h : kind.target s here b = .ok t) : t.isPass = false :=
  (Kind.declaredOver_of_target h).isPass

theorem leads_add (notPass : t.isPass = false) (tags : Given) : Leads Graph.ScriptGrowth (add here t tags) := by
  intro g
  let made : Graph := { g with nodes := g.nodes.push t }
  have hmake : Graph.ScriptGrowth g made := .single (.make g notPass)
  have hregister : Graph.ScriptGrowth made ((Graph.register ⟨g.nodes.size⟩).run made).2 := by
    refine Graph.growth_register made (by simp [Graph.Made, made]) fun hpass => ?_
    rw [Graph.node_push_self, notPass] at hpass
    cases hpass
  simp only [add, run_bind, Graph.run_allocate, andThen_ok]
  exact andThen_leads (hmake.trans hregister) fun _ =>
    leads_bind (Graph.leads_attachGiven _ _ _) fun _ => leads_pure _

end Declare
end BuildTree
