import BuildTree.Proofs.Graph.Inputs
import BuildTree.Proofs.Project.Failures

/-!
# What scripts can refer to

Scripts refer to targets by names, tags and bindings. All of these lead to targets that are not the one for the pass,
whatever scripts do: a call gives such a target or none, and a name is bound to what a call has given. So no call but
one that says so changes what the pass depends on.
-/

namespace BuildTree
open Effect Relation

namespace Graph

/-- Growth in which a target keeps its explicit inputs. -/
structure Spares (r : TargetId) (g g' : Graph) : Prop where
  growth : ScriptGrowth g g'
  inputs : g.Made r → (g'.node r).inputs = (g.node r).inputs

instance (r : TargetId) : IsPreorder Graph (Spares r) where
  refl _ := ⟨.refl, fun _ => rfl⟩
  trans _ _ _ h h' := ⟨h.growth.trans h'.growth, fun made =>
    (h'.inputs ((Growth.keeps_of_steps h.growth).made r made)).trans (h.inputs made)⟩

/-- Inputs of one target are added to that target only. -/
theorem spares_depends {r t : TargetId} (h : r ≠ t) (values : List Given) : Leads (Spares r) (depends t values) := by
  refine leads_bind leads_get fun g => ?_
  rcases Argument.leadingDependencies g values with ⟨deps, outcome⟩
  refine leads_bind (fun g' => ⟨leads_addInputs t deps g', fun _ => ?_⟩) fun _ => leads_of_still fun _ => rfl
  exact congrArg Target.inputs (node_modifyNode_of_ne g' _ h)

end Graph

section EachTarget
variable {Alters : Target → Target → Prop} {New : Target → Prop}

section Lasting
variable [Graph.Lasting Alters New]

theorem Declare.each_add (here : Option Location) {t : Target} (tags : Given) (new : New t) :
    Leads (Graph.EachTarget Alters New) (add here t tags) :=
  leads_bind (fun g => Graph.each_push g new) fun id => leads_bind (Graph.each_register id) fun _ =>
    leads_bind (Graph.each_attachGiven id _ _) fun _ => leads_pure _

theorem Pass.allows_each : Allows (Graph.EachTarget Alters New) where
  tag := Graph.each_tag
  addGenerated := Graph.each_addGenerated
  declareGivenPool := Graph.each_declareGivenPool
  setMetadata := Graph.each_setMetadata

end Lasting

theorem Pass.admits_each [Graph.Steady Alters New] : Admits New (Graph.EachTarget Alters New) where
  toAllows := allows_each
  add := Declare.each_add
  addToGroup := Graph.each_addToGroup
  dependsImplicitly := Graph.each_dependsImplicitly

end EachTarget

theorem Pass.admits_spares (r : TargetId) : Admits (fun t => t.isPass = false) (Graph.Spares r) :=
  have each : Admits (fun _ => True) (Graph.EachTarget Graph.SameInputs fun _ => True) := admits_each
  admits_growth.join each (fun _ notPass => ⟨notPass, trivial⟩) fun _ _ growth same => ⟨growth, same.old r⟩

/-- A target that has been added was registered at its new place, and then attached. -/
theorem Declare.add_eq_ok {here : Option Location} {t : Target} {tags : Given} {g g' : Graph} {id : TargetId}
    (h : (add here t tags).run g = (.ok id, g')) : id = ⟨g.nodes.size⟩ ∧
      Graph.ScriptGrowth (({ g with nodes := g.nodes.push t } : Graph).registered ⟨g.nodes.size⟩) g' := by
  obtain ⟨_, made, hmake, h⟩ := run_bind_eq_ok_iff.mp h
  cases hmake
  obtain ⟨_, registered, hregister, h⟩ := run_bind_eq_ok_iff.mp h
  obtain ⟨_, attached, hattach, h⟩ := run_bind_eq_ok_iff.mp h
  cases h
  have hdecides := Graph.register_decides ({ g with nodes := g.nodes.push t } : Graph) ⟨g.nodes.size⟩
  have hgrowth : Graph.ScriptGrowth registered
      ((Graph.attachGiven (.target ⟨g.nodes.size⟩) (Argument.oneText tags) here).run registered).2 :=
    Graph.leads_attachGiven _ _ _ registered
  rw [hattach] at hgrowth
  by_cases free : ({ g with nodes := g.nodes.push t } : Graph).Registrable ⟨g.nodes.size⟩
  · cases (hdecides.accepted free).symm.trans hregister
    exact ⟨rfl, hgrowth⟩
  · obtain ⟨f, hrefused⟩ := hdecides.refused free
    cases congrArg Prod.fst (hrefused.symm.trans hregister)

/-- The target of a declaration does not stand for the pass. -/
theorem Declare.yields_add (here : Option Location) {t : Target} (notPass : t.isPass = false) (tags : Given) :
    Yields (fun _ => True) (add here t tags) fun u g => g.Ordinary u := by
  intro g u g' _ hrun
  obtain ⟨rfl, hgrowth⟩ := add_eq_ok hrun
  refine (Graph.Growth.keeps_of_steps hgrowth).ordinary ⟨by simp [Graph.Made, Graph.registered], ?_⟩
  have hnode : (({ g with nodes := g.nodes.push t } : Graph).registered ⟨g.nodes.size⟩).node ⟨g.nodes.size⟩ = t :=
    Graph.node_push_self g t
  rw [hnode]
  exact notPass

namespace Session

/-- A target stands for the pass, and scripts refer to others only. -/
structure Proper (s : Session) : Prop where
  pass : s.HasPass
  indexed : s.graph.Indexed
  bindings : ∀ entry ∈ s.bindings, s.graph.Ordinary entry.2

theorem Proper.grown {s s' : Session} (h : s.Proper) (hgrowth : Graph.ScriptGrowth s.graph s'.graph)
    (hbindings : s'.bindings = s.bindings) : s'.Proper where
  pass := h.pass.grown hgrowth
  indexed := Graph.indexed_of_steps hgrowth h.indexed
  bindings entry hentry := (Graph.Growth.keeps_of_steps hgrowth).ordinary (h.bindings entry (hbindings ▸ hentry))

theorem Proper.of_graph {s s' : Session} (h : s.Proper) (hgraph : s'.graph = s.graph)
    (hbindings : s'.bindings = s.bindings) : s'.Proper :=
  h.grown (hgraph ▸ .refl) hbindings

theorem proper_start (setup : Setup) (files : FileTree) : (start setup files).Proper where
  pass := hasPass_start setup files
  indexed := by
    have hindexed : (graphWithTarget setup).Indexed := by
      have hmake : Graph.Growth (fun _ => True) (fun _ => True) (Graph.start (some setup.build.toString)) _ :=
        .make (Graph.start (some setup.build.toString)) (t := passTarget setup) trivial
      exact hmake.indexed (Graph.indexed_start _)
    rw [graph_start, startGraph_eq setup]
    generalize graphWithTarget setup = g at hindexed ⊢
    exact ⟨hindexed.named, hindexed.tags⟩
  bindings := fun _ h => absurd h List.not_mem_nil

theorem Proper.ne_of_ordinary {s : Session} (h : s.Proper) {r t : TargetId} (hpass : s.graph.pass = some r)
    (ordinary : s.graph.Ordinary t) : r ≠ t := by
  rintro rfl
  obtain ⟨r', hpass', isPass⟩ := h.pass.isPass
  cases hpass.symm.trans hpass'
  cases ordinary.2.symm.trans isPass

end Session

namespace Pass
open Session

/-- Scripts refer only to targets of which something holds, and growth does not change that. -/
structure Refers (P : Session → Prop) (Q : Graph → TargetId → Prop) : Prop where
  grown {g g' : Graph} {t : TargetId} (h : Q g t) (growth : Graph.ScriptGrowth g g') : Q g' t
  bound {s : Session} {name : String} {t : TargetId} (hs : P s) (h : s.bindings.get? name = some t) : Q s.graph t
  found {s : Session} {value : Given} {t : TargetId} (hs : P s) (h : s.graph.findGiven value = .ok t) : Q s.graph t
  tagged {s : Session} {name : String} {here : Option Location} {t : TargetId} {g' : Graph} (hs : P s)
    (h : (Graph.tag name here).run s.graph = (.ok t, g')) : Q g' t

/-- A call gives no target but one of which something holds. -/
def Gives (Q : Graph → TargetId → Prop) (outcome : Outcome) (s : Session) : Prop :=
  ∀ t state, outcome = .target t state → Q s.graph t

theorem onGraph_eq_ok {α : Type} {change : Change α} {a : α} {s s' : Session}
    (h : (onGraph change).run s = (.ok a, s')) : change.run s.graph = (.ok a, s'.graph) := by
  have houtcome : (change.run s.graph).1 = .ok a := congrArg Prod.fst h
  have hgraph : (change.run s.graph).2 = s'.graph := congrArg (fun run => run.2.graph) h
  exact Prod.ext houtcome hgraph

theorem still_bound (signature : Signature) (args : Arguments TargetId) (s : Session) :
    ((bound signature args).run s).2 = s := by
  unfold bound
  split <;> rfl

/-- What a declaration that goes through has done: its target has been added. -/
theorem declare_eq_ok {kind : Declare.Kind} {here : Option Location} {args : Arguments TargetId} {s s' : Session}
    {id : TargetId} (h : (declare kind here args).run s = (.ok id, s')) : ∃ b t, kind.signature.bind? args = some b ∧
      kind.target s here b = .ok t ∧ (Declare.add here t (b.getMany "tags")).run s.graph = (.ok id, s'.graph) := by
  unfold declare at h
  split at h
  · cases congrArg Prod.fst h
  next b hbind =>
    obtain ⟨_, _, hget, h⟩ := run_bind_eq_ok_iff.mp h
    cases hget
    obtain ⟨t, _, hlift, h⟩ := run_bind_eq_ok_iff.mp h
    rw [run_lift] at hlift
    obtain rfl : s = _ := congrArg Prod.snd hlift
    exact ⟨b, t, hbind, congrArg Prod.fst hlift, onGraph_eq_ok h⟩

section Refers
variable {P : Session → Prop} {Q : Graph → TargetId → Prop}

theorem yields_shown {t : TargetId} : Yields (fun s => Q s.graph t) (shown t) (Gives Q) := by
  intro s outcome s' hs hrun
  cases hrun
  intro u state he
  cases he
  exact hs

theorem yields_subject (refers : Refers P Q) (on : Option String) :
    Yields P (subject on) fun t s => P s ∧ Q s.graph t := by
  cases on with
  | none => exact yields_throw _
  | some name =>
    intro s t s' hs hrun
    simp only [subject, run_bind, run_get, andThen_ok] at hrun
    cases hget : s.bindings.get? name with
    | none =>
      rw [hget] at hrun
      cases congrArg Prod.fst hrun
    | some u =>
      rw [hget] at hrun
      cases hrun
      exact ⟨hs, refers.bound hs hget⟩

/-- What grows the graph keeps what holds of a target. -/
theorem yields_grown (refers : Refers P Q) {α : Type} {c : Pass α} {t : TargetId}
    (h : Leads (Deeds Graph.ScriptGrowth) c) : Yields (fun s => P s ∧ Q s.graph t) c fun _ s => Q s.graph t := by
  intro s a s' hs hrun
  have hgrowth := h s
  rw [hrun] at hgrowth
  exact refers.grown hs.2 hgrowth.moves.graph

theorem yields_addItems (refers : Refers P Q) {t : TargetId} {change : TargetId → List Given → Change Unit}
    (args : Arguments TargetId) (h : ∀ values, Leads Graph.ScriptGrowth (change t values)) :
    Yields (fun s => P s ∧ Q s.graph t) (addItems t change args) (Gives Q) := by
  have hadd : Yields (fun s => P s ∧ Q s.graph t)
      (do onGraph (change t args.positional); shown t : Pass Outcome) (Gives Q) :=
    yields_bind (yields_grown refers (leads_onGraph (h args.positional))) fun _ => yields_shown
  unfold addItems
  split
  · exact yields_bind (yields_throw _) fun _ => hadd
  · exact hadd

/-- What a call gives if it is no target. -/
theorem yields_other {outcome : Outcome} (h : ∀ t state, outcome ≠ .target t state) :
    Yields P (pure outcome : Pass Outcome) (Gives Q) :=
  yields_pure fun _ _ t state he => absurd he (h t state)

/-- Whatever a statement asks for, what it is given is something that scripts refer to, if declarations give such. -/
theorem yields_perform_of (refers : Refers P Q) {here : Option Location} (verb : Verb) (on : Option String)
    {args : Arguments TargetId} (hdeclare : ∀ kind, Yields P (declare kind here args) fun t s => Q s.graph t) :
    Yields P (perform here verb on args) (Gives Q) := by
  cases verb with
  | command | copy | compile | link | group => exact yields_bind (hdeclare _) fun t => yields_shown
  | find =>
    refine yields_bind_of_still (still_bound _ args) fun b => yields_bind ?_ fun t => yields_shown
    intro s t s' hs hrun
    obtain ⟨_, _, hget, hrun⟩ := run_bind_eq_ok_iff.mp hrun
    cases hget
    rw [run_lift] at hrun
    obtain rfl : s = s' := congrArg Prod.snd hrun
    exact refers.found hs (congrArg Prod.fst hrun)
  | tag =>
    refine yields_bind_of_still (still_bound _ args) fun b => yields_bind ?_ fun t => yields_shown
    refine yields_bind_of_still (fun s => by rw [run_lift]) fun name s t s' hs hrun => ?_
    exact refers.tagged hs (onGraph_eq_ok hrun)
  | pool | markGenerated | reconfigureOn | extendConfig | getConfig =>
    exact yields_bind yields_trivial fun _ => yields_bind yields_trivial fun _ => yields_other (by simp)
  | src | out =>
    exact yields_bind yields_trivial fun _ => yields_bind yields_trivial fun _ =>
      yields_bind yields_trivial fun _ => yields_other (by simp [told])
  | sourceDir | buildDir | config | scope | describe =>
    exact yields_bind yields_trivial fun _ => yields_other (by simp [told])
  | add =>
    exact yields_bind (yields_subject refers on) fun t => yields_addItems refers args (Graph.leads_addToGroup t)
  | depends => exact yields_bind (yields_subject refers on) fun t => yields_addItems refers args (Graph.leads_depends t)
  | dependsImplicitly =>
    exact yields_bind (yields_subject refers on) fun t => yields_addItems refers args (Graph.leads_dependsImplicitly t)
  | setMetadata =>
    exact yields_bind (yields_subject refers on) fun t =>
      yields_bind (yields_grown refers (leads_setMetadata admits_growth.toAllows t args)) fun _ => yields_shown
  | unknown => exact yields_throw _

end Refers

theorem refers_ordinary : Refers Proper Graph.Ordinary where
  grown h growth := (Graph.Growth.keeps_of_steps growth).ordinary h
  bound hs h := hs.bindings _ (Table.mem_of_get? h)
  found hs h := hs.indexed.of_findGiven h
  tagged hs h := hs.indexed.of_tag h

/-- Whatever a statement asks for, a target that it is given is not the one for the pass. -/
theorem yields_perform (here : Option Location) (verb : Verb) (on : Option String) (args : Arguments TargetId) :
    Yields Proper (perform here verb on args) (Gives Graph.Ordinary) := by
  refine yields_perform_of refers_ordinary verb on fun kind s id s' _ hrun => ?_
  obtain ⟨b, t, _, htarget, hadd⟩ := declare_eq_ok hrun
  exact Declare.yields_add here (Declare.Kind.isPass_of_target htarget) _ s.graph id s'.graph trivial hadd

/-- Unless it says so, nothing that a statement asks for changes the explicit inputs of the target for the pass. -/
theorem spares_perform {r : TargetId} {s : Session} (hproper : s.Proper) (hpass : s.graph.pass = some r)
    (here : Option Location) {verb : Verb} (hverb : verb ≠ .reconfigureOn) (on : Option String)
    (args : Arguments TargetId) : Deeds (Graph.Spares r) s ((perform here verb on args).run s).2 := by
  -- The only other verb that adds explicit inputs adds them to a target that is bound, which is not that for the pass.
  by_cases hdepends : verb = .depends
  · have hstill : Leads Eq (subject on) := leads_subject on
    have hsame : s = ((subject on).run s).2 := hstill s
    subst hdepends
    simp only [perform, run_bind]
    rcases hrun : (subject on).run s with ⟨outcome, s'⟩
    rw [hrun] at hsame
    subst hsame
    cases outcome with
    | error f => exact .refl
    | ok t =>
      have hother : r ≠ t := hproper.ne_of_ordinary hpass (yields_subject refers_ordinary on s t s hproper hrun).2
      exact leads_addItems t (Graph.spares_depends hother args.positional) s
  · exact leads_perform (admits_spares r) verb on (fitting_notPass here args) (fun h => absurd h hdepends)
      (fun h => absurd h hverb) s

/-- A call does what it asks for and then binds a name to what that gave, or its arguments do not stand for anything. -/
theorem run_callStatement_cases (here : Location) (verb : Verb) (args : Arguments String) (on bindTo : Option String)
    (s : Session) :
    (∃ f, (callStatement here verb args on bindTo).run s = (.error f, s)) ∨
      ∃ resolved, args.resolve s.boundTarget = .ok resolved ∧ (callStatement here verb args on bindTo).run s =
        andThen (fun outcome => do
          bindOutcome bindTo outcome
          return outcome) ((perform (some here) verb on resolved).run s) := by
  have hresolve : (resolveArguments args).run s = (args.resolve s.boundTarget, s) := by
    simp only [resolveArguments, run_bind, run_get, andThen_ok, run_lift]
  rw [callStatement, run_bind, hresolve]
  cases args.resolve s.boundTarget with
  | error f => exact .inl ⟨f, rfl⟩
  | ok resolved => exact .inr ⟨resolved, rfl, by rw [andThen_ok, run_bind]⟩

theorem run_bindOutcome (name : Option String) (outcome : Outcome) (s : Session) :
    ∃ bindings, (bindOutcome name outcome).run s = (.ok (), { s with bindings := bindings }) ∧
      ∀ entry ∈ bindings, entry ∈ s.bindings ∨ ∃ state, outcome = .target entry.2 state := by
  unfold bindOutcome
  split
  next t state =>
    refine ⟨_, rfl, fun entry hentry => ?_⟩
    rcases Table.mem_of_mem_insert hentry with rfl | hold
    · exact .inr ⟨state, rfl⟩
    · exact .inl hold
  · exact ⟨s.bindings, rfl, fun entry => .inl⟩

/-- What a statement asks for is all that becomes of the graph. -/
theorem graph_callStatement {Changes : Graph → Graph → Prop} [IsPreorder Graph Changes] {here : Location} {verb : Verb}
    {args : Arguments String} {s : Session} (on bindTo : Option String)
    (h : ∀ resolved, args.resolve s.boundTarget = .ok resolved →
      Changes s.graph ((perform (some here) verb on resolved).run s).2.graph) :
    Changes s.graph ((callStatement here verb args on bindTo).run s).2.graph := by
  rcases run_callStatement_cases here verb args on bindTo s with ⟨f, hrun⟩ | ⟨resolved, hresolved, hrun⟩
  · rw [hrun]
    exact refl_of Changes s.graph
  · have hdone := h resolved hresolved
    rw [hrun]
    generalize (perform (some here) verb on resolved).run s = done at hdone ⊢
    obtain ⟨outcome, s₁⟩ := done
    cases outcome with
    | error f => exact hdone
    | ok outcome =>
      obtain ⟨bindings, hbound, _⟩ := run_bindOutcome bindTo outcome s₁
      rw [andThen_ok, run_bind, hbound]
      exact hdone

/-- A call does its deeds, and then at most names are bound, to what it gives. -/
theorem callStatement_cases {Changes : Graph → Graph → Prop} {P : Session → Prop} {Q : Graph → TargetId → Prop}
    {here : Location} {verb : Verb} {args : Arguments String} {s : Session} (hs : P s) (on bindTo : Option String)
    (hperform : ∀ resolved, args.resolve s.boundTarget = .ok resolved →
      Deeds Changes s ((perform (some here) verb on resolved).run s).2)
    (hgives : ∀ resolved, args.resolve s.boundTarget = .ok resolved →
      Yields P (perform (some here) verb on resolved) (Gives Q)) :
    ∃ s₁ bindings, Deeds Changes s s₁ ∧
      ((callStatement here verb args on bindTo).run s).2 = { s₁ with bindings := bindings } ∧
      ∀ entry ∈ bindings, entry ∈ s.bindings ∨ Q s₁.graph entry.2 := by
  rcases run_callStatement_cases here verb args on bindTo s with ⟨f, hrun⟩ | ⟨resolved, hresolved, hrun⟩
  · exact ⟨s, s.bindings, .refl, by rw [hrun], fun _ => .inl⟩
  · have hdone := hperform resolved hresolved
    have hgiven := hgives resolved hresolved s
    rw [hrun]
    generalize (perform (some here) verb on resolved).run s = done at hdone hgiven ⊢
    obtain ⟨outcome, s₁⟩ := done
    cases outcome with
    | error f => exact ⟨s₁, s₁.bindings, hdone, rfl, fun entry hentry => .inl (hdone.bindings ▸ hentry)⟩
    | ok outcome =>
      obtain ⟨bindings, hbound, hnew⟩ := run_bindOutcome bindTo outcome s₁
      refine ⟨s₁, bindings, hdone, ?_, fun entry hentry => ?_⟩
      · rw [andThen_ok, run_bind, hbound]
        rfl
      · rcases hnew entry hentry with hold | ⟨state, houtcome⟩
        · exact .inl (hdone.bindings ▸ hold)
        · exact .inr (hgiven outcome s₁ hs rfl entry.2 state houtcome)

/-- A call does its deeds, and then at most names are bound, to targets that are not the one for the pass. -/
theorem callStatement_deeds {Changes : Graph → Graph → Prop} (hgrowth : ∀ g g', Changes g g' → Graph.ScriptGrowth g g')
    {here : Location} {verb : Verb} {on : Option String} {s : Session} (hproper : s.Proper)
    (hperform : ∀ resolved, Deeds Changes s ((perform (some here) verb on resolved).run s).2)
    (args : Arguments String) (bindTo : Option String) :
    ∃ s₁ bindings, Deeds Changes s s₁ ∧ ((callStatement here verb args on bindTo).run s).2 =
      { s₁ with bindings := bindings } ∧ ({ s₁ with bindings := bindings } : Session).Proper := by
  obtain ⟨s₁, bindings, hdone, hrun, hnew⟩ := callStatement_cases hproper on bindTo
    (fun resolved _ => hperform resolved) fun resolved _ => yields_perform (some here) verb on resolved
  have hscript : Deeds Graph.ScriptGrowth s s₁ := hdone.mono hgrowth
  have hgraph := hscript.moves.graph
  have hproper₁ := hproper.grown hgraph hscript.bindings
  refine ⟨s₁, bindings, hdone, hrun, hproper₁.pass, hproper₁.indexed, fun entry hentry => ?_⟩
  rcases hnew entry hentry with hold | hgiven
  · exact (Graph.Growth.keeps_of_steps hgraph).ordinary (hproper.bindings entry hold)
  · exact hgiven

end Pass
end BuildTree
