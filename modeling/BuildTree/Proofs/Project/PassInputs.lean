import BuildTree.Proofs.Graph.Partition
import BuildTree.Proofs.Project.Names

/-!
# What a pass depends on

The target for the pass depends on every script that is read and on every path that a script makes it depend on, each
once and in order of first occurrence, and on nothing else. Every file that a script says the pass writes is among its
outputs.
-/

namespace BuildTree
open Effect Relation

namespace Visit

/-- The path that a statement makes the pass depend on. -/
def input? (v : Visit) : Option String :=
  match v.statement, v.outcome with
  | .call _ .reconfigureOn args _ _, .ok _ =>
    (v.before.argument? "path" args).bind fun value => (Declare.src v.before value).toOption
  | _, _ => none

/-- The file that a statement says the pass writes. -/
def marked? (v : Visit) : Option String :=
  match v.statement, v.outcome with
  | .call _ .markGenerated args _ _, .ok _ =>
    (v.before.argument? "path" args).bind fun value => (Declare.out v.before value).toOption
  | _, _ => none

theorem input?_of_not_call {v : Visit} (h : ∀ line verb args on bindTo, v.statement ≠ .call line verb args on bindTo) :
    v.input? = none := by
  unfold input?
  split
  next hstatement _ => exact absurd hstatement (h _ _ _ _ _)
  · rfl

theorem marked?_of_not_call {v : Visit} (h : ∀ line verb args on bindTo, v.statement ≠ .call line verb args on bindTo) :
    v.marked? = none := by
  unfold marked?
  split
  next hstatement _ => exact absurd hstatement (h _ _ _ _ _)
  · rfl

end Visit

/-- What an event makes the pass depend on: a script on itself, a statement on the path that it names. -/
def Event.input? : Event → Option String
  | .began script => some script.toString
  | .ended v => v.input?

/-- The paths that the pass is made to depend on, one after the other. -/
def inputsOf (es : List Event) : List String :=
  es.filterMap Event.input?

@[simp] theorem inputsOf_append (es es' : List Event) : inputsOf (es ++ es') = inputsOf es ++ inputsOf es' :=
  List.filterMap_append

@[simp] theorem inputsOf_within (es : List Event) (e : Enclosure) :
    inputsOf (es.map (Event.within e)) = inputsOf es := by
  rw [inputsOf, inputsOf, List.filterMap_map]
  congr 1
  funext event
  cases event <;> rfl

theorem inputsOf_ended (v : Visit) : inputsOf [.ended v] = v.input?.toList := by
  rw [inputsOf, List.filterMap_cons, List.filterMap_nil, Event.input?]
  cases v.input? <;> rfl

/-- A path behind those that are there, unless it is one of them. -/
def addOnce (deps : List Dependency) (path : String) : List Dependency :=
  if deps.contains (.path path) then deps else deps ++ [.path path]

theorem mem_addOnce_iff (deps : List Dependency) (path : String) (dep : Dependency) :
    dep ∈ addOnce deps path ↔ dep ∈ deps ∨ dep = .path path := by
  unfold addOnce
  split
  next h =>
    have hmem : Dependency.path path ∈ deps := by simpa using h
    exact ⟨.inl, fun h => h.elim id fun he => he ▸ hmem⟩
  · simp

theorem mem_foldl_addOnce_iff (paths : List String) (deps : List Dependency) (dep : Dependency) :
    dep ∈ paths.foldl addOnce deps ↔ dep ∈ deps ∨ ∃ path ∈ paths, dep = .path path := by
  induction paths generalizing deps with
  | nil => simp
  | cons path rest ih =>
    rw [List.foldl_cons, ih, mem_addOnce_iff]
    simp [or_assoc]

theorem foldl_addOnce (paths : List String) :
    paths.foldl addOnce [] = paths.eraseDups.map Dependency.path := by
  refine Graph.foldl_once_nil (fun seen path => ?_) paths
  have hmem : (seen.map Dependency.path).contains (.path path) = true ↔ path ∈ seen := by simp
  by_cases h : path ∈ seen
  · rw [addOnce, if_pos (hmem.mpr h), if_pos h]
  · rw [addOnce, if_neg (fun hs => h (hmem.mp hs)), if_neg h, List.map_append]
    rfl

namespace Graph

def passInputs (g : Graph) : List Dependency :=
  match g.pass with
  | some r => (g.node r).inputs
  | none => []

/-- The files that the pass says it writes. -/
def passOutputs (g : Graph) : List String :=
  match g.pass with
  | some r => (g.node r).outputs
  | none => []

variable {g g' : Graph} {r : TargetId}

theorem passInputs_eq (h : g.pass = some r) : g.passInputs = (g.node r).inputs := by
  rw [passInputs, h]

theorem passOutputs_eq (h : g.pass = some r) : g.passOutputs = (g.node r).outputs := by
  rw [passOutputs, h]

theorem addInputPath_inputs (path : String) (t : Target) : (t.addInputPath path).inputs = addOnce t.inputs path := by
  unfold Target.addInputPath addOnce
  split <;> rfl

theorem ScriptGrowth.outputs (h : ScriptGrowth g g') {t : TargetId} (made : g.Made t) {o : String}
    (ho : o ∈ (g.node t).outputs) : o ∈ (g'.node t).outputs := by
  induction h with
  | refl => exact ho
  | tail prior step ih =>
    have made' := (Growth.keeps_of_steps prior).made t made
    cases step with
    | make fit => exact (still_push _ _).products t made' |>.outputs ▸ ih
    | edit u same => exact (still_modifyNode _ u same).products t made' |>.outputs ▸ ih
    | enterTag location fresh => exact (still_withTag _ _ location).products t made' |>.outputs ▸ ih
    | enterPool admitted => exact ih
    | register made free asked => exact ih
    | @generate r path free =>
      by_cases htr : t = r
      · subst htr
        show o ∈ ((Graph.modifyNode _ t (Target.addOutput path)).node t).outputs
        rw [node_modifyNode_self _ _ made', mem_outputs_addOutput_iff]
        exact .inl ih
      · show o ∈ ((Graph.modifyNode _ r (Target.addOutput path)).node t).outputs
        rw [node_modifyNode_of_ne _ _ htr]
        exact ih

end Graph

namespace Pass
open Session

/-- A call that does something with its only path and gives nothing. -/
theorem run_pathCall_cases {here : Location} {verb : Verb} (act : Given → Pass Unit) {on : Option String}
    (hverb : ∀ args, perform (some here) verb on args = do
      let b ← bound (.places ["path"]) args
      act (b.get "path")
      return .nothing) (args : Arguments String) (bindTo : Option String) (s : Session) :
    (∃ value, s.argument? "path" args = some value ∧ (callStatement here verb args on bindTo).run s =
        andThen (fun _ => pure .nothing) ((act value).run s)) ∨
      (∃ f, (callStatement here verb args on bindTo).run s = (.error f, s)) := by
  have hcall : callStatement here verb args on bindTo = do
      let b ← bound (.places ["path"]) (← resolveArguments args)
      act (b.get "path")
      return Outcome.nothing := by
    simp [callStatement, hverb, bindOutcome]
  rcases run_argument_cases hcall s with ⟨b, hvalue, hrun⟩ | ⟨_, f, hrun⟩
  · exact .inl ⟨b.get "path", hvalue, by rw [hrun, run_bind]⟩
  · exact .inr ⟨f, hrun⟩

theorem perform_reconfigureOn (here : Option Location) (on : Option String) (args : Arguments TargetId) :
    perform here .reconfigureOn on args = do
      let b ← bound (.places ["path"]) args
      reconfigureOn (b.get "path")
      return .nothing := rfl

theorem perform_markGenerated (here : Option Location) (on : Option String) (args : Arguments TargetId) :
    perform here .markGenerated on args = do
      let b ← bound (.places ["path"]) args
      markGenerated (b.get "path") here
      return .nothing := rfl

theorem run_reconfigureOn_cases {s : Session} (hpass : s.HasPass) (value : Given) :
    (∃ r file, s.graph.pass = some r ∧ s.graph.Made r ∧ Declare.src s value = .ok file ∧ (reconfigureOn value).run s =
        (.ok (), { s with graph := s.graph.modifyNode r (Target.addInputPath file) })) ∨
      ∃ f, (reconfigureOn value).run s = (.error f, s) := by
  obtain ⟨r, command, hr, made, haction⟩ := hpass
  simp only [reconfigureOn, run_bind, run_get, andThen_ok, run_lift]
  cases Declare.src s value with
  | error f => exact .inr ⟨f, rfl⟩
  | ok file =>
    rcases run_addPassInput_cases (.text file) s rfl with ⟨r', hr', _, hadd⟩ | ⟨_, hadd⟩
    · cases hr.symm.trans hr'
      exact .inl ⟨r, file, hr, made, rfl, hadd⟩
    · exact .inr ⟨_, hadd⟩

theorem run_markGenerated_cases (value : Given) (here : Option Location) (s : Session) :
    (∃ r file, s.graph.pass = some r ∧ Declare.out s value = .ok file ∧
        (markGenerated value here).run s = (.ok (), s.grown (s.graph.generated r file))) ∨
      ∃ f s', (markGenerated value here).run s = (.error f, s') := by
  simp only [markGenerated, run_bind, run_get, andThen_ok, run_lift]
  cases Declare.out s value with
  | error f => exact .inr ⟨f, s, rfl⟩
  | ok file =>
    have hrun : (onGraph (Graph.addGenerated file here)).run s =
        (((Graph.addGenerated file here).run s.graph).1, s.grown ((Graph.addGenerated file here).run s.graph).2) := rfl
    rw [andThen_ok, hrun]
    rcases Graph.addGenerated_cases s.graph file here with ⟨r, free, hadd⟩ | ⟨_, f, hadd⟩
    · exact .inl ⟨r, file, free.pass_eq, rfl, by rw [hadd]⟩
    · exact .inr ⟨f, _, by rw [hadd]⟩

end Pass

namespace Visit
variable {v : Visit} {line : Nat} {args : Arguments String} {on bindTo : Option String}

theorem input?_eq (h : v.statement = .call line .reconfigureOn args on bindTo) : v.input? =
    match v.outcome with
    | .ok _ => (v.before.argument? "path" args).bind fun value => (Declare.src v.before value).toOption
    | .error _ => none := by
  rw [input?, h]
  cases v.outcome <;> rfl

theorem marked?_eq (h : v.statement = .call line .markGenerated args on bindTo) : v.marked? =
    match v.outcome with
    | .ok _ => (v.before.argument? "path" args).bind fun value => (Declare.out v.before value).toOption
    | .error _ => none := by
  rw [marked?, h]
  cases v.outcome <;> rfl

end Visit

section Calls
variable {frame : ScriptFrame} {line : Nat} {verb : Verb} {args : Arguments String} {on bindTo : Option String}
  {s : Session}

theorem input?_visit_call (hverb : verb ≠ .reconfigureOn) :
    (frame.visit (.call line verb args on bindTo) s false).input? = none := by
  unfold Visit.input?
  split
  next hstatement _ => exact absurd (Statement.call.inj hstatement).2.1 hverb
  · rfl

theorem marked?_visit_call (hverb : verb ≠ .markGenerated) :
    (frame.visit (.call line verb args on bindTo) s false).marked? = none := by
  unfold Visit.marked?
  split
  next hstatement _ => exact absurd (Statement.call.inj hstatement).2.1 hverb
  · rfl

theorem passInputs_of_spares {r : TargetId} {g g' : Graph} (hpass : g.pass = some r) (made : g.Made r)
    (h : Graph.Spares r g g') : g'.passInputs = g.passInputs := by
  have hpass' : g'.pass = some r := (Graph.Growth.keeps_of_steps h.growth).pass.trans hpass
  rw [Graph.passInputs_eq hpass', Graph.passInputs_eq hpass, h.inputs made]

theorem passInputs_modifyNode {r : TargetId} {g : Graph} (hpass : g.pass = some r) (made : g.Made r) (path : String) :
    (g.modifyNode r (Target.addInputPath path)).passInputs = addOnce g.passInputs path := by
  have hpass' : (g.modifyNode r (Target.addInputPath path)).pass = some r := hpass
  rw [Graph.passInputs_eq hpass', Graph.passInputs_eq hpass, Graph.node_modifyNode_self g _ made,
    Graph.addInputPath_inputs]

/-- What a call adds to the inputs of the pass is what its event says. -/
theorem passInputs_call (hproper : s.Proper) :
    ((Pass.callStatement (frame.place line) verb args on bindTo).run s).2.graph.passInputs =
      (frame.visit (.call line verb args on bindTo) s false).input?.toList.foldl addOnce s.graph.passInputs := by
  by_cases hverb : verb = .reconfigureOn
  · subst hverb
    have houtcome := outcome_visit_call frame line .reconfigureOn args on bindTo s
    rw [Visit.input?_eq rfl, houtcome]
    rcases Pass.run_pathCall_cases Pass.reconfigureOn (Pass.perform_reconfigureOn (some (frame.place line)) on) args
      bindTo s with ⟨value, hvalue, hrun⟩ | ⟨f, hrun⟩
    · have hbefore : ((frame.visit (.call line .reconfigureOn args on bindTo) s false).before.argument? "path" args) =
        some value := hvalue
      rcases Pass.run_reconfigureOn_cases hproper.pass value with ⟨r, file, hpass, made, hsrc, hdone⟩ | ⟨f, hfailed⟩
      · have hfile : Declare.src (frame.visit (.call line .reconfigureOn args on bindTo) s false).before value =
          .ok file := hsrc
        rw [hrun, hdone, hbefore, Option.bind_some, hfile]
        exact passInputs_modifyNode hpass made file
      · rw [hrun, hfailed]
        rfl
    · rw [hrun]
      rfl
  · obtain ⟨r, command, hpass, made, haction⟩ := hproper.pass
    obtain ⟨s₁, bindings, hdeeds, hafter, _⟩ := Pass.callStatement_deeds (fun _ _ => Graph.Spares.growth) hproper
      (fun resolved => Pass.spares_perform hproper hpass (some (frame.place line)) hverb on resolved) args bindTo
    rw [input?_visit_call hverb, hafter]
    exact passInputs_of_spares hpass made hdeeds.graph

/-- A call leaves the outputs of the pass there, and adds the one that its event says. -/
theorem passOutputs_call (hproper : s.Proper) :
    (∀ o ∈ s.graph.passOutputs,
      o ∈ ((Pass.callStatement (frame.place line) verb args on bindTo).run s).2.graph.passOutputs) ∧
    ∀ f, (frame.visit (.call line verb args on bindTo) s false).marked? = some f →
      f ∈ ((Pass.callStatement (frame.place line) verb args on bindTo).run s).2.graph.passOutputs := by
  obtain ⟨r, command, hpass, made, haction⟩ := hproper.pass
  obtain ⟨s₁, bindings, hdeeds, hafter, _⟩ := Pass.callStatement_deeds (fun _ _ => id) hproper
    (fun resolved => Pass.leads_perform_growth (some (frame.place line)) verb on resolved s) args bindTo
  have hgrowth : Graph.ScriptGrowth s.graph
      ((Pass.callStatement (frame.place line) verb args on bindTo).run s).2.graph := by
    rw [hafter]
    exact hdeeds.moves.graph
  have hpass' := (Graph.Growth.keeps_of_steps hgrowth).pass.trans hpass
  rw [Graph.passOutputs_eq hpass, Graph.passOutputs_eq hpass']
  refine ⟨fun o => hgrowth.outputs made, fun f hf => ?_⟩
  by_cases hverb : verb = .markGenerated
  · subst hverb
    have houtcome := outcome_visit_call frame line .markGenerated args on bindTo s
    rw [Visit.marked?_eq rfl, houtcome] at hf
    -- Which file it is depends on the session before the call, from which the event tells it too.
    rcases Pass.run_pathCall_cases (fun path => Pass.markGenerated path (some (frame.place line)))
      (Pass.perform_markGenerated (some (frame.place line)) on) args bindTo s with ⟨value, hvalue, hrun⟩ | ⟨f', hrun⟩
    · have hbefore : ((frame.visit (.call line .markGenerated args on bindTo) s false).before.argument? "path" args) =
        some value := hvalue
      rcases Pass.run_markGenerated_cases value (some (frame.place line)) s with
        ⟨r', file, hpass', hout, hdone⟩ | ⟨f', s', hfailed⟩
      · cases hpass.symm.trans hpass'
        have hfile : Declare.out (frame.visit (.call line .markGenerated args on bindTo) s false).before value =
          .ok file := hout
        rw [hrun, hdone, hbefore, Option.bind_some, hfile] at hf
        cases hf
        rw [hrun, hdone]
        show f ∈ ((s.graph.modifyNode r (Target.addOutput f)).node r).outputs
        rw [Graph.node_modifyNode_self _ _ made, Graph.mem_outputs_addOutput_iff]
        exact .inr rfl
      · rw [hrun, hfailed] at hf
        cases hf
    · rw [hrun] at hf
      cases hf
  · rw [marked?_visit_call hverb] at hf
    cases hf

end Calls

/-- What is recorded of the pass in a proper session: its inputs are those before and then those of the events, and its
outputs are those before and those that the events say, and maybe more. -/
structure Accounted (s : Session) (es : List Event) (s' : Session) : Prop where
  proper : s'.Proper
  inputs : s'.graph.passInputs = (inputsOf es).foldl addOnce s.graph.passInputs
  outputs : ∀ o ∈ s.graph.passOutputs, o ∈ s'.graph.passOutputs
  marked : ∀ v ∈ visits es, ∀ f, v.marked? = some f → f ∈ s'.graph.passOutputs

/-- A script that is noted is one more input of the pass. -/
theorem accounted_enterScript {s : Session} {script : Path} {r : TargetId} {log : List LogLine} (hproper : s.Proper)
    (hpass : s.graph.pass = some r) : Accounted s [.began script]
      { s with
        graph := s.graph.modifyNode r (Target.addInputPath script.toString)
        scripts := s.scripts ++ [script]
        log := log } := by
  have hgrowth : Graph.ScriptGrowth s.graph (s.graph.modifyNode r (Target.addInputPath script.toString)) :=
    .single (.edit _ r (Graph.same_addInputPath script.toString))
  obtain ⟨r', _, hpass', made, _⟩ := hproper.pass
  cases hpass.symm.trans hpass'
  refine ⟨hproper.grown hgrowth rfl, passInputs_modifyNode hpass made _, fun o ho => ?_, by simp⟩
  rw [Graph.passOutputs_eq hpass] at ho
  rw [Graph.passOutputs_eq ((Graph.Growth.keeps_of_steps hgrowth).pass.trans hpass)]
  exact hgrowth.outputs made ho

theorem recorded_accounted : Recorded fun s es s' => s.Proper → Accounted s es s' where
  aside := by
    rintro s s' ⟨_, _, _, rfl⟩ hproper
    exact ⟨hproper.of_graph rfl rfl, rfl, fun _ => id, by simp⟩
  trans h h' hproper := by
    have hfirst := h hproper
    have hsecond := h' hfirst.proper
    refine ⟨hsecond.proper, ?_, fun o ho => hsecond.outputs o (hfirst.outputs o ho), fun v hv f hf => ?_⟩
    · rw [hsecond.inputs, hfirst.inputs, inputsOf_append, List.foldl_append]
    · rw [visits_append] at hv
      rcases List.mem_append.mp hv with hv | hv
      · exact hsecond.outputs f (hfirst.marked v hv f hf)
      · exact hsecond.marked v hv f hf
  began := by
    intro s s' script h hproper
    obtain ⟨r, log, hpass, rfl⟩ := Pass.enterScript_eq_ok h
    exact accounted_enterScript hproper hpass
  call frame line verb args on bindTo s hproper := by
    have hafter := after_visit_call frame line verb args on bindTo s
    have hmore := @passOutputs_call frame line verb args on bindTo s hproper
    obtain ⟨_, _, _, hsession, hproper'⟩ := Pass.callStatement_deeds (fun _ _ => id) hproper
      (fun resolved => Pass.leads_perform_growth (some (frame.place line)) verb on resolved s) args bindTo
    have hgraph := congrArg Session.graph hafter
    have hbindings := congrArg Session.bindings hafter
    rw [← hsession] at hproper'
    refine ⟨hproper'.of_graph hgraph hbindings, ?_, ?_, ?_⟩
    · rw [inputsOf_ended, ← passInputs_call hproper]
      exact congrArg Graph.passInputs hgraph
    · intro o ho
      exact congrArg Graph.passOutputs hgraph ▸ hmore.1 o ho
    · rw [visits_ended]
      intro v hv f hf
      cases List.mem_singleton.mp hv
      exact congrArg Graph.passOutputs hgraph ▸ hmore.2 f hf
  close {v s' es} notCall _ after h hproper := by
    have hinside := h hproper
    have hgraph : v.after.graph = s'.graph := after ▸ rfl
    refine ⟨hinside.proper.of_graph hgraph (after ▸ rfl), ?_, ?_, ?_⟩
    · rw [hgraph, hinside.inputs, inputsOf_append, inputsOf_ended, Visit.input?_of_not_call notCall, Option.toList_none,
        List.append_nil]
    · rw [hgraph]
      exact hinside.outputs
    · rw [hgraph, visits_append, visits_ended]
      intro w hw f hf
      rcases List.mem_append.mp hw with hw | hw
      · exact hinside.marked w hw f hf
      · cases List.mem_singleton.mp hw
        rw [Visit.marked?_of_not_call notCall] at hf
        cases hf
  enclosed {e} _ {s s' es} h hproper := by
    have hinside := h (hproper.of_graph rfl rfl)
    refine ⟨hinside.proper.of_graph (s'.leaving_graph e) (s'.leaving_bindings e), ?_, ?_, ?_⟩
    · rw [Session.leaving_graph, inputsOf_within]
      exact hinside.inputs
    · rw [Session.leaving_graph]
      exact hinside.outputs
    · rw [Session.leaving_graph, visits_within]
      intro v hv f hf
      obtain ⟨w, hw, rfl⟩ := List.mem_map.mp hv
      exact hinside.marked w hw f hf

end BuildTree
