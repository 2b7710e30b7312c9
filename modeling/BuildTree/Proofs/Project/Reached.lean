import BuildTree.Proofs.Graph.Tag
import BuildTree.Proofs.Project.Reconfigure

/-!
# What holds of every session

What is said about a session's setup, its graph and the names that are bound in it holds of every session that a pass
can come to, if it holds at the start and survives two things: a script becomes an input of the target for the pass, and
a call is made. Nothing else that a pass does touches them.

It may depend on what has happened. A history tells all of that: if whatever happens in it is allowed, then only what is
allowed has to be survived.
-/

namespace BuildTree
open Effect Relation

namespace Session

/-- A session that a pass can come to, and all that has happened in it by then. What happens later in a pass that is
still running is told, too. -/
inductive History (setup : Setup) (files : FileTree) : Session → List Event → Prop where
  | start : History setup files (start setup files) []
  | before {s : Session} {es : List Event} {v : Visit} (history : History setup files s es)
      (visited : v ∈ visits (configureEvents s)) : History setup files v.before (es ++ configureEvents s)
  | after {s : Session} {es : List Event} {v : Visit} (history : History setup files s es)
      (visited : v ∈ visits (configureEvents s)) : History setup files v.after (es ++ configureEvents s)
  | configured {s : Session} {es : List Event} (history : History setup files s es) :
      History setup files (Pass.configure.run s).2 (es ++ configureEvents s)
  | ran {s : Session} {es : List Event} (depth : Nat) (script : Path) (statement : Statement)
      (history : History setup files s es) :
      History setup files ((runStatement (Pass.frameOf depth script) statement).run s).2
        (es ++ (Pass.frameOf depth script).events statement s
          (insideEvents (Pass.frameOf depth script) (directoryEvents (scriptEvents depth)) statement s))
  | written {s : Session} {es : List Event} (room : Nat) (history : History setup files s es) :
      History setup files ((Pass.write room).run s).2 es

section History
variable {setup : Setup} {files : FileTree} {s : Session} {es : List Event}

theorem History.reached (h : History setup files s es) : Reached setup files s := by
  induction h with
  | start => exact .start
  | before _ visited ih => exact .before ih visited
  | after _ visited ih => exact .after ih visited
  | configured _ ih => exact .configured ih
  | ran depth script statement _ ih => exact .ran depth script statement ih
  | written room _ ih => exact .written room ih

theorem Reached.exists_history (h : Reached setup files s) : ∃ es, History setup files s es := by
  induction h with
  | start => exact ⟨_, .start⟩
  | before _ visited ih =>
    obtain ⟨_, history⟩ := ih
    exact ⟨_, .before history visited⟩
  | after _ visited ih =>
    obtain ⟨_, history⟩ := ih
    exact ⟨_, .after history visited⟩
  | configured _ ih =>
    obtain ⟨_, history⟩ := ih
    exact ⟨_, .configured history⟩
  | ran depth script statement _ ih =>
    obtain ⟨_, history⟩ := ih
    exact ⟨_, .ran depth script statement history⟩
  | written room _ ih =>
    obtain ⟨_, history⟩ := ih
    exact ⟨_, .written room history⟩

end History

/-- Said about the setup, the graph and the bound names alone, and true again after a script has been noted or a call
made, if that is allowed. -/
structure KeptIf (Allowed : Event → Prop) (P : Session → Prop) : Prop where
  inside {event : Event} {e : Enclosure} (allowed : Allowed (event.within e)) : Allowed event
  of_same {s s' : Session} (h : P s) (setup : s'.setup = s.setup) (graph : s'.graph = s.graph)
    (bindings : s'.bindings = s.bindings) : P s'
  noted {s : Session} {r : TargetId} (h : P s) (pass : s.graph.pass = some r) (isPass : (s.graph.node r).isPass = true)
    {script : Path} (allowed : Allowed (.began script)) :
    P { s with graph := s.graph.modifyNode r (Target.addInputPath script.toString) }
  call {s : Session} (h : P s) (frame : ScriptFrame) (line : Nat) (verb : Verb) (args : Arguments String)
    (on bindTo : Option String) (allowed : Allowed (.ended (frame.visit (.call line verb args on bindTo) s false))) :
    P ((Pass.callStatement (frame.place line) verb args on bindTo).run s).2

namespace KeptIf
variable {Allowed : Event → Prop} {P : Session → Prop} {setup : Setup} {files : FileTree} {s : Session}
  {es : List Event}

/-- What is kept is true at every moment of a run in which only what is allowed happens. -/
theorem recorded (kept : KeptIf Allowed P) : Recorded fun s es s' => (∀ event ∈ es, Allowed event) → P s →
    P s' ∧ ∀ v ∈ visits es, P v.before ∧ P v.after where
  aside := by
    rintro s s' ⟨_, _, _, rfl⟩ _ hs
    exact ⟨kept.of_same hs rfl rfl rfl, by simp⟩
  trans h h' allowed hs := by
    rw [List.forall_mem_append] at allowed
    obtain ⟨hmiddle, hfirst⟩ := h allowed.1 hs
    obtain ⟨hlast, hsecond⟩ := h' allowed.2 hmiddle
    rw [visits_append, List.forall_mem_append]
    exact ⟨hlast, hfirst, hsecond⟩
  began {s s' script} h allowed hs := by
    rcases Pass.run_enterScript_cases script s with ⟨r, log, hr, hpass, hrun⟩ | ⟨_, hrun⟩
    · cases h.symm.trans hrun
      exact ⟨kept.of_same (kept.noted hs hr hpass (allowed _ List.mem_cons_self)) rfl rfl rfl, by simp⟩
    · cases h.symm.trans hrun
  call frame line verb args on bindTo s allowed hs := by
    have hdone := kept.call hs frame line verb args on bindTo (allowed _ List.mem_cons_self)
    have hafter := after_visit_call frame line verb args on bindTo s
    have hsetup := congrArg Session.setup hafter
    have hgraph := congrArg Session.graph hafter
    have hbindings := congrArg Session.bindings hafter
    have hend : P (frame.visit (.call line verb args on bindTo) s false).after :=
      kept.of_same hdone hsetup hgraph hbindings
    refine ⟨hend, fun v hv => ?_⟩
    rw [visits_ended] at hv
    cases List.mem_singleton.mp hv
    exact ⟨hs, hend⟩
  close {v s' es} _ _ after h allowed hs := by
    rw [List.forall_mem_append] at allowed
    obtain ⟨hinside, hvisits⟩ := h allowed.1 hs
    have hend : P v.after := kept.of_same hinside (after ▸ rfl) (after ▸ rfl) (after ▸ rfl)
    rw [visits_append, List.forall_mem_append]
    refine ⟨hend, hvisits, fun w hw => ?_⟩
    rw [visits_ended] at hw
    cases List.mem_singleton.mp hw
    exact ⟨hs, hend⟩
  enclosed {e} _ {s s' es} h allowed hs := by
    have hinside := h (fun event hevent => kept.inside (allowed _ (List.mem_map_of_mem hevent)))
      (kept.of_same hs rfl rfl rfl)
    refine ⟨kept.of_same hinside.1 (s'.leaving_setup e) (s'.leaving_graph e) (s'.leaving_bindings e), fun v hv => ?_⟩
    rw [visits_within] at hv
    obtain ⟨w, hw, rfl⟩ := List.mem_map.mp hv
    -- Only what the statement stands in has changed, and not its sessions.
    exact hinside.2 w hw

/-- What is kept is true of whatever a pass comes to in a history in which only what is allowed happens, and it was true
at every moment of it. -/
theorem of_history (kept : KeptIf Allowed P) (start : P (start setup files)) (h : History setup files s es)
    (allowed : ∀ event ∈ es, Allowed event) : P s ∧ ∀ v ∈ visits es, P v.before ∧ P v.after := by
  have further : ∀ {s : Session} {es es' : List Event}, (P s ∧ ∀ v ∈ visits es, P v.before ∧ P v.after) →
      (∀ v ∈ visits es', P v.before ∧ P v.after) → ∀ v ∈ visits (es ++ es'), P v.before ∧ P v.after :=
    fun hfirst hsecond => by
      rw [visits_append, List.forall_mem_append]
      exact ⟨hfirst.2, hsecond⟩
  induction h with
  | start => exact ⟨start, by simp⟩
  | @before s es v _ visited ih =>
    rw [List.forall_mem_append] at allowed
    have hpass := (kept.recorded.of_configure s allowed.2 (ih allowed.1).1).2
    exact ⟨(hpass v visited).1, further (ih allowed.1) hpass⟩
  | @after s es v _ visited ih =>
    rw [List.forall_mem_append] at allowed
    have hpass := (kept.recorded.of_configure s allowed.2 (ih allowed.1).1).2
    exact ⟨(hpass v visited).2, further (ih allowed.1) hpass⟩
  | @configured s es _ ih =>
    rw [List.forall_mem_append] at allowed
    have hpass := kept.recorded.of_configure s allowed.2 (ih allowed.1).1
    exact ⟨hpass.1, further (ih allowed.1) hpass.2⟩
  | @ran s es depth script statement _ ih =>
    rw [List.forall_mem_append] at allowed
    have hrun := kept.recorded.of_statement (kept.recorded.of_directory (kept.recorded.of_script depth)) statement s
      allowed.2 (ih allowed.1).1
    exact ⟨hrun.1, further (ih allowed.1) hrun.2⟩
  | @written s es room _ ih =>
    obtain ⟨hs, hvisits⟩ := ih allowed
    refine ⟨?_, hvisits⟩
    rcases Pass.run_write_cases room s with
      ⟨out, _, _, ⟨missing, directories, log, rfl⟩, hrun⟩ | ⟨e, _, _, ⟨missing, directories, log, rfl⟩, hrun⟩
    all_goals
      rw [hrun]
      exact kept.of_same hs rfl rfl rfl

end KeptIf

/-- Said about the graph and the bound names alone, and true again after a script has been noted or a call made. -/
structure Kept (P : Session → Prop) : Prop where
  of_graph {s s' : Session} (h : P s) (graph : s'.graph = s.graph) (bindings : s'.bindings = s.bindings) : P s'
  noted {s : Session} {r : TargetId} (h : P s) (pass : s.graph.pass = some r) (script : String) :
    P { s with graph := s.graph.modifyNode r (Target.addInputPath script) }
  call {s : Session} (h : P s) (here : Location) (verb : Verb) (args : Arguments String) (on bindTo : Option String) :
    P ((Pass.callStatement here verb args on bindTo).run s).2

namespace Kept
variable {P : Session → Prop} {setup : Setup} {files : FileTree} {s : Session}

theorem keptIf (kept : Kept P) : KeptIf (fun _ => True) P where
  inside _ := trivial
  of_same h _ graph bindings := kept.of_graph h graph bindings
  noted h pass _ script _ := kept.noted h pass script.toString
  call h frame line verb args on bindTo _ := kept.call h (frame.place line) verb args on bindTo

/-- What is kept holds of whatever a pass comes to. -/
theorem of_reached (kept : Kept P) (start : P (start setup files)) (h : Reached setup files s) : P s := by
  obtain ⟨es, history⟩ := h.exists_history
  exact (kept.keptIf.of_history start history fun _ _ => trivial).1

end Kept

/-- The start of a pass is growth of a blank graph, but for the target that is installed. -/
theorem growth_graphWithTarget (setup : Setup) :
    ReflTransGen (Graph.Growth (fun _ => True) fun _ => False) (Graph.blank (some setup.build.toString))
      (graphWithTarget setup) :=
  (Graph.growth_tag _ Graph.defaultTag none).tail (.make _ trivial)

/-- What holds of blank graphs, survives growth and does not look at which target is the one for the pass holds of the
graph of every session. -/
theorem graph_of_reached {P : Graph → Prop} (blank : ∀ buildDir, P (Graph.blank buildDir))
    (grown : ∀ {Fit : Target → Prop} {g g' : Graph}, Graph.Growth Fit (fun _ => False) g g' → P g → P g')
    (installed : ∀ {g : Graph} (r : TargetId), P g → P (g.installed r)) {setup : Setup} {files : FileTree} {s : Session}
    (h : Reached setup files s) : P s.graph := by
  have steps : ∀ {Fit : Target → Prop} {g g' : Graph},
      ReflTransGen (Graph.Growth Fit fun _ => False) g g' → P g → P g' := by
    intro Fit g g' hsteps hg
    induction hsteps with
    | refl => exact hg
    | tail _ step ih => exact grown step ih
  have hstart : P (start setup files).graph := by
    rw [graph_start, startGraph_eq setup]
    exact installed _ (steps (growth_graphWithTarget setup) (blank _))
  have kept : Kept fun s => P s.graph :=
    { of_graph := fun hs hgraph _ => hgraph ▸ hs
      noted := fun hs _ script =>
        have hedit : Graph.ScriptGrowth _ _ := .single (.edit _ _ (Graph.same_addInputPath script))
        steps hedit hs
      call := fun {s} hs here verb args on bindTo =>
        steps (Pass.leads_callStatement here verb args on bindTo s).graph hs }
  exact kept.of_reached hstart h

variable {setup : Setup} {files : FileTree} {s : Session}

theorem tagGroups_of_reached (h : Reached setup files s) : s.graph.TagGroups :=
  graph_of_reached Graph.tagGroups_blank (fun step => step.tagGroups) (fun _ groups name t ht =>
    have h := groups name t ht
    ⟨h.ordinary, h.isGroup, h.outputs, h.implicitOutputs, h.partition⟩) h

theorem targetsMade_of_reached (h : Reached setup files s) : s.graph.TargetsMade :=
  graph_of_reached (fun _ _ ht => absurd ht List.not_mem_nil) (fun step => step.targetsMade) (fun _ made => made) h

end Session
end BuildTree
