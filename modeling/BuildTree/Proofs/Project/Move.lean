import BuildTree.Project.Run
import BuildTree.Proofs.Project.Declare

/-!
# What a pass does to its session

Configuring changes the session in a few ways only: the graph grows, something is reported or traced, a script is
read or missed, a name is bound, the configuration is overlaid, a directory is made, a scope is entered or left. `Move`
lists them. Every statement of every script leads from one session to another by moves, and so does the whole pass,
whether it ends well or not.

What a statement about every session needs is then shown for each move alone.
-/

namespace BuildTree
open Effect Relation

/-- What a statement asks for to declare a target. -/
def Declare.Kind.verb : Declare.Kind → Verb
  | .command => .command
  | .copy => .copy
  | .compile => .compile
  | .link => .link
  | .group => .group

namespace Session

/-- The session after its graph has changed; targets that are registered in it for the first time are reported. -/
def grown (s : Session) (g : Graph) : Session :=
  { s with
    graph := g
    log := s.log ++ (g.targets.drop s.graph.targets.length).map fun t => LogLine.registered (g.node t) }

/-- One thing that a call does to a session: its graph changes in a certain way, or its configuration is overlaid. -/
inductive Deed (Changes : Graph → Graph → Prop) : Session → Session → Prop where
  | grow {s : Session} {g : Graph} (changes : Changes s.graph g) : Deed Changes s (s.grown g)
  | overlay {s : Session} {delta config : Given} (laid : Config.overlay s.config delta = .ok config) :
      Deed Changes s { s with config := config }

/-- Any number of deeds. -/
abbrev Deeds (Changes : Graph → Graph → Prop) : Session → Session → Prop :=
  ReflTransGen (Deed Changes)

/-- What neither deeds nor bound names touch. -/
structure Undisturbed (s s' : Session) : Prop where
  setup : s'.setup = s.setup
  files : s'.files = s.files
  scripts : s'.scripts = s.scripts
  missing : s'.missing = s.missing
  scopes : s'.scopes = s.scopes
  directories : s'.directories = s.directories
  written : s'.written = s.written
  trace : s'.trace = s.trace

theorem Undisturbed.refl (s : Session) : Undisturbed s s := ⟨rfl, rfl, rfl, rfl, rfl, rfl, rfl, rfl⟩

theorem Undisturbed.trans {s s' s'' : Session} (h : Undisturbed s s') (h' : Undisturbed s' s'') :
    Undisturbed s s'' where
  setup := h'.setup.trans h.setup
  files := h'.files.trans h.files
  scripts := h'.scripts.trans h.scripts
  missing := h'.missing.trans h.missing
  scopes := h'.scopes.trans h.scopes
  directories := h'.directories.trans h.directories
  written := h'.written.trans h.written
  trace := h'.trace.trans h.trace

instance : IsPreorder Session Undisturbed where
  refl := .refl
  trans _ _ _ := .trans

section Deeds
variable {Changes : Graph → Graph → Prop} {s s' : Session}

theorem Deeds.undisturbed (h : Deeds Changes s s') : Undisturbed s s' := by
  induction h with
  | refl => exact .refl s
  | tail _ step ih => cases step <;> exact ih.trans ⟨rfl, rfl, rfl, rfl, rfl, rfl, rfl, rfl⟩

theorem Deeds.bindings (h : Deeds Changes s s') : s'.bindings = s.bindings := by
  induction h with
  | refl => rfl
  | tail _ step ih => cases step <;> exact ih

theorem Deeds.mono {Changes' : Graph → Graph → Prop} (h : Deeds Changes s s')
    (himp : ∀ g g', Changes g g' → Changes' g g') : Deeds Changes' s s' :=
  ReflTransGen.mono (fun _ _ step => match step with
    | .grow changes => .grow (himp _ _ changes)
    | .overlay laid => .overlay laid) _ _ h

/-- What deeds do to the graph, one after the other. -/
theorem Deeds.graph [IsPreorder Graph Changes] (h : Deeds Changes s s') : Changes s.graph s'.graph := by
  induction h with
  | refl => exact refl_of Changes s.graph
  | tail _ step ih =>
    cases step with
    | grow changes => exact trans_of Changes ih changes
    | overlay laid => exact ih

end Deeds

/-- One thing that configuring does to a session. -/
inductive Move : Session → Session → Prop where
  | grow {s : Session} {g : Graph} (growth : Graph.ScriptGrowth s.graph g) : Move s (s.grown g)
  | report (s : Session) (line : LogLine) : Move s (s.logged line)
  | trace (s : Session) (entry : TraceEntry) : Move s { s with trace := s.trace ++ [entry] }
  | read (s : Session) (script : Path) : Move s { s with scripts := s.scripts ++ [script] }
  | miss (s : Session) (script : Path) : Move s { s with missing := s.missing ++ [script] }
  | bind (s : Session) (name : String) (t : TargetId) : Move s { s with bindings := s.bindings.insert name t }
  | overlay {s : Session} {delta config : Given} (laid : Config.overlay s.config delta = .ok config) :
      Move s { s with config := config }
  | makeDirectory (s : Session) (p : Path) : Move s (s.withDirectory p)
  | enter (s : Session) (scope : Scope) : Move s { s with scopes := s.scopes.push scope }
  | leave (s : Session) : Move s { s with scopes := s.scopes.pop }

/-- Any number of moves. -/
abbrev Moves : Session → Session → Prop :=
  ReflTransGen Move

/-- No move touches what the pass was set up from, the files that it can see, or those that are written. -/
theorem Move.fixed {s s' : Session} (h : Move s s') :
    s'.setup = s.setup ∧ s'.files = s.files ∧ s'.written = s.written := by
  cases h with
  | makeDirectory p =>
    unfold withDirectory
    split <;> exact ⟨rfl, rfl, rfl⟩
  | _ => exact ⟨rfl, rfl, rfl⟩

theorem Move.graph {s s' : Session} (h : Move s s') : Graph.ScriptGrowth s.graph s'.graph := by
  cases h with
  | grow growth => exact growth
  | makeDirectory p =>
    unfold withDirectory
    split <;> exact .refl
  | _ => exact .refl

theorem Moves.fixed {s s' : Session} (h : Moves s s') :
    s'.setup = s.setup ∧ s'.files = s.files ∧ s'.written = s.written := by
  induction h with
  | refl => exact ⟨rfl, rfl, rfl⟩
  | tail _ step ih =>
    obtain ⟨hsetup, hfiles, hwritten⟩ := step.fixed
    exact ⟨hsetup.trans ih.1, hfiles.trans ih.2.1, hwritten.trans ih.2.2⟩

theorem Moves.setup {s s' : Session} (h : Moves s s') : s'.setup = s.setup := h.fixed.1

theorem Moves.files {s s' : Session} (h : Moves s s') : s'.files = s.files := h.fixed.2.1

theorem Moves.graph {s s' : Session} (h : Moves s s') : Graph.ScriptGrowth s.graph s'.graph := by
  induction h with
  | refl => exact .refl
  | tail _ step ih => exact ih.trans step.graph

theorem Deeds.moves {s s' : Session} (h : Deeds Graph.ScriptGrowth s s') : Moves s s' :=
  ReflTransGen.mono (fun _ _ step => match step with
    | .grow growth => .grow growth
    | .overlay laid => .overlay laid) _ _ h

end Session

open Session

namespace Pass

section Still
variable {R : Session → Session → Prop} [IsPreorder Session R]

theorem leads_bound (signature : Signature) (args : Arguments TargetId) : Leads R (bound signature args) := by
  unfold bound
  split
  · exact leads_pure _
  · exact leads_throw _

theorem leads_shown (t : TargetId) : Leads R (shown t) :=
  leads_bind leads_get fun _ => leads_pure _

theorem leads_subject (name : Option String) : Leads R (subject name) := by
  cases name with
  | none => exact leads_throw _
  | some name =>
    refine leads_bind leads_get fun s => ?_
    cases s.bindings.get? name with
    | none => exact leads_throw _
    | some t => exact leads_pure t

theorem leads_find (pattern : Given) : Leads R (find pattern) :=
  leads_bind leads_get fun _ => leads_lift _

theorem leads_getConfig (key default : Given) : Leads R (getConfig key default) := by
  unfold getConfig
  split
  · exact leads_bind leads_get fun _ => leads_pure _
  · exact leads_throw _

theorem leads_resolveArguments (args : Arguments String) : Leads R (resolveArguments args) :=
  leads_bind leads_get fun _ => leads_lift _

theorem leads_projectScope (args : Arguments String) : Leads R (projectScope args) := by
  refine leads_bind (leads_resolveArguments args) fun args => leads_bind (leads_bound _ args) fun b => ?_
  split
  next name _ =>
    refine leads_bind leads_get fun s => ?_
    split
    · exact leads_pure _
    · exact leads_throw _
  · exact leads_throw _

theorem leads_childScope (here : Option Location) (path : Given) : Leads R (childScope here path) := by
  refine leads_bind (leads_lift _) fun p => leads_bind leads_get fun s => ?_
  split
  · exact leads_pure _
  · exact leads_throw _

end Still

theorem leads_report (level : Level) (source text : String) : Leads Moves (report level source text) :=
  leads_modify fun s => .single (.report s _)

theorem leads_makeDirectory (p : Path) : Leads Moves (makeDirectory p) :=
  leads_modify fun s => .single (.makeDirectory s p)

theorem leads_inScope {ε α : Type} (scope : Scope) {action : ExceptT ε (StateM Session) α}
    (h : Leads Moves action) : Leads Moves (inScope scope action) := fun s =>
  .tail (.head (.enter s scope) (h _)) (.leave _)

section Calls
variable {Changes : Graph → Graph → Prop}

theorem leads_onGraph {α : Type} {change : Change α} (h : Leads Changes change) :
    Leads (Deeds Changes) (onGraph change) :=
  fun s => .single (.grow (h s.graph))

theorem leads_extendConfig (delta : Given) : Leads (Deeds Changes) (extendConfig delta) := by
  intro s
  cases h : Config.overlay s.config delta with
  | error fault =>
    simp only [extendConfig, run_bind, run_get, andThen_ok, run_lift, h, andThen_error]
    exact .refl
  | ok config =>
    simp only [extendConfig, run_bind, run_get, andThen_ok, run_lift, h, run_set, run_pure]
    exact .single (.overlay h)

theorem leads_addPassInput (h : ∀ pass path, Leads Changes (Graph.addPassInput pass path)) (path : Given) :
    Leads (Deeds Changes) (addPassInput path) := by
  refine leads_bind leads_get fun s => ?_
  cases s.graph.pass with
  | none => exact leads_throw _
  | some pass => exact leads_onGraph (h pass path)

theorem leads_addItems (t : TargetId) {change : TargetId → List Given → Change Unit} {args : Arguments TargetId}
    (h : Leads Changes (change t args.positional)) : Leads (Deeds Changes) (addItems t change args) := by
  have hadd : Leads (Deeds Changes) (do onGraph (change t args.positional); shown t : Pass Outcome) :=
    leads_bind (leads_onGraph h) fun _ => leads_shown t
  unfold addItems
  split
  · exact leads_bind (leads_throw _) fun _ => hadd
  · exact hadd

/-- A relation between graphs that holds of the changes that calls ask for, but maybe not of those that declare targets
or add to what a target needs. -/
structure Allows (Changes : Graph → Graph → Prop) : Prop where
  tag : ∀ name here, Leads Changes (Graph.tag name here)
  addGenerated : ∀ file here, Leads Changes (Graph.addGenerated file here)
  declareGivenPool : ∀ name depth here, Leads Changes (Graph.declareGivenPool name depth here)
  setMetadata : ∀ t entries, Leads Changes (Graph.setMetadata t entries)

/-- A relation between graphs that holds of the changes that calls ask for, but maybe not of those that add explicit
inputs. What is declared is fit for it. -/
structure Admits (Fit : Target → Prop) (Changes : Graph → Graph → Prop) : Prop extends Allows Changes where
  add : ∀ here {t : Target} tags, Fit t → Leads Changes (Declare.add here t tags)
  addToGroup : ∀ t values, Leads Changes (Graph.addToGroup t values)
  dependsImplicitly : ∀ t values, Leads Changes (Graph.dependsImplicitly t values)

/-- What two relations make together holds of the changes, if each of them does. -/
theorem Admits.join {Fit Fit' Fit'' : Target → Prop} {Changes' Changes'' : Graph → Graph → Prop}
    (h : Admits Fit Changes) (h' : Admits Fit' Changes') (fit : ∀ t, Fit'' t → Fit t ∧ Fit' t)
    (join : ∀ g g', Changes g g' → Changes' g g' → Changes'' g g') : Admits Fit'' Changes'' where
  add here t tags ht g := join _ _ (h.add here tags (fit t ht).1 g) (h'.add here tags (fit t ht).2 g)
  tag name here g := join _ _ (h.tag name here g) (h'.tag name here g)
  addGenerated file here g := join _ _ (h.addGenerated file here g) (h'.addGenerated file here g)
  declareGivenPool name depth here g :=
    join _ _ (h.declareGivenPool name depth here g) (h'.declareGivenPool name depth here g)
  setMetadata t entries g := join _ _ (h.setMetadata t entries g) (h'.setMetadata t entries g)
  addToGroup t values g := join _ _ (h.addToGroup t values g) (h'.addToGroup t values g)
  dependsImplicitly t values g := join _ _ (h.dependsImplicitly t values g) (h'.dependsImplicitly t values g)

/-- Every target that is declared by these arguments is fit. -/
def Fitting (Fit : Target → Prop) (here : Option Location) (args : Arguments TargetId) : Prop :=
  ∀ (kind : Declare.Kind) (s : Session) b t, kind.signature.bind? args = some b → kind.target s here b = .ok t → Fit t

theorem fitting_notPass (here : Option Location) (args : Arguments TargetId) :
    Fitting (fun t => t.isPass = false) here args :=
  fun _ _ _ _ _ h => Declare.Kind.isPass_of_target h

variable {Fit : Target → Prop}

theorem leads_declared (admits : Admits Fit Changes) (kind : Declare.Kind) {here : Option Location}
    {args : Arguments TargetId} (fitting : Fitting Fit here args) :
    Leads (Deeds Changes) (declared kind here args) := by
  refine leads_bind ?_ fun t => leads_shown t
  unfold declare
  split
  · exact leads_throw _
  next b hbind =>
    intro s
    cases h : kind.target s here b with
    | error fault =>
      simp only [run_bind, run_get, andThen_ok, run_lift, h, andThen_error]
      exact .refl
    | ok t =>
      simp only [run_bind, run_get, andThen_ok, run_lift, h]
      exact leads_onGraph (admits.add here _ (fitting kind s b t hbind h)) s

theorem leads_setMetadata (allows : Allows Changes) (t : TargetId) (args : Arguments TargetId) :
    Leads (Deeds Changes) (setMetadata t args) := by
  have hset : ∀ entries, Leads (Deeds Changes) (onGraph (Graph.setMetadata t entries)) := fun entries =>
    leads_onGraph (allows.setMetadata t entries)
  unfold setMetadata
  split
  · exact leads_bind (leads_throw _) fun _ => hset _
  · exact hset _

/-- Whatever a statement asks for is done by deeds, if what it declares or adds to a target is. -/
theorem leads_perform_of (allows : Allows Changes) {here : Option Location} (verb : Verb) (on : Option String)
    {args : Arguments TargetId}
    (hdeclare : ∀ kind : Declare.Kind, verb = kind.verb → Leads (Deeds Changes) (declared kind here args))
    (hadd : verb = .add → ∀ t, Leads Changes (Graph.addToGroup t args.positional))
    (hdepends : verb = .depends → ∀ t, Leads Changes (Graph.depends t args.positional))
    (himplicitly : verb = .dependsImplicitly → ∀ t, Leads Changes (Graph.dependsImplicitly t args.positional))
    (hinput : verb = .reconfigureOn → ∀ pass path, Leads Changes (Graph.addPassInput pass path)) :
    Leads (Deeds Changes) (perform here verb on args) := by
  cases verb with
  | command => exact hdeclare .command rfl
  | copy => exact hdeclare .copy rfl
  | compile => exact hdeclare .compile rfl
  | link => exact hdeclare .link rfl
  | group => exact hdeclare .group rfl
  | find => exact leads_bind (leads_bound _ args) fun _ => leads_bind (leads_find _) fun t => leads_shown t
  | tag =>
    exact leads_bind (leads_bound _ args) fun _ => leads_bind
      (leads_bind (leads_lift _) fun _ => leads_onGraph (allows.tag _ here)) fun t => leads_shown t
  | pool =>
    exact leads_bind (leads_bound _ args) fun _ =>
      leads_bind (leads_onGraph (allows.declareGivenPool _ _ here)) fun _ => leads_pure _
  | markGenerated =>
    exact leads_bind (leads_bound _ args) fun _ => leads_bind (leads_bind leads_get fun _ =>
      leads_bind (leads_lift _) fun file => leads_onGraph (allows.addGenerated file here)) fun _ => leads_pure _
  | reconfigureOn =>
    exact leads_bind (leads_bound _ args) fun _ => leads_bind (leads_bind leads_get fun _ =>
      leads_bind (leads_lift _) fun _ => leads_addPassInput (hinput rfl) _) fun _ => leads_pure _
  | src | out =>
    exact leads_bind (leads_bound _ args) fun _ => leads_bind leads_get fun _ =>
      leads_bind (leads_lift _) fun _ => leads_pure _
  | extendConfig =>
    exact leads_bind (leads_bound _ args) fun _ => leads_bind (leads_extendConfig _) fun _ => leads_pure _
  | getConfig =>
    exact leads_bind (leads_bound _ args) fun _ => leads_bind (leads_getConfig _ _) fun _ => leads_pure _
  | sourceDir | buildDir | config | scope | describe => exact leads_bind leads_get fun _ => leads_pure _
  | add => exact leads_bind (leads_subject on) fun t => leads_addItems t (hadd rfl t)
  | depends => exact leads_bind (leads_subject on) fun t => leads_addItems t (hdepends rfl t)
  | dependsImplicitly => exact leads_bind (leads_subject on) fun t => leads_addItems t (himplicitly rfl t)
  | setMetadata =>
    exact leads_bind (leads_subject on) fun t =>
      leads_bind (leads_setMetadata allows t args) fun _ => leads_shown t
  | unknown => exact leads_throw _

/-- Whatever a statement asks for is done by deeds. Explicit inputs are added for two verbs only. -/
theorem leads_perform (admits : Admits Fit Changes) {here : Option Location} (verb : Verb) (on : Option String)
    {args : Arguments TargetId} (fitting : Fitting Fit here args)
    (hdepends : verb = .depends → ∀ t, Leads Changes (Graph.depends t args.positional))
    (hinput : verb = .reconfigureOn → ∀ pass path, Leads Changes (Graph.addPassInput pass path)) :
    Leads (Deeds Changes) (perform here verb on args) :=
  leads_perform_of admits.toAllows verb on (fun kind _ => leads_declared admits kind fitting)
    (fun _ t => admits.addToGroup t _) hdepends (fun _ t => admits.dependsImplicitly t _) hinput

end Calls

theorem admits_growth : Admits (fun t => t.isPass = false) Graph.ScriptGrowth where
  add _ _ tags notPass := Declare.leads_add notPass tags
  tag := Graph.leads_tag
  addGenerated := Graph.leads_addGenerated
  declareGivenPool := Graph.leads_declareGivenPool
  setMetadata := Graph.leads_setMetadata
  addToGroup := Graph.leads_addToGroup
  dependsImplicitly := Graph.leads_dependsImplicitly

/-- Whatever a statement asks for, the graph grows by it. -/
theorem leads_perform_growth (here : Option Location) (verb : Verb) (on : Option String) (args : Arguments TargetId) :
    Leads (Deeds Graph.ScriptGrowth) (perform here verb on args) :=
  leads_perform admits_growth verb on (fitting_notPass here args) (fun _ t => Graph.leads_depends t _)
    fun _ => Graph.leads_addPassInput

theorem leads_bindOutcome (name : Option String) (outcome : Outcome) : Leads Moves (bindOutcome name outcome) := by
  unfold bindOutcome
  split
  · exact leads_modify fun s => .single (.bind s _ _)
  · exact leads_pure _

theorem leads_callStatement (here : Location) (verb : Verb) (args : Arguments String) (on bindTo : Option String) :
    Leads Moves (callStatement here verb args on bindTo) :=
  leads_bind (leads_resolveArguments args) fun args =>
    leads_bind (Leads.mono (leads_perform_growth (some here) verb on args) fun _ _ => Deeds.moves) fun outcome =>
      leads_bind (leads_bindOutcome bindTo outcome) fun _ => leads_pure outcome

/-- Asking for one thing disturbs nothing but the graph, the configuration and the names. -/
theorem undisturbed_callStatement (here : Location) (verb : Verb) (args : Arguments String)
    (on bindTo : Option String) : Leads Undisturbed (callStatement here verb args on bindTo) := by
  have hbind : ∀ outcome, Leads Undisturbed (bindOutcome bindTo outcome) := fun outcome => by
    unfold bindOutcome
    split
    · exact leads_modify fun s => ⟨rfl, rfl, rfl, rfl, rfl, rfl, rfl, rfl⟩
    · exact leads_pure _
  exact leads_bind (leads_resolveArguments args) fun args =>
    leads_bind (Leads.mono (leads_perform_growth (some here) verb on args) fun _ _ => Deeds.undisturbed) fun outcome =>
      leads_bind (hbind outcome) fun _ => leads_pure outcome

theorem leads_subdirStatement (here : Location) {enter : Option Location → Given → Pass Unit}
    (henter : ∀ here path, Leads Moves (enter here path)) (args : Arguments String) :
    Leads Moves (subdirStatement here enter args) :=
  leads_bind (leads_resolveArguments args) fun args => leads_bind (leads_bound _ args) fun _ =>
    leads_bind (henter _ _) fun _ => leads_pure _

end Pass

namespace Eval

theorem leads_ofPass {α : Type} {action : Pass α} (h : Leads Moves action) : Leads Moves (ofPass action) :=
  leads_adapt _ h

theorem leads_ended (place : Location) {action : Eval Outcome} (h : Leads Moves action) :
    Leads Moves (ended place action) := by
  intro s
  have hrun : Moves s (action.run s).2 := h s
  show Moves s (ended place action s).2
  unfold ended
  split
  next outcome s' heq =>
    rw [heq] at hrun
    exact hrun.tail (.trace s' _)
  next failure s' heq =>
    rw [heq] at hrun
    exact hrun.tail (.trace s' _)

theorem leads_attempted {action : Eval Unit} (h : Leads Moves action) : Leads Moves (attempted action) := by
  intro s
  have hrun : Moves s (action.run s).2 := h s
  show Moves s (attempted action s).2
  unfold attempted
  split
  all_goals
    next heq =>
      rw [heq] at hrun
      exact hrun

end Eval

mutual

theorem leads_runBody {frame : ScriptFrame} (henter : ∀ here path, Leads Moves (frame.enter here path)) :
    ∀ body, Leads Moves (runBody frame body)
  | [] => by
    rw [runBody]
    exact leads_pure ()
  | statement :: rest => by
    rw [runBody]
    exact leads_bind (leads_runStatement henter statement) fun _ => leads_runBody henter rest

/-- A statement leads on by moves if entering a directory does. -/
theorem leads_runStatement {frame : ScriptFrame} (henter : ∀ here path, Leads Moves (frame.enter here path)) :
    ∀ statement, Leads Moves (runStatement frame statement)
  | .call line verb args on bindTo => by
    rw [runStatement]
    exact Eval.leads_ended _ (Eval.leads_ofPass (Pass.leads_callStatement _ verb args on bindTo))
  | .subdir line args => by
    rw [runStatement]
    exact Eval.leads_ended _ (Eval.leads_ofPass (Pass.leads_subdirStatement _ henter args))
  | .project line args body => by
    rw [runStatement]
    exact Eval.leads_ended _ (leads_bind (Eval.leads_ofPass (Pass.leads_projectScope args)) fun scope =>
      leads_bind (Pass.leads_inScope scope (leads_runBody henter body)) fun _ => leads_pure _)
  | .attempt line body => by
    rw [runStatement]
    exact Eval.leads_ended _ (Eval.leads_attempted (leads_runBody henter body))
  | .raise line complaint => by
    rw [runStatement]
    exact Eval.leads_ended _ (leads_throw _)

end

namespace Pass

theorem leads_enterScript (script : Path) : Leads Moves (enterScript script) :=
  leads_bind (Leads.mono (leads_addPassInput Graph.leads_addPassInput _) fun _ _ => Deeds.moves) fun _ =>
    leads_bind (leads_modify fun s => .single (.read s script)) fun _ =>
      leads_bind leads_get fun _ => leads_report _ _ _

theorem leads_enterDirectory {run : Option Location → Path → Pass Unit}
    (hrun : ∀ here script, Leads Moves (run here script)) (here : Option Location) (path : Given) :
    Leads Moves (enterDirectory run here path) :=
  leads_bind (leads_childScope here path) fun scope =>
    leads_inScope scope (leads_bind leads_get fun _ => leads_bind (leads_makeDirectory _) fun _ =>
      leads_bind (leads_lift _) fun _ => hrun here _)

/-- Scripts lead on by moves, however deep they enter directories. -/
theorem leads_runScript (depth : Nat) (here : Option Location) (script : Path) :
    Leads Moves (runScript depth here script) := by
  induction depth generalizing here script with
  | zero => exact leads_throw _
  | succ depth ih =>
    -- a statement enters directories only through the frame, which runs scripts one level down
    refine leads_bind leads_get fun s => ?_
    split
    next body _ =>
      exact leads_bind (leads_enterScript script) fun _ =>
        leads_adapt _ (leads_runBody (fun here path => leads_enterDirectory ih here path) body)
    · exact leads_bind (leads_enterScript script) fun _ => leads_throw _
    · exact leads_throw _
    · exact leads_bind (leads_modify fun s => .single (.miss s script)) fun _ => leads_throw _

theorem leads_runScripts (scripts : List Path) : Leads Moves (runScripts scripts) := by
  induction scripts with
  | nil => exact leads_pure ()
  | cons script rest ih => exact leads_bind (leads_runScript maxDepth none script) fun _ => ih

/-- The whole pass leads on by moves. -/
theorem leads_configure : Leads Moves configure :=
  leads_bind leads_get fun s => leads_bind (leads_makeDirectory _) fun _ =>
    leads_bind (leads_runScripts s.setup.preloads) fun _ =>
      leads_bind (leads_enterDirectory (leads_runScript maxDepth) none _) fun _ =>
        leads_bind leads_get fun _ => leads_report _ _ _

end Pass
end BuildTree
