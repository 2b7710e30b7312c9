import BuildTree.Proofs.Project.Move

/-!
# What happens in a pass

A pass notes scripts as read and runs their statements. Its events list both in order: a script when it is noted, a
statement when it has ended, with the sessions before and after it, what it came to, and what it stands in. Events are
told from the sessions that the pass goes through; nothing in the pass keeps them.

A statement about every session of a pass is shown once for each kind of step, as `Recorded` lists them, and then holds
of every run of every script, whether it ends well or not.
-/

namespace BuildTree
open Effect Relation

/-- What a statement stands in: a directory that has been entered, a project block, or the attempt at a place. -/
inductive Enclosure where
  | directory (path : Path)
  | project (name : String)
  | attempt (place : Location)
deriving DecidableEq

namespace Enclosure

def isDirectory : Enclosure → Bool
  | .directory _ => true
  | _ => false

def isAttempt : Enclosure → Bool
  | .attempt _ => true
  | _ => false

/-- What can be entered: a directory below the current one, or a project with a name. -/
def Fits : Enclosure → Prop
  | .directory p => Scope.leadsBelow p = true
  | .project name => Scope.trimSlashes name ≠ ""
  | .attempt _ => True

end Enclosure

def Scope.enter (scope : Scope) : Enclosure → Scope
  | .directory p => { scope with directory := scope.directory.join p }
  | .project name =>
    { scope with
      project := if scope.project = "" then trimSlashes name else scope.project ++ "/" ++ trimSlashes name }
  | .attempt _ => scope

/-- The scopes inside. An attempt has none of its own. -/
def ScopeStack.enter (stack : ScopeStack) : Enclosure → ScopeStack
  | .attempt _ => stack
  | e => stack.push (stack.current.enter e)

/-- A statement of a script that has been run: what it stands in, from the outermost inwards, whether it got to run
other statements, and the sessions before and after. -/
structure Visit where
  script : Path
  enclosing : List Enclosure
  statement : Statement
  entered : Bool
  before : Session
  outcome : Except Failure Outcome
  after : Session

namespace Visit

def place (v : Visit) : Location :=
  .line v.script.toString (some v.statement.line)

/-- What a statement came to, as the trace tells it. -/
def told : Except Failure Outcome → Outcome
  | .ok outcome => outcome
  | .error failure => .failed failure.fault

def entry (v : Visit) : TraceEntry :=
  ⟨v.place, told v.outcome⟩

/-- The visit of a statement in something that stands in something itself. -/
def within (e : Enclosure) (v : Visit) : Visit :=
  { v with enclosing := e :: v.enclosing }

end Visit

inductive Event where
  | began (script : Path)
  | ended (visit : Visit)

namespace Event

def within (e : Enclosure) : Event → Event
  | .began script => .began script
  | .ended v => .ended (v.within e)

def visit? : Event → Option Visit
  | .began _ => none
  | .ended v => some v

def script? : Event → Option Path
  | .began script => some script
  | .ended _ => none

end Event

/-- The statements that have ended, in order. -/
def visits (es : List Event) : List Visit :=
  es.filterMap Event.visit?

/-- The scripts that have been noted, in order. -/
def begun (es : List Event) : List Path :=
  es.filterMap Event.script?

section Events
variable (es es' : List Event) (e : Enclosure) (v : Visit)

@[simp] theorem visits_append : visits (es ++ es') = visits es ++ visits es' :=
  List.filterMap_append

@[simp] theorem begun_append : begun (es ++ es') = begun es ++ begun es' :=
  List.filterMap_append

@[simp] theorem visits_nil : visits [] = [] := rfl

@[simp] theorem visits_began (script : Path) : visits [.began script] = [] := rfl

@[simp] theorem visits_ended : visits [.ended v] = [v] := rfl

@[simp] theorem begun_ended : begun [.ended v] = [] := rfl

@[simp] theorem visits_within :
    visits (es.map (Event.within e)) = (visits es).map (Visit.within e) := by
  induction es with
  | nil => rfl
  | cons first rest ih =>
    cases first with
    | began script => exact ih
    | ended v => exact congrArg (_ :: ·) ih

@[simp] theorem begun_within : begun (es.map (Event.within e)) = begun es := by
  induction es with
  | nil => rfl
  | cons first rest ih =>
    cases first with
    | began script => exact congrArg (script :: ·) ih
    | ended v => exact ih

end Events

namespace Session

def entering (s : Session) (e : Enclosure) : Session :=
  { s with scopes := s.scopes.enter e }

def leaving (s : Session) : Enclosure → Session
  | .attempt _ => s
  | _ => { s with scopes := s.scopes.pop }

/-- The session in which the script of a directory is run. -/
def inDirectory (s : Session) (p : Path) : Session :=
  (s.entering (.directory p)).withDirectory (s.entering (.directory p)).buildDir

/-- The session after a statement has ended. -/
def traced (s : Session) (place : Location) (outcome : Except Failure Outcome) : Session :=
  { s with trace := s.trace ++ [⟨place, Visit.told outcome⟩] }

/-- The only argument of a statement, by its name. -/
def argument? (s : Session) (key : String) (args : Arguments String) : Option Given :=
  match args.resolve s.boundTarget with
  | .ok args => ((Signature.places [key]).bind? args).map (·.get key)
  | .error _ => none

/-- The name of the project that a block opens. -/
def projectOf? (s : Session) (args : Arguments String) : Option String :=
  match s.argument? "name" args with
  | some (.text name) => if Scope.trimSlashes name = "" then none else some name
  | _ => none

/-- The directory that is entered, if it is below the current one, and the name of the script there. -/
def directoryOf? (s : Session) (path : Given) : Option (Path × Path) :=
  match Argument.path path with
  | .ok p => if Scope.leadsBelow p then (Argument.path s.setup.scriptName).toOption.map (p, ·) else none
  | .error _ => none

end Session

/-- What happens after a run, if that ended well. -/
def afterwards {ε α : Type} (rest : Session → List Event) : Except ε α × Session → List Event
  | (.ok _, s) => rest s
  | (.error _, _) => []

namespace ScriptFrame

def visit (frame : ScriptFrame) (statement : Statement) (s : Session) (entered : Bool) : Visit where
  script := frame.script
  enclosing := []
  statement := statement
  entered := entered
  before := s
  outcome := ((runStatement frame statement).run s).1
  after := ((runStatement frame statement).run s).2

/-- The events of a statement: those inside it, if it has entered anything, and then its end. -/
def events (frame : ScriptFrame) (statement : Statement) (s : Session) (inside : Option (List Event)) : List Event :=
  inside.getD [] ++ [.ended (frame.visit statement s !(visits (inside.getD [])).isEmpty)]

end ScriptFrame

section Running
variable (frame : ScriptFrame) (follow : Given → Session → Option (List Event))

mutual

/-- What happens while statements run one after the other. -/
def bodyEvents : List Statement → Session → List Event
  | [], _ => []
  | statement :: rest, s =>
    frame.events statement s (insideEvents statement s)
      ++ afterwards (fun s' => bodyEvents rest s') ((runStatement frame statement).run s)

/-- What happens inside a statement, if it runs others. -/
def insideEvents : Statement → Session → Option (List Event)
  | .call _ _ _ _ _, _ => none
  | .subdir _ args, s => (s.argument? "path" args).bind (follow · s)
  | .project _ args body, s =>
    (s.projectOf? args).map fun name =>
      (bodyEvents body (s.entering (.project name))).map (Event.within (.project name))
  | .attempt line body, s => some ((bodyEvents body s).map (Event.within (.attempt (frame.place line))))
  | .raise _ _, _ => none

end

end Running

/-- What happens when a directory is entered. -/
def directoryEvents (follow : Path → Session → Option (List Event)) (path : Given) (s : Session) :
    Option (List Event) :=
  match s.directoryOf? path with
  | none => none
  | some (p, name) =>
    (follow ((s.inDirectory p).sourceDir.join name) (s.inDirectory p)).map (·.map (Event.within (.directory p)))

/-- What happens when a script is run. One that does not load is noted all the same. -/
def scriptEvents : Nat → Path → Session → Option (List Event)
  | 0, _, _ => none
  | depth + 1, script, s =>
    match s.files.get? script.toString, (Pass.enterScript script).run s with
    | some (.script body), (.ok _, s') =>
      some (.began script :: bodyEvents ⟨script, Pass.enterDirectory (Pass.runScript depth)⟩
        (directoryEvents (scriptEvents depth)) body s')
    | some (.unloadable _), (.ok _, _) => some [.began script]
    | _, _ => none

def preloadEvents : List Path → Session → List Event
  | [], _ => []
  | script :: rest, s =>
    (scriptEvents Pass.maxDepth script s).getD []
      ++ afterwards (preloadEvents rest) ((Pass.runScript Pass.maxDepth none script).run s)

/-- What happens in a pass: first in the preloaded scripts, then in the tree of scripts from its root. -/
def configureEvents (s : Session) : List Event :=
  let ready := s.withDirectory s.setup.build
  preloadEvents s.setup.preloads ready
    ++ afterwards (fun s' => (directoryEvents (scriptEvents Pass.maxDepth) (.text ".") s').getD [])
      ((Pass.runScripts s.setup.preloads).run ready)

/-! ## Runs of the parts of a pass -/

namespace Session

/-- Nothing has happened but that something was reported or missed, or a directory was made. -/
def Aside (s s' : Session) : Prop :=
  ∃ missing directories log, s' = { s with missing := missing, directories := directories, log := log }

variable {s s' : Session}

theorem fits_of_projectOf? {args : Arguments String} {name : String} (h : s.projectOf? args = some name) :
    (Enclosure.project name).Fits := by
  unfold projectOf? at h
  split at h
  · split at h
    · cases h
    next hname =>
      cases h
      exact hname
  · cases h

theorem fits_of_directoryOf? {path : Given} {p name : Path} (h : s.directoryOf? path = some (p, name)) :
    (Enclosure.directory p).Fits := by
  unfold directoryOf? at h
  split at h
  · split at h
    next hbelow =>
      obtain ⟨_, _, hp⟩ := Option.map_eq_some_iff.mp h
      cases hp
      exact hbelow
    · cases h
  · cases h

theorem Aside.refl (s : Session) : s.Aside s := ⟨_, _, _, rfl⟩

theorem Aside.trans {s s' s'' : Session} (h : s.Aside s') (h' : s'.Aside s'') : s.Aside s'' := by
  obtain ⟨_, _, _, rfl⟩ := h
  obtain ⟨missing, directories, log, rfl⟩ := h'
  exact ⟨missing, directories, log, rfl⟩

theorem Aside.setup (h : s.Aside s') : s'.setup = s.setup := by
  obtain ⟨_, _, _, rfl⟩ := h
  rfl

theorem aside_withDirectory (s : Session) (p : Path) : s.Aside (s.withDirectory p) := by
  unfold withDirectory
  split
  · exact .refl s
  · exact ⟨_, _, _, rfl⟩

theorem aside_logged (s : Session) (line : LogLine) : s.Aside (s.logged line) := ⟨_, _, _, rfl⟩

section Leaving
variable (s : Session) (e : Enclosure)

@[simp] theorem leaving_setup : (s.leaving e).setup = s.setup := by cases e <;> rfl

@[simp] theorem leaving_graph : (s.leaving e).graph = s.graph := by cases e <;> rfl

@[simp] theorem leaving_bindings : (s.leaving e).bindings = s.bindings := by cases e <;> rfl

@[simp] theorem leaving_scripts : (s.leaving e).scripts = s.scripts := by cases e <;> rfl

@[simp] theorem leaving_trace : (s.leaving e).trace = s.trace := by cases e <;> rfl

end Leaving

theorem aside_inDirectory (s : Session) (p : Path) : (s.entering (.directory p)).Aside (s.inDirectory p) :=
  aside_withDirectory _ _

theorem Aside.of_entering {e : Enclosure} (h : (s.entering e).Aside s') : s.Aside (s'.leaving e) := by
  obtain ⟨missing, directories, log, rfl⟩ := h
  cases e <;> exact ⟨missing, directories, log, rfl⟩

end Session

/-- A failure on its way out of a statement: it comes from there, if it comes from nowhere else. -/
def Failure.located (place : Location) (failure : Failure) : Failure :=
  { failure with origin := failure.origin <|> some place }

/-- The fault that something has failed with, if it has. -/
def Failure.fault? : Except Failure Unit → Option Fault
  | .ok _ => none
  | .error failure => some failure.fault

theorem Visit.told_mapError_located (place : Location) (outcome : Except Failure Outcome) :
    told (outcome.mapError (Failure.located place)) = told outcome := by
  cases outcome <;> rfl

namespace Eval

theorem run_ended (place : Location) (action : Eval Outcome) (s : Session) :
    (ended place action).run s =
      ((action.run s).1.mapError (Failure.located place), (action.run s).2.traced place (action.run s).1) := by
  show ended place action s = _
  unfold ended
  rcases h : action.run s with ⟨outcome, s'⟩
  cases outcome <;> rfl

theorem run_attempted (action : Eval Unit) (s : Session) :
    (attempted action).run s = (.ok (.caught (Failure.fault? (action.run s).1)), (action.run s).2) := by
  show attempted action s = _
  unfold attempted
  rcases h : action.run s with ⟨outcome, s'⟩
  cases outcome <;> rfl

theorem run_ofPass {α : Type} (action : Pass α) (s : Session) :
    (ofPass action).run s = ((action.run s).1.mapError fun fault => ⟨fault, none⟩, (action.run s).2) := rfl

end Eval

namespace Pass
variable {s : Session}

theorem run_inScope {ε α : Type} {e : Enclosure} (he : e.isAttempt = false) (action : ExceptT ε (StateM Session) α) :
    (inScope (s.scopes.current.enter e) action).run s =
      ((action.run (s.entering e)).1, (action.run (s.entering e)).2.leaving e) := by
  cases e with
  | attempt place => cases he
  | directory p => rfl
  | project name => rfl

/-- What asks for its only argument first. -/
theorem run_argument_cases {α : Type} {c : Pass α} {key : String} {args : Arguments String}
    {rest : Bound TargetId → Pass α} (hc : c = do let b ← bound (.places [key]) (← resolveArguments args); rest b)
    (s : Session) :
    (∃ b, s.argument? key args = some (b.get key) ∧ c.run s = (rest b).run s) ∨
      (s.argument? key args = none ∧ ∃ f, c.run s = (.error f, s)) := by
  have hresolve : (resolveArguments args).run s = (args.resolve s.boundTarget, s) := by
    simp only [resolveArguments, run_bind, run_get, andThen_ok, run_lift]
  rw [hc, run_bind, hresolve, Session.argument?]
  cases args.resolve s.boundTarget with
  | error f => exact .inr ⟨rfl, f, rfl⟩
  | ok resolved =>
    simp only [andThen_ok, run_bind, bound]
    cases (Signature.places [key]).bind? resolved with
    | none => exact .inr ⟨rfl, .typeMismatch, rfl⟩
    | some b => exact .inl ⟨b, rfl, rfl⟩

/-- A block is opened in the scope of its project, or not at all. -/
theorem run_projectScope_cases (args : Arguments String) (s : Session) :
    (∃ name, s.projectOf? args = some name ∧
        (projectScope args).run s = (.ok (s.scopes.current.enter (.project name)), s)) ∨
      (s.projectOf? args = none ∧ ∃ f, (projectScope args).run s = (.error f, s)) := by
  have hopen : ∀ name, s.scopes.current.inProject name =
      if Scope.trimSlashes name = "" then .error .emptyProjectName
      else .ok (s.scopes.current.enter (.project name)) := fun name => rfl
  rcases run_argument_cases (c := projectScope args) rfl s with ⟨b, hvalue, hrun⟩ | ⟨hnone, f, hrun⟩
  · rw [hrun, Session.projectOf?, hvalue]
    cases b.get "name" with
    | text name =>
      simp only [run_bind, run_get, andThen_ok, hopen]
      by_cases hname : Scope.trimSlashes name = ""
      · simp only [if_pos hname]
        exact .inr ⟨trivial, _, rfl⟩
      · simp only [if_neg hname]
        exact .inl ⟨name, rfl, rfl⟩
    | _ => exact .inr ⟨rfl, _, rfl⟩
  · rw [Session.projectOf?, hnone]
    exact .inr ⟨rfl, f, hrun⟩

theorem run_subdirStatement_cases (here : Location) (enter : Option Location → Given → Pass Unit)
    (args : Arguments String) (s : Session) :
    (∃ path, s.argument? "path" args = some path ∧ (subdirStatement here enter args).run s =
        andThen (fun _ => pure .nothing) ((enter (some here) path).run s)) ∨
      (s.argument? "path" args = none ∧ ∃ f, (subdirStatement here enter args).run s = (.error f, s)) := by
  rcases run_argument_cases (c := subdirStatement here enter args) rfl s with ⟨b, hpath, hrun⟩ | ⟨hnone, f, hrun⟩
  · exact .inl ⟨b.get "path", hpath, hrun.trans (run_bind _ _ s)⟩
  · exact .inr ⟨hnone, f, hrun⟩

theorem run_enterDirectory_cases (run : Option Location → Path → Pass Unit) (here : Option Location) (path : Given)
    (s : Session) :
    (∃ p name, s.directoryOf? path = some (p, name) ∧ (enterDirectory run here path).run s =
        (((run here ((s.inDirectory p).sourceDir.join name)).run (s.inDirectory p)).1,
          ((run here ((s.inDirectory p).sourceDir.join name)).run (s.inDirectory p)).2.leaving (.directory p))) ∨
      (s.directoryOf? path = none ∧
        ∃ f s', s.Aside s' ∧ (enterDirectory run here path).run s = (.error f, s')) := by
  have hchild : ∀ p : Path, s.scopes.current.child p p.toString =
      if Scope.leadsBelow p then .ok (s.scopes.current.enter (.directory p))
      else .error (.leavesDirectory p.toString) := fun p => rfl
  rw [enterDirectory, run_bind, childScope, run_bind, run_lift, Session.directoryOf?]
  cases Argument.path path with
  | error f => exact .inr ⟨rfl, f, s, .refl s, rfl⟩
  | ok p =>
    simp only [andThen_ok, run_bind, run_get, hchild]
    by_cases hbelow : Scope.leadsBelow p = true
    · have hinside : ∀ action : Pass Unit,
          (inScope (s.scopes.current.enter (.directory p)) action).run s =
            ((action.run (s.entering (.directory p))).1, (action.run (s.entering (.directory p))).2.leaving _) :=
        run_inScope rfl
      simp only [if_pos hbelow, run_pure, andThen_ok, hinside, run_bind, run_get, makeDirectory, run_modify, run_lift]
      have hsetup : (s.entering (.directory p)).setup = s.setup := rfl
      rw [hsetup]
      cases Argument.path s.setup.scriptName with
      | error f => exact .inr ⟨rfl, f, _, (s.aside_inDirectory p).of_entering, rfl⟩
      | ok name =>
        refine .inl ⟨p, name, rfl, ?_⟩
        have hdir : (s.inDirectory p).sourceDir = (s.entering (.directory p)).sourceDir := by
          obtain ⟨_, _, _, h⟩ := s.aside_inDirectory p
          rw [h]
          rfl
        rw [hdir]
        rfl
    · simp only [if_neg hbelow]
      exact .inr ⟨trivial, _, s, .refl s, rfl⟩

/-- A path with a text becomes an input of the target for the pass, if there is one. -/
theorem run_addPassInput_cases (path : Given) (s : Session) {text : String}
    (htext : Argument.text s.graph path = .ok text) :
    (∃ r, s.graph.pass = some r ∧ (s.graph.node r).isPass = true ∧ (addPassInput path).run s =
        (.ok (), { s with graph := s.graph.modifyNode r (Target.addInputPath text) })) ∨
      ((∀ r, s.graph.pass = some r → (s.graph.node r).isPass = false) ∧
        (addPassInput path).run s = (.error .missingAttribute, s)) := by
  have hsame : ∀ g : Graph, g.targets = s.graph.targets → s.grown g = { s with graph := g } := fun g hg => by
    simp [Session.grown, hg]
  simp only [addPassInput, run_bind, run_get, andThen_ok]
  cases hpass : s.graph.pass with
  | none =>
    refine .inr ⟨fun r hr => ?_, rfl⟩
    cases hr
  | some r =>
    have hrun : ∀ change : Change Unit, (onGraph change).run s =
      ((change.run s.graph).1, s.grown (change.run s.graph).2) := fun change => rfl
    cases hr : (s.graph.node r).isPass with
    | false =>
      refine .inr ⟨fun r' hr' => Option.some.inj hr' ▸ hr, ?_⟩
      simp [hrun, Graph.addPassInput, hr, hsame]
    | true =>
      refine .inl ⟨r, rfl, hr, ?_⟩
      simp only [hrun, Graph.addPassInput, run_bind, run_get, andThen_ok, hr, Bool.not_true, Bool.false_eq_true,
        if_false, htext, run_lift, run_set]
      exact congrArg (Prod.mk _) (hsame (s.graph.modifyNode r _) rfl)

/-- A script is noted as read and becomes an input of the target for the pass, or nothing is done. -/
theorem run_enterScript_cases (script : Path) (s : Session) :
    (∃ r log, s.graph.pass = some r ∧ (s.graph.node r).isPass = true ∧ (enterScript script).run s =
        (.ok (), { s with
          graph := s.graph.modifyNode r (Target.addInputPath script.toString)
          scripts := s.scripts ++ [script]
          log := log })) ∨
      ((∀ r, s.graph.pass = some r → (s.graph.node r).isPass = false) ∧
        (enterScript script).run s = (.error .missingAttribute, s)) := by
  rw [enterScript, run_bind]
  rcases run_addPassInput_cases (.path script) s rfl with ⟨r, hr, hpass, hrun⟩ | ⟨hnone, hrun⟩
  · rw [hrun]
    exact .inl ⟨r, _, hr, hpass, rfl⟩
  · rw [hrun]
    exact .inr ⟨hnone, rfl⟩

theorem enterScript_eq_ok {script : Path} {s' : Session} (h : (enterScript script).run s = (.ok (), s')) :
    ∃ r log, s.graph.pass = some r ∧ s' = { s with
      graph := s.graph.modifyNode r (Target.addInputPath script.toString)
      scripts := s.scripts ++ [script]
      log := log } := by
  rcases run_enterScript_cases script s with ⟨r, log, hpass, _, hrun⟩ | ⟨_, hrun⟩
  · cases h.symm.trans hrun
    exact ⟨r, log, hpass, rfl⟩
  · cases congrArg Prod.fst (h.symm.trans hrun)

/-- A script that enters directories to a depth. -/
def frameOf (depth : Nat) (script : Path) : ScriptFrame :=
  ⟨script, enterDirectory (runScript depth)⟩

/-- A script is noted and its statements are run; or it is noted and does not load; or it fails at once: it is missing
or cannot be looked at, too deep, or no target stands for the pass. -/
theorem run_runScript_cases (depth : Nat) (here : Option Location) (script : Path) (s : Session) :
    (∃ depth' body s', depth = depth' + 1 ∧ (enterScript script).run s = (.ok (), s') ∧
        (runScript depth here script).run s = (runStatements (frameOf depth' script) body).run s' ∧
        scriptEvents depth script s = some (.began script ::
          bodyEvents (frameOf depth' script) (directoryEvents (scriptEvents depth')) body s')) ∨
      (∃ fault s', (enterScript script).run s = (.ok (), s') ∧
        s.files.get? script.toString = some (.unloadable fault) ∧
        (runScript depth here script).run s = (.error (fault.leaving script.toString none), s') ∧
        scriptEvents depth script s = some [.began script]) ∨
      (∃ f s', s.Aside s' ∧ (runScript depth here script).run s = (.error f, s') ∧
        scriptEvents depth script s = none ∧
        (0 < depth → (∃ r, s.graph.pass = some r ∧ (s.graph.node r).isPass = true) →
          f = .script script.toString "configuration script not found" here ∨
            ∃ kind reason, s.files.get? script.toString = some (.unreachable kind reason) ∧
              f = FileEntry.refusal kind reason script.toString)) := by
  cases depth with
  | zero => exact .inr (.inr ⟨_, s, .refl s, rfl, rfl, fun h => absurd h (by simp)⟩)
  | succ depth =>
    simp only [scriptEvents, runScript, run_bind, run_get, andThen_ok]
    have hnoted : (∃ s', (enterScript script).run s = (.ok (), s')) ∨
        ((enterScript script).run s = (.error .missingAttribute, s) ∧
          ¬ ∃ r, s.graph.pass = some r ∧ (s.graph.node r).isPass = true) := by
      rcases run_enterScript_cases script s with ⟨r, log, _, _, hrun⟩ | ⟨hnone, hrun⟩
      · exact .inl ⟨_, hrun⟩
      · exact .inr ⟨hrun, fun ⟨r, hr, hpass⟩ => Bool.false_ne_true ((hnone r hr).symm.trans hpass)⟩
    cases hfile : s.files.get? script.toString with
    | none => exact .inr (.inr ⟨_, _, ⟨_, _, _, rfl⟩, rfl, rfl, fun _ _ => .inl rfl⟩)
    | some entry =>
      cases entry with
      | directory => exact .inr (.inr ⟨_, _, ⟨_, _, _, rfl⟩, rfl, rfl, fun _ _ => .inl rfl⟩)
      | unreachable kind reason =>
        exact .inr (.inr ⟨_, s, .refl s, rfl, rfl, fun _ _ => .inr ⟨kind, reason, rfl, rfl⟩⟩)
      | script body =>
        rcases hnoted with ⟨s', hrun⟩ | ⟨hrun, hnone⟩
        · exact .inl ⟨depth, body, s', rfl, hrun, by rw [run_bind, hrun]; rfl, by rw [hrun]; rfl⟩
        · exact .inr (.inr ⟨.missingAttribute, s, .refl s, by rw [run_bind, hrun]; rfl, by rw [hrun],
            fun _ hpass => absurd hpass hnone⟩)
      | unloadable fault =>
        rcases hnoted with ⟨s', hrun⟩ | ⟨hrun, hnone⟩
        · exact .inr (.inl ⟨fault, s', hrun, rfl, by rw [run_bind, hrun]; rfl, by rw [hrun]⟩)
        · exact .inr (.inr ⟨.missingAttribute, s, .refl s, by rw [run_bind, hrun]; rfl, by rw [hrun],
            fun _ hpass => absurd hpass hnone⟩)

end Pass

/-- What is recorded of a run holds of each kind of step, and of a whole when it holds of its parts: `R s es s'` is to
say something of what happens between two sessions. -/
structure Recorded (R : Session → List Event → Session → Prop) : Prop where
  aside {s s' : Session} (h : s.Aside s') : R s [] s'
  trans {s s' s'' : Session} {es es' : List Event} (h : R s es s') (h' : R s' es' s'') : R s (es ++ es') s''
  began {s s' : Session} {script : Path} (h : (Pass.enterScript script).run s = (.ok (), s')) :
    R s [.began script] s'
  call (frame : ScriptFrame) (line : Nat) (verb : Verb) (args : Arguments String) (on bindTo : Option String)
    (s : Session) : R s [.ended (frame.visit (.call line verb args on bindTo) s false)]
      ((runStatement frame (.call line verb args on bindTo)).run s).2
  close {v : Visit} {s' : Session} {es : List Event} (notCall : ∀ line verb args on bindTo,
      v.statement ≠ .call line verb args on bindTo) (outermost : v.enclosing = [])
    (after : v.after = s'.traced v.place v.outcome) (h : R v.before es s') : R v.before (es ++ [.ended v]) v.after
  enclosed {e : Enclosure} (fits : e.Fits) {s s' : Session} {es : List Event} (h : R (s.entering e) es s') :
    R s (es.map (Event.within e)) (s'.leaving e)

namespace Recorded
variable {R : Session → List Event → Session → Prop}

theorem still (h : Recorded R) (s : Session) : R s [] s :=
  h.aside (.refl s)

theorem afterwards (h : Recorded R) {ε α β : Type} {c : ExceptT ε (StateM Session) α}
    {f : α → ExceptT ε (StateM Session) β} {rest : Session → List Event} {s : Session} {es : List Event}
    (hc : R s es (c.run s).2) (hf : ∀ a s', R s' (rest s') ((f a).run s').2) :
    R s (es ++ BuildTree.afterwards rest (c.run s)) ((c >>= f).run s).2 := by
  rw [run_bind]
  generalize c.run s = first at hc ⊢
  obtain ⟨outcome, s'⟩ := first
  cases outcome with
  | error failure => exact h.trans hc (h.still s')
  | ok a => exact h.trans hc (hf a s')

/-- What comes after a run without any events. -/
theorem followed (h : Recorded R) {ε α β : Type} {c : ExceptT ε (StateM Session) α}
    {f : α → ExceptT ε (StateM Session) β} {s : Session} {es : List Event} (hc : R s es (c.run s).2)
    (hf : ∀ a s', R s' [] ((f a).run s').2) : R s es ((c >>= f).run s).2 := by
  have hnothing : BuildTree.afterwards (fun _ => []) (c.run s) = [] := by
    rcases c.run s with ⟨outcome, s'⟩
    cases outcome <;> rfl
  have hboth := h.afterwards hc hf
  rwa [hnothing, List.append_nil] at hboth

/-- A statement that is not a call: what is recorded up to its end is recorded with its end. -/
theorem ended (h : Recorded R) {frame : ScriptFrame} {statement : Statement} {action : Eval Outcome} {s : Session}
    {inside : Option (List Event)}
    (notCall : ∀ line verb args on bindTo, statement ≠ .call line verb args on bindTo)
    (hrun : runStatement frame statement = Eval.ended (frame.place statement.line) action)
    (hinside : R s (inside.getD []) (action.run s).2) :
    R s (frame.events statement s inside) ((runStatement frame statement).run s).2 := by
  have hafter : ∀ ran, (frame.visit statement s ran).after = (action.run s).2.traced
      (frame.visit statement s ran).place (frame.visit statement s ran).outcome := fun _ => by
    simp only [ScriptFrame.visit, Visit.place, hrun, Eval.run_ended, Session.traced, Visit.told_mapError_located]
    rfl
  exact h.close notCall rfl (hafter _) hinside

/-- Entering a directory records what follows there. -/
def Follows (R : Session → List Event → Session → Prop) (enter : Option Location → Given → Pass Unit)
    (follow : Given → Session → Option (List Event)) : Prop :=
  ∀ here path s, R s ((follow path s).getD []) ((enter here path).run s).2

section Running
variable {frame : ScriptFrame} {follow : Given → Session → Option (List Event)}

mutual

theorem of_body (h : Recorded R) (henter : Follows R frame.enter follow) :
    ∀ body s, R s (bodyEvents frame follow body s) ((runBody frame body).run s).2
  | [], s => by
    rw [bodyEvents, runBody]
    exact h.still s
  | statement :: rest, s => by
    rw [bodyEvents, runBody]
    exact h.afterwards (of_statement h henter statement s) fun _ s' => of_body h henter rest s'

/-- Whatever entering a directory records, a statement records. -/
theorem of_statement (h : Recorded R) (henter : Follows R frame.enter follow) : ∀ statement s,
    R s (frame.events statement s (insideEvents frame follow statement s)) ((runStatement frame statement).run s).2
  | .call line verb args on bindTo, s => by
    rw [insideEvents]
    exact h.call frame line verb args on bindTo s
  | .subdir line args, s => by
    rw [insideEvents]
    refine h.ended (by simp) (by rw [runStatement]; rfl) ?_
    rw [Eval.run_ofPass]
    rcases Pass.run_subdirStatement_cases (frame.place line) frame.enter args s with
      ⟨path, hpath, hrun⟩ | ⟨hnone, f, hrun⟩
    · rw [hrun, hpath, Option.bind_some, snd_andThen_pure]
      exact henter _ path s
    · rw [hrun, hnone]
      exact h.still s
  | .project line args body, s => by
    rw [insideEvents]
    refine h.ended (by simp) (by rw [runStatement]; rfl) ?_
    rw [run_bind, Eval.run_ofPass]
    rcases Pass.run_projectScope_cases args s with ⟨name, hname, hrun⟩ | ⟨hnone, f, hrun⟩
    · rw [hrun, hname]
      have hinside := h.enclosed (Session.fits_of_projectOf? hname) (of_body h henter body (s.entering (.project name)))
      simp only [mapError_ok, andThen_ok, run_bind]
      rw [Pass.run_inScope rfl, snd_andThen_pure]
      exact hinside
    · rw [hrun, hnone]
      exact h.still s
  | .attempt line body, s => by
    rw [insideEvents]
    refine h.ended (by simp) (by rw [runStatement]; rfl) ?_
    rw [Eval.run_attempted]
    exact h.enclosed (show Enclosure.Fits (.attempt (frame.place line)) from trivial) (of_body h henter body s)
  | .raise line complaint, s => by
    rw [insideEvents]
    refine h.ended (by simp) (by rw [runStatement]; rfl) ?_
    exact h.still s

end

end Running

theorem of_directory (h : Recorded R) {run : Option Location → Path → Pass Unit}
    {follow : Path → Session → Option (List Event)}
    (hrun : ∀ here script s, R s ((follow script s).getD []) ((run here script).run s).2) :
    Follows R (Pass.enterDirectory run) (directoryEvents follow) := by
  intro here path s
  rw [directoryEvents]
  rcases Pass.run_enterDirectory_cases run here path s with ⟨p, name, hdir, hresult⟩ | ⟨hnone, f, s', haside, hresult⟩
  · simp only [hresult, hdir]
    have hinside := h.trans (h.aside (s.aside_inDirectory p)) (hrun here ((s.inDirectory p).sourceDir.join name) _)
    have hout := h.enclosed (Session.fits_of_directoryOf? hdir) hinside
    cases hfollow : follow ((s.inDirectory p).sourceDir.join name) (s.inDirectory p) with
    | none =>
      rw [hfollow] at hout
      exact hout
    | some es =>
      rw [hfollow] at hout
      exact hout
  · rw [hresult, hnone]
    exact h.aside haside

/-- Scripts are recorded, however deep they enter directories. -/
theorem of_script (h : Recorded R) (depth : Nat) (here : Option Location) (script : Path) (s : Session) :
    R s ((scriptEvents depth script s).getD []) ((Pass.runScript depth here script).run s).2 := by
  -- A script that enters a directory runs the one there less deep, whatever statements lie between the two.
  induction depth using Nat.strongRecOn generalizing here script s with
  | ind depth ih =>
    rcases Pass.run_runScript_cases depth here script s with
      ⟨depth', body, s', rfl, hbegan, hrun, hevents⟩ | ⟨fault, s', hbegan, _, hrun, hevents⟩ |
        ⟨f, s', haside, hrun, hnone, _⟩
    · have henter : Follows R (Pass.frameOf depth' script).enter (directoryEvents (scriptEvents depth')) :=
        h.of_directory (ih depth' (Nat.lt_succ_self _))
      rw [hrun, hevents, Pass.runStatements, run_adapt]
      exact h.trans (h.began hbegan) (h.of_body henter body s')
    · rw [hrun, hevents]
      exact h.began hbegan
    · rw [hrun, hnone]
      exact h.aside haside

theorem of_scripts (h : Recorded R) (scripts : List Path) (s : Session) :
    R s (preloadEvents scripts s) ((Pass.runScripts scripts).run s).2 := by
  induction scripts generalizing s with
  | nil => exact h.still s
  | cons script rest ih =>
    rw [preloadEvents, Pass.runScripts]
    exact h.afterwards (h.of_script Pass.maxDepth none script s) fun _ s' => ih s'

/-- A whole pass is recorded. -/
theorem of_configure (h : Recorded R) (s : Session) : R s (configureEvents s) (Pass.configure.run s).2 := by
  have hready : R s [] (s.withDirectory s.setup.build) := h.aside (s.aside_withDirectory s.setup.build)
  have hroot := h.of_directory (h.of_script Pass.maxDepth) none (.text ".")
  have hreport : ∀ s' : Session, R s' [] ((do
      let s ← get
      Pass.report .info Pass.runSource ("Configured " ++ toString s.graph.targets.length ++ " targets from "
        ++ toString s.scripts.length ++ " scripts") : Pass Unit).run s').2 := fun s' => h.aside (s'.aside_logged _)
  have htree : ∀ s' : Session, R s' ((directoryEvents (scriptEvents Pass.maxDepth) (.text ".") s').getD []) ((do
      Pass.enterDirectory (Pass.runScript Pass.maxDepth) none (.text ".")
      let s ← get
      Pass.report .info Pass.runSource ("Configured " ++ toString s.graph.targets.length ++ " targets from "
        ++ toString s.scripts.length ++ " scripts") : Pass Unit).run s').2 := fun s' =>
    h.followed (hroot s') fun _ => hreport
  have hall := h.trans hready (h.afterwards (h.of_scripts s.setup.preloads _) fun _ s' => htree s')
  rw [configureEvents, Pass.configure]
  simp only [run_bind, run_get, andThen_ok, Pass.makeDirectory, run_modify]
  rw [run_bind] at hall
  exact hall

theorem and {R' : Session → List Event → Session → Prop} (h : Recorded R) (h' : Recorded R') :
    Recorded fun s es s' => R s es s' ∧ R' s es s' where
  aside haside := ⟨h.aside haside, h'.aside haside⟩
  trans hfirst hsecond := ⟨h.trans hfirst.1 hsecond.1, h'.trans hfirst.2 hsecond.2⟩
  began hbegan := ⟨h.began hbegan, h'.began hbegan⟩
  call frame line verb args on bindTo s :=
    ⟨h.call frame line verb args on bindTo s, h'.call frame line verb args on bindTo s⟩
  close notCall outermost after hinside :=
    ⟨h.close notCall outermost after hinside.1, h'.close notCall outermost after hinside.2⟩
  enclosed fits _ _ _ hinside := ⟨h.enclosed fits hinside.1, h'.enclosed fits hinside.2⟩

/-- What is true before a run and stays true over what is recorded is true at every moment of the run. -/
theorem throughout (h : Recorded R) {P : Session → Prop} (hkept : ∀ {s es s'}, P s → R s es s' → P s')
    (henter : ∀ {s} e, P s → P (s.entering e)) :
    Recorded fun s es s' => R s es s' ∧ (P s → ∀ v ∈ visits es, P v.before ∧ P v.after) where
  aside haside := ⟨h.aside haside, fun _ => by simp⟩
  trans hfirst hsecond := by
    refine ⟨h.trans hfirst.1 hsecond.1, fun hs v hv => ?_⟩
    rw [visits_append] at hv
    rcases List.mem_append.mp hv with hv | hv
    · exact hfirst.2 hs v hv
    · exact hsecond.2 (hkept hs hfirst.1) v hv
  began hbegan := ⟨h.began hbegan, fun _ => by simp⟩
  call frame line verb args on bindTo s := by
    have hcall := h.call frame line verb args on bindTo s
    refine ⟨hcall, fun hs v hv => ?_⟩
    rw [visits_ended] at hv
    cases List.mem_singleton.mp hv
    exact ⟨hs, hkept hs hcall⟩
  close notCall outermost after hinside := by
    have hclosed := h.close notCall outermost after hinside.1
    refine ⟨hclosed, fun hs v hv => ?_⟩
    rw [visits_append, visits_ended] at hv
    rcases List.mem_append.mp hv with hv | hv
    · exact hinside.2 hs v hv
    · cases List.mem_singleton.mp hv
      exact ⟨hs, hkept hs hclosed⟩
  enclosed {e} fits {s s' es} hinside := by
    refine ⟨h.enclosed fits hinside.1, fun hs v hv => ?_⟩
    rw [visits_within] at hv
    obtain ⟨w, hw, rfl⟩ := List.mem_map.mp hv
    -- Only what the statement stands in has changed, and not its sessions.
    exact hinside.2 (henter e hs) w hw

end Recorded

section Calls
variable (frame : ScriptFrame) (line : Nat) (verb : Verb) (args : Arguments String) (on bindTo : Option String)
  (s : Session)

/-- What a call came to, and that a fault of it comes from its line. -/
theorem outcome_visit_call : (frame.visit (.call line verb args on bindTo) s false).outcome =
    ((Pass.callStatement (frame.place line) verb args on bindTo).run s).1.mapError
      fun fault => ⟨fault, some (frame.place line)⟩ := by
  simp only [ScriptFrame.visit, runStatement, Eval.run_ended, Eval.run_ofPass]
  cases ((Pass.callStatement (frame.place line) verb args on bindTo).run s).1 <;> rfl

theorem after_visit_call : (frame.visit (.call line verb args on bindTo) s false).after =
    ((Pass.callStatement (frame.place line) verb args on bindTo).run s).2.traced
      (frame.place line) (frame.visit (.call line verb args on bindTo) s false).outcome := by
  simp only [ScriptFrame.visit, runStatement, Eval.run_ended, Eval.run_ofPass, Session.traced,
    Visit.told_mapError_located]

theorem undisturbed_visit_call :
    s.Undisturbed ((Pass.callStatement (frame.place line) verb args on bindTo).run s).2 :=
  Pass.undisturbed_callStatement (frame.place line) verb args on bindTo s

end Calls

/-- The trace of a session and the scripts it has read are those that the events tell of. -/
structure Tells (s : Session) (es : List Event) (s' : Session) : Prop where
  trace : s'.trace = s.trace ++ (visits es).map Visit.entry
  scripts : s'.scripts = s.scripts ++ begun es

theorem recorded_tells : Recorded Tells where
  aside := by
    rintro s s' ⟨_, _, _, rfl⟩
    exact ⟨(List.append_nil _).symm, (List.append_nil _).symm⟩
  trans h h' := ⟨by rw [h'.trace, h.trace, visits_append, List.map_append, List.append_assoc],
    by rw [h'.scripts, h.scripts, begun_append, List.append_assoc]⟩
  began := by
    intro s s' script h
    obtain ⟨r, log, _, rfl⟩ := Pass.enterScript_eq_ok h
    exact ⟨(List.append_nil _).symm, rfl⟩
  call frame line verb args on bindTo s := by
    have hsame := undisturbed_visit_call frame line verb args on bindTo s
    have hafter := after_visit_call frame line verb args on bindTo s
    refine ⟨?_, ?_⟩
    · exact (congrArg Session.trace hafter).trans (congrArg (· ++ _) hsame.trace)
    · exact (congrArg Session.scripts hafter).trans (hsame.scripts.trans (List.append_nil _).symm)
  close {v s' es} _ _ after h := by
    refine ⟨?_, ?_⟩
    · rw [after, visits_append, visits_ended, List.map_append, ← List.append_assoc, ← h.trace]
      rfl
    · rw [after, begun_append, begun_ended, List.append_nil, ← h.scripts]
      rfl
  enclosed {e} _ {s s' es} h := by
    refine ⟨?_, ?_⟩
    · rw [Session.leaving_trace, h.trace, visits_within, List.map_map]
      rfl
    · rw [Session.leaving_scripts, h.scripts, begun_within]
      rfl

/-- A pass that is asked for nothing but its two directories. -/
def plainSetup : Setup where
  source := ⟨.slash, ["s"]⟩
  build := ⟨.slash, ["b"]⟩
  preloads := []
  settings := []
  scriptName := .text "kiln.py"
  interpreter := "/usr/bin/python3"

end BuildTree
