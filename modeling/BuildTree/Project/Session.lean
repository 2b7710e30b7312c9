import BuildTree.Config.Basic
import BuildTree.Graph.Request
import BuildTree.Project.Statement
import BuildTree.Scope

/-!
# The state of a configure pass

A session holds everything a pass reads and builds up: where it runs, the scripts there are, the configuration,
the graph, the open scopes, and a record of what it did. Files are never written while scripts run; what a pass
writes is listed in the session.
-/

namespace BuildTree

inductive Level where
  | debug
  | info
  | warning
  | error
deriving DecidableEq, Repr

def Level.rank : Level → Nat
  | .debug => 0
  | .info => 1
  | .warning => 2
  | .error => 3

def Level.name : Level → String
  | .debug => "DEBUG"
  | .info => "INFO"
  | .warning => "WARNING"
  | .error => "ERROR"

structure LogLine where
  level : Level
  source : String
  text : String
deriving DecidableEq, Repr

structure Setup where
  source : Path
  build : Path
  preloads : List Path
  settings : Table String
  scriptName : Given
  interpreter : String

/-- What is at a place of the file system: among others a file that is no script, with the fault that loading it as one
comes to, and something that the system refuses to look at, with the kind of the fault and the reason. -/
inductive FileEntry where
  | directory
  | script (body : List Statement)
  | unloadable (fault : Fault)
  | unreachable (kind reason : String)

def FileEntry.refusal (kind reason path : String) : Fault :=
  .raised kind (reason ++ ": " ++ Text.quoted path)

/-- The files that a pass can see, by the spelling of their paths. -/
abbrev FileTree :=
  Table FileEntry

inductive Outcome where
  | nothing
  | target (t : TargetId) (state : Target)
  | value (v : Given)
  | scope (s : Scope)
  | caught (f : Option Fault)
  | failed (f : Fault)

structure TraceEntry where
  place : Location
  outcome : Outcome

structure Session where
  setup : Setup
  files : FileTree
  config : Given
  graph : Graph
  scripts : List Path
  missing : List Path
  scopes : ScopeStack
  bindings : Table TargetId
  directories : List String
  written : List (String × String)
  trace : List TraceEntry
  log : List LogLine

/-- Something a pass does, which can fail and then still leaves its effects. -/
abbrev Pass (α : Type) :=
  ExceptT Fault (StateM Session) α

def LogLine.graphSource : String :=
  "kiln.core.graph"

def LogLine.registered (t : Target) : LogLine :=
  ⟨.debug, graphSource, "Registered " ++ t.describe⟩

namespace Session

def logged (s : Session) (line : LogLine) : Session :=
  { s with log := s.log ++ [line] }

/-- The session after a directory was made; one that is there already is left alone. -/
def withDirectory (s : Session) (p : Path) : Session :=
  if s.directories.contains p.toString then s
  else { s with directories := s.directories ++ [p.toString] }

def sourceDir (s : Session) : Path :=
  s.setup.source.join s.scopes.current.directory

def buildDir (s : Session) : Path :=
  s.setup.build.join s.scopes.current.directory

def boundTarget (s : Session) (name : String) : Except Fault TargetId :=
  match s.bindings.get? name with
  | some t => .ok t
  | none => .error (.unbound name)

def describe (s : Session) : String :=
  "Driver(source_dir=" ++ s.setup.source.toString ++ ", build_dir=" ++ s.setup.build.toString ++ ")"

end Session

namespace Pass

def report (level : Level) (source text : String) : Pass Unit :=
  modify fun s => s.logged ⟨level, source, text⟩

def makeDirectory (p : Path) : Pass Unit :=
  modify fun s => s.withDirectory p

/-- Lists a file as written. -/
def writeFile (p : Path) (text : String) : Pass Unit :=
  modify fun s => { s with written := s.written ++ [(p.toString, text)] }

/-- Changes the graph. Each target that has been registered is reported, even if the change is then refused. -/
def onGraph {α : Type} (change : Change α) : Pass α := fun s =>
  let (outcome, graph) := change.run s.graph
  let fresh := graph.targets.drop s.graph.targets.length
  (outcome, { s with
    graph := graph
    log := s.log ++ fresh.map fun t => LogLine.registered (graph.node t) })

/-- Runs something in a scope and leaves the scope however that ends. -/
def inScope {ε α : Type} (scope : Scope) (action : ExceptT ε (StateM Session) α) :
    ExceptT ε (StateM Session) α := fun s =>
  let (outcome, after) := action.run { s with scopes := s.scopes.push scope }
  (outcome, { after with scopes := after.scopes.pop })

end Pass
end BuildTree
