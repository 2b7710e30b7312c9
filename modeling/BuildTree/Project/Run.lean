import BuildTree.Config.Snapshot
import BuildTree.Ninja.Emit
import BuildTree.Project.Call
import BuildTree.Project.Complaint

/-!
# Running scripts

Statements run one after the other. A fault passes through every statement around the one it comes from, and the
trace tells of each; an attempt ends it. Leaving a script, a foreign fault becomes the failure of that script,
located at the statement it came from. Scopes are left however a statement ends.

A script can enter directories whose scripts enter further ones; how deep is bounded.
-/

namespace BuildTree

/-- A fault on its way out of a script, and where in the script it came from. -/
structure Failure where
  fault : Fault
  origin : Option Location

abbrev Eval (α : Type) :=
  ExceptT Failure (StateM Session) α

/-- The script that is running, and how it enters a directory. -/
structure ScriptFrame where
  script : Path
  enter : Option Location → Given → Pass Unit

namespace ScriptFrame

def place (frame : ScriptFrame) (line : Nat) : Location :=
  .line frame.script.toString (some line)

end ScriptFrame

namespace Eval

def ofPass {α : Type} (action : Pass α) : Eval α :=
  action.adapt fun fault => ⟨fault, none⟩

/-- Ends a statement: its outcome or its fault goes into the trace, and a fault from nowhere comes from it. -/
def ended (place : Location) (action : Eval Outcome) : Eval Outcome := fun s =>
  match action.run s with
  | (.ok outcome, s) => (.ok outcome, { s with trace := s.trace ++ [⟨place, outcome⟩] })
  | (.error failure, s) =>
    (.error { failure with origin := failure.origin <|> some place },
      { s with trace := s.trace ++ [⟨place, .failed failure.fault⟩] })

/-- Whether something went wrong, and what. -/
def attempted (action : Eval Unit) : Eval Outcome := fun s =>
  match action.run s with
  | (.ok _, s) => (.ok (.caught none), s)
  | (.error failure, s) => (.ok (.caught (some failure.fault)), s)

end Eval

namespace Pass

/-- The arguments of a statement, with the targets that its names are bound to. -/
def resolveArguments (args : Arguments String) : Pass (Arguments TargetId) := do
  let s ← get
  (args.resolve s.boundTarget : Except Fault (Arguments TargetId))

def bindOutcome (name : Option String) (outcome : Outcome) : Pass Unit :=
  match name, outcome with
  | some name, .target t _ => modify fun s => { s with bindings := s.bindings.insert name t }
  | _, _ => pure ()

def callStatement (here : Location) (verb : Verb) (args : Arguments String) (on bindTo : Option String) :
    Pass Outcome := do
  let args ← resolveArguments args
  let outcome ← perform (some here) verb on args
  bindOutcome bindTo outcome
  return outcome

def subdirStatement (here : Location) (enter : Option Location → Given → Pass Unit)
    (args : Arguments String) : Pass Outcome := do
  let b ← bound (.places ["path"]) (← resolveArguments args)
  enter (some here) (b.get "path")
  return .nothing

/-- Where a block that cannot be opened is blamed on: no line of a script opens it. -/
def blockLocation : Location :=
  .named "<runtime>"

def projectScope (args : Arguments String) : Pass Scope := do
  let b ← bound (.places ["name"]) (← resolveArguments args)
  match b.get "name" with
  | .text name => match (← get).scopes.current.inProject name with
    | .ok scope => return scope
    | .error r => throw (.configuration r (some blockLocation))
  | _ => throw .missingAttribute

end Pass

mutual

def runBody (frame : ScriptFrame) : List Statement → Eval Unit
  | [] => pure ()
  | statement :: rest => do
    let _ ← runStatement frame statement
    runBody frame rest

def runStatement (frame : ScriptFrame) : Statement → Eval Outcome
  | .call line verb args on bindTo =>
    Eval.ended (frame.place line) (Eval.ofPass (Pass.callStatement (frame.place line) verb args on bindTo))
  | .subdir line args =>
    Eval.ended (frame.place line) (Eval.ofPass (Pass.subdirStatement (frame.place line) frame.enter args))
  | .project line args body =>
    Eval.ended (frame.place line) do
      let scope ← Eval.ofPass (Pass.projectScope args)
      Pass.inScope scope (runBody frame body)
      return .scope scope
  | .attempt line body =>
    Eval.ended (frame.place line) (Eval.attempted (runBody frame body))
  | .raise line complaint =>
    Eval.ended (frame.place line) (throw ⟨complaint.fault frame.script.toString, none⟩)

end

namespace Pass

def runSource : String :=
  "kiln.core.driver"

/-- Notes a script as read: the pass depends on it. -/
def enterScript (script : Path) : Pass Unit := do
  addPassInput (.path script)
  modify fun s => { s with scripts := s.scripts ++ [script] }
  report .debug runSource
    ("Evaluating " ++ script.toString ++ " (scope " ++ (← get).scopes.current.directory.toString ++ ")")

/-- Runs the statements of a script; a foreign fault leaves it as the failure of the script. -/
def runStatements (frame : ScriptFrame) (body : List Statement) : Pass Unit :=
  (runBody frame body).adapt fun failure => failure.fault.leaving frame.script.toString failure.origin

def childScope (here : Option Location) (path : Given) : Pass Scope := do
  let p ← (Argument.path path : Except Fault Path)
  match (← get).scopes.current.child p p.toString with
  | .ok scope => return scope
  | .error r => throw (.configuration r here)

/-- Runs the script of a directory below the current one, after making the directory in the build tree. -/
def enterDirectory (run : Option Location → Path → Pass Unit) (here : Option Location) (path : Given) :
    Pass Unit := do
  let scope ← childScope here path
  inScope scope do
    let s ← get
    makeDirectory s.buildDir
    let name ← (Argument.path s.setup.scriptName : Except Fault Path)
    run here (s.sourceDir.join name)

/-- Runs a script, which can enter directories to the given depth. One that does not load is noted as read all the
same. -/
def runScript : Nat → Option Location → Path → Pass Unit
  | 0, _, _ => throw (.raised "RecursionError" "maximum recursion depth exceeded")
  | depth + 1, here, script => do
    match (← get).files.get? script.toString with
    | some (.script body) =>
      enterScript script
      runStatements ⟨script, enterDirectory (runScript depth)⟩ body
    | some (.unloadable fault) =>
      enterScript script
      throw (fault.leaving script.toString none)
    | some (.unreachable kind reason) => throw (FileEntry.refusal kind reason script.toString)
    | _ =>
      modify fun s => { s with missing := s.missing ++ [script] }
      throw (.script script.toString "configuration script not found" here)

def maxDepth : Nat :=
  200

def runScripts : List Path → Pass Unit
  | [] => pure ()
  | script :: rest => do
    runScript maxDepth none script
    runScripts rest

/-- Runs the preloaded scripts and then the tree of scripts from its root. -/
def configure : Pass Unit := do
  let setup := (← get).setup
  makeDirectory setup.build
  runScripts setup.preloads
  enterDirectory (runScript maxDepth) none (.text ".")
  let s ← get
  report .info runSource ("Configured " ++ toString s.graph.targets.length ++ " targets from "
    ++ toString s.scripts.length ++ " scripts")

def writeSource : String :=
  "kiln.generators.ninja"

def writeFiles (dir : Path) : Table String → Pass Unit
  | [] => pure ()
  | (name, text) :: rest => do
    let path := dir.child name
    writeFile path text
    report .info writeSource ("Wrote " ++ path.toString)
    writeFiles dir rest

def reportObstacle (fault : Ninja.EmitFault) : Pass Unit :=
  match fault.target? with
  | some name => report .error writeSource ("Failed to serialize " ++ name)
  | none => pure ()

/-- Writes the build, all of it or nothing. -/
def writeBuild : Pass Unit := do
  let s ← get
  makeDirectory s.setup.build
  match Ninja.emit s.graph s.setup.interpreter with
  | .ok files => writeFiles s.setup.build files
  | .error fault =>
    reportObstacle fault
    throw fault.fault

/-- Writes the snapshot of the configuration, as far as it can be written with room for as many lists and records, one
in another. -/
def writeSnapshot (room : Nat) : Pass Unit := do
  let s ← get
  let path := s.setup.build.child Config.snapshotFile
  let written := Config.snapshot room s.graph.describe s.config
  makeDirectory s.setup.build
  writeFile path (String.ofList written.chars)
  if let some f := written.stopped then throw f.fault
  report .info "kiln.configure.config" ("Wrote configuration snapshot " ++ path.toString)

def write (room : Nat) : Pass Unit := do
  writeBuild
  writeSnapshot room

end Pass

namespace Setup

def command (setup : Setup) : List String :=
  [setup.interpreter, "-m", "kiln.cli", "configure", "-S", setup.source.toString, "-B", setup.build.toString]
    ++ setup.preloads.flatMap (fun p => ["--preload", p.toString])
    ++ setup.settings.map fun (key, value) => key ++ "=" ++ value

end Setup

namespace Session

def passTarget (setup : Setup) : Target :=
  Target.pass Ninja.buildFile [Ninja.rulesFile, Config.snapshotFile] (setup.command.map .text)

def startGraph (setup : Setup) : Graph :=
  ((do Graph.setPass (← Graph.allocate (passTarget setup)) : Change Unit).run
    (Graph.start (some setup.build.toString))).2

def start (setup : Setup) (files : FileTree) : Session where
  setup := setup
  files := files
  config := Config.nest (setup.settings.map fun (key, value) => (key, .text value))
  graph := startGraph setup
  scripts := []
  missing := []
  scopes := ScopeStack.root
  bindings := []
  directories := []
  written := []
  trace := []
  log := (startGraph setup).targets.map fun t => LogLine.registered ((startGraph setup).node t)

end Session
end BuildTree
