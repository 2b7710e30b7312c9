import BuildTree.Project.Declare

/-!
# What a statement asks for

Everything a statement can ask for except running other statements. `here` is the place of the statement; faults
about declarations point there.
-/

namespace BuildTree.Pass

def bound (s : Signature) (args : Arguments TargetId) : Pass (Bound TargetId) :=
  match s.bind? args with
  | some b => return b
  | none => throw .typeMismatch

def shown (t : TargetId) : Pass Outcome := do
  return .target t ((← get).graph.node t)

def told (text : String) : Outcome :=
  .value (.text text)

def subject (name : Option String) : Pass TargetId := do
  match name with
  | none => throw .missingAttribute
  | some name => match (← get).bindings.get? name with
    | some t => return t
    | none => throw (.unbound name)

def find (pattern : Given) : Pass TargetId := do
  ((← get).graph.findGiven pattern : Except Fault TargetId)

def tag (name : Given) (here : Option Location) : Pass TargetId := do
  let name ← (Argument.exactText name : Except Fault String)
  onGraph (Graph.tag name here)

def markGenerated (path : Given) (here : Option Location) : Pass Unit := do
  let file ← (Declare.out (← get) path : Except Fault String)
  onGraph (Graph.addGenerated file here)

def addPassInput (path : Given) : Pass Unit := do
  match (← get).graph.pass with
  | none => throw .missingAttribute
  | some pass => onGraph (Graph.addPassInput pass path)

/-- Repeats the pass whenever a path changes. -/
def reconfigureOn (path : Given) : Pass Unit := do
  let file ← (Declare.src (← get) path : Except Fault String)
  addPassInput (.text file)

/-- Lays a delta over the configuration; a transform that fails leaves it as it was. -/
def extendConfig (delta : Given) : Pass Given := do
  let s ← get
  let config ← (Config.overlay s.config delta : Except Fault Given)
  set { s with config := config }
  return config

/-- The value of the configuration at a key, or another one if there is none. -/
def getConfig (key default : Given) : Pass Given := do
  match key with
  | .text key => return (Config.get? (← get).config key).getD default
  | _ => throw .missingAttribute

def setMetadata (t : TargetId) (args : Arguments TargetId) : Pass Unit := do
  if !args.positional.isEmpty || Table.has args.named "self" then throw .typeMismatch
  onGraph (Graph.setMetadata t (args.named.map fun (name, value) => (.text name, value)))

/-- Adds arguments to a target, each of them by its place. -/
def addItems (t : TargetId) (change : TargetId → List Given → Change Unit) (args : Arguments TargetId) :
    Pass Outcome := do
  if !args.named.isEmpty then throw .typeMismatch
  onGraph (change t args.positional)
  shown t

def declared (kind : Declare.Kind) (here : Option Location) (args : Arguments TargetId) : Pass Outcome := do
  shown (← declare kind here args)

def perform (here : Option Location) (verb : Verb) (on : Option String) (args : Arguments TargetId) :
    Pass Outcome := do
  match verb with
  | .command => declared .command here args
  | .copy => declared .copy here args
  | .compile => declared .compile here args
  | .link => declared .link here args
  | .group => declared .group here args
  | .find =>
    let b ← bound (.places ["pattern"]) args
    shown (← find (b.get "pattern"))
  | .tag =>
    let b ← bound (.places ["name"]) args
    shown (← tag (b.get "name") here)
  | .pool =>
    let b ← bound (.places ["name", "depth"]) args
    onGraph (Graph.declareGivenPool (b.get "name") (b.get "depth") here)
    return .nothing
  | .markGenerated =>
    let b ← bound (.places ["path"]) args
    markGenerated (b.get "path") here
    return .nothing
  | .reconfigureOn =>
    let b ← bound (.places ["path"]) args
    reconfigureOn (b.get "path")
    return .nothing
  | .src =>
    let b ← bound (.places ["path"]) args
    return told (← (Declare.src (← get) (b.get "path") : Except Fault String))
  | .out =>
    let b ← bound (.places ["path"]) args
    return told (← (Declare.out (← get) (b.get "path") : Except Fault String))
  | .extendConfig =>
    let b ← bound (.places ["delta"]) args
    return .value (← extendConfig (b.get "delta"))
  | .getConfig =>
    let b ← bound ⟨["key", "default"], ["key"], [], false⟩ args
    return .value (← getConfig (b.get "key") (b.get "default"))
  | .sourceDir => return .value (.path (← get).sourceDir)
  | .buildDir => return .value (.path (← get).buildDir)
  | .config => return .value (← get).config
  | .scope => return .scope (← get).scopes.current
  | .describe => return told ("ScriptContext(scope=" ++ (← get).scopes.current.describe ++ ")")
  | .add =>
    let t ← subject on
    addItems t Graph.addToGroup args
  | .depends =>
    let t ← subject on
    addItems t Graph.depends args
  | .dependsImplicitly =>
    let t ← subject on
    addItems t Graph.dependsImplicitly args
  | .setMetadata =>
    let t ← subject on
    setMetadata t args
    shown t
  | .unknown => throw .missingAttribute

end BuildTree.Pass
