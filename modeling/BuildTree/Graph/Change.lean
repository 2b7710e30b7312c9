import BuildTree.Graph.Basic

/-!
# Changes of the build graph

Registering a target claims its outputs. While there is a target for the configure pass, the first target of a
partition claims the file of that partition for the pass. Every check comes before the first claim, so a refused
registration changes nothing. A tag enters the tag table before its group is registered.
-/

namespace BuildTree.Graph

def refuse {α : Type} (r : Rejection) (location : Option Location) : Change α :=
  throw (.configuration r location)

def ensure (outcome : Except Fault Unit) : Change Unit := fun g =>
  (outcome, g)

/-- Gives a target a place, without registering it. -/
def allocate (t : Target) : Change TargetId := do
  let g ← get
  set { g with nodes := g.nodes.push t }
  return ⟨g.nodes.size⟩

/-- The file of a partition that a target would be the first of. -/
def openedPartition (g : Graph) (t : Target) : Option String :=
  match g.pass, t.partition with
  | none, _ => none
  | some _, .null => none
  | some _, p => if g.partitions.any (·.same p) then none else some (g.generatedPath (g.partitionFile p))

/-- The partition that a target would be the first of, if the pass is to write its file. -/
def opened (g : Graph) (t : Target) : List Given :=
  if (g.openedPartition t).isSome then [t.partition] else []

def registered (g : Graph) (id : TargetId) : Graph :=
  let t := g.node id
  let claims := g.claims.insertKeys t.allOutputs id
  { g with
    claims := match g.openedPartition t, g.pass with
      | some file, some pass => claims.insert file pass
      | _, _ => claims
    targets := g.targets ++ [id]
    named := if t.isGroup then g.named.insert t.name id else g.named }

/-- Refuses partitions of which one has no text to name its file after. -/
def checkSpelled (g : Graph) (partitions : List Given) : Except Fault Unit :=
  if partitions.all fun p => (g.text? p).isSome then .ok () else .error Value.unwritable

/-- Registers a target, unless one of its outputs or the file it opens belongs to another one. -/
def register (id : TargetId) : Change Unit := do
  let g ← get
  let t := g.node id
  ensure (g.checkSpelled (g.opened t))
  ensure (g.checkUnclaimed t.allOutputs t.definedAt none)
  match g.openedPartition t with
  | some file => ensure (g.checkUnclaimed [file] t.definedAt g.pass)
  | none => pure ()
  set (g.registered id)

def passClaims (g : Graph) (t : Target) : List String :=
  t.outputs.map g.generatedPath ++ g.partitions.map fun p => g.generatedPath (g.partitionFile p)

/-- Makes a target the one that stands for the pass, unless one of its files belongs to another target. -/
def setPass (id : TargetId) : Change Unit := do
  let g ← get
  let t := g.node id
  ensure (g.checkSpelled g.partitions)
  ensure (g.checkUnclaimed (g.passClaims t) t.definedAt g.pass)
  set { g with pass := some id, claims := g.claims.insertKeys (g.passClaims t) id }

def addGenerated (path : String) (location : Option Location) : Change Unit := do
  let g ← get
  match g.pass with
  | none => refuse (.noPass path) location
  | some pass =>
    let output := g.generatedPath path
    ensure (g.checkUnclaimed [output] location (some pass))
    if !(g.node pass).isPass then throw .missingAttribute
    let g := g.modifyNode pass (Target.addOutput path)
    set { g with claims := g.claims.insert output pass }

/-- Refuses what is named by something else than a text and belongs to another target than the one allowed. -/
def checkOther (g : Graph) (name : Given) (location : Option Location) (allowed : Option TargetId) :
    Except Fault Unit :=
  match g.otherClaims.get? name with
  | none => .ok ()
  | some t =>
    if some t = allowed then .ok ()
    else .error (g.refusal name location fun shown => .duplicateOutput shown (g.owner t))

/-- Records something that the pass writes and that is named by something else than a text. -/
def addOtherGenerated (name : Given) (location : Option Location) : Change Unit := do
  let g ← get
  if g.pass.isNone || !name.isKey then throw .typeMismatch
  ensure (g.checkOther name location g.pass)
  match g.pass with
  | none => throw .typeMismatch
  | some pass =>
    if !(g.node pass).isPass then throw .missingAttribute
    match g.text? name with
    | none => throw Value.unwritable
    | some text =>
      let g := g.modifyNode pass (Target.addOutput text)
      set { g with otherClaims := g.otherClaims.insert name pass }

/-- The group of a tag; the first use makes it. -/
def tag (name : String) (location : Option Location) : Change TargetId := do
  match (← get).tags.get? name with
  | some id => return id
  | none =>
    let id ← allocate (Target.emptyGroup (tagPrefix ++ name) location)
    modify fun g => { g with tags := g.tags.insert name id }
    register id
    return id

def addInputs (id : TargetId) (deps : List Dependency) : Change Unit :=
  modify fun g => g.modifyNode id fun t => { t with inputs := t.inputs ++ deps }

def addImplicitInputs (id : TargetId) (deps : List Dependency) : Change Unit :=
  modify fun g => g.modifyNode id fun t => { t with implicitInputs := t.implicitInputs ++ deps }

def setMetadata (id : TargetId) (entries : Record TargetId) : Change Unit :=
  modify fun g => g.modifyNode id fun t => { t with metadata := t.metadata.insertAll entries }

/-- Attaches a dependency to tags, once for each time a tag is listed. -/
def attach (dep : Dependency) (location : Option Location) : List String → Change Unit
  | [] => pure ()
  | name :: rest => do
    let group ← tag name location
    addImplicitInputs group [dep]
    attach dep location rest

def deepEnough : PoolDepth → Bool
  | .whole n => 1 ≤ n
  | .fraction x => !(x < 1.0)
  | .yes => true

/-- Declares a pool; a later depth replaces an earlier one. -/
def declarePool (name : Given) (depth : PoolDepth) (location : Option Location) : Change Unit := do
  if isConsole name then refuse .consolePool location
  if !deepEnough depth then throw ((← get).refusal name location .shallowPool)
  if !name.isKey then throw .typeMismatch
  modify fun g => { g with pools := g.pools.insert name depth }

/-- The graph that a pass starts from: it has the default tag alone. -/
def start (buildDir : Option String) : Graph :=
  ((tag defaultTag none).run (blank buildDir)).2

end BuildTree.Graph
