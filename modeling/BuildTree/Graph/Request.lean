import BuildTree.Arguments.Reading
import BuildTree.Graph.Change
import BuildTree.Graph.Find

/-!
# Changes asked for with arguments

The changes of a graph as scripts ask for them. Where several things are added one by one, those before the first
one that does not fit stay added.
-/

namespace BuildTree.Graph

/-- Adds values to the dependencies of a target by one of the two ways to add some. -/
def addLeading (add : List Dependency → Change Unit) (values : List Given) : Change Unit := do
  let (deps, outcome) := Argument.leadingDependencies (← get) values
  add deps
  ensure outcome

def depends (id : TargetId) (values : List Given) : Change Unit :=
  addLeading (addInputs id) values

def dependsImplicitly (id : TargetId) (values : List Given) : Change Unit :=
  addLeading (addImplicitInputs id) values

/-- Adds to a group; other targets have nothing to add to. -/
def addToGroup (id : TargetId) (values : List Given) : Change Unit := do
  if !((← get).node id).isGroup then throw .missingAttribute
  dependsImplicitly id values

def addPassInput (id : TargetId) (value : Given) : Change Unit := do
  let g ← get
  if !(g.node id).isPass then throw .missingAttribute
  let text ← (Argument.text g value : Except Fault String)
  set (g.modifyNode id (Target.addInputPath text))

def addPassOutput (id : TargetId) (value : Given) : Change Unit := do
  let g ← get
  if !(g.node id).isPass then throw .missingAttribute
  let text ← (Argument.text g value : Except Fault String)
  set (g.modifyNode id (Target.addOutput text))

def targetOf (value : Given) : Except Fault TargetId :=
  match value with
  | .target t => .ok t
  | _ => .error .missingAttribute

def findGiven (g : Graph) (value : Given) : Except Fault TargetId :=
  match value with
  | .text s => g.find (.spelled s)
  | .pattern source ignoreCase => do g.find (.compiled source (← Pattern.compile source ignoreCase))
  | _ => .error .missingAttribute

/-- Attaches an argument to the tags met when going through another one; every tag has to be a text. An argument
that cannot be depended on is found out at the first tag, which is there from then on. -/
def attachGiven (value tags : Given) (location : Option Location) : Change Unit := do
  let values ← (Argument.items tags : Except Fault (List Given))
  let (names, outcome) := Argument.leadingTexts values
  match Argument.dependency (← get) value, names with
  | .ok dep, names => attach dep location names
  | .error _, [] => pure ()
  | .error fault, name :: _ =>
    let _ ← tag name location
    throw fault
  ensure outcome

/-- Records what the pass writes, from an argument. A relative path is seen from the build directory like a text.
Without a build directory any key is a name. The message about a missing pass needs a text. -/
def addGivenGenerated (name : Given) (location : Option Location) : Change Unit := do
  match name, (← get).pass, (← get).buildDir with
  | .text s, _, _ => addGenerated s location
  | .path p, some _, some _ =>
    if p.isAbsolute then addOtherGenerated (.path p) location else addGenerated p.toString location
  | name, some _, none => addOtherGenerated name location
  | _, _, _ => throw .typeMismatch

/-- Declares a pool from arguments; the name is judged before the depth. -/
def declareGivenPool (name depth : Given) (location : Option Location) : Change Unit := do
  if isConsole name then refuse .consolePool location
  let depth ← (Argument.depth depth : Except Fault PoolDepth)
  declarePool name depth location

end BuildTree.Graph
