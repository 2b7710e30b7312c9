import BuildTree.Project.Session
import BuildTree.Target.Assemble

/-!
# Declarations

What scripts declare. Relative inputs are seen from the source directory of the current scope, relative outputs
from its build directory, so every path in the graph is absolute. Nothing is declared unless all arguments fit and
the outputs are free; the tags of a declaration are attached afterwards.
-/

namespace BuildTree.Declare

/-- A path seen from a directory, in its normal spelling unless it is absolute already. -/
def placed (dir p : Path) : String :=
  if p.isAbsolute then p.toString else Path.normalize (dir.join p).toString

def src (s : Session) (value : Given) : Except Fault String :=
  (Argument.path value).map (placed s.sourceDir)

def out (s : Session) (value : Given) : Except Fault String :=
  (Argument.path value).map (placed s.buildDir)

/-- An input: a path is seen from the source directory, anything else stays as it is. -/
def input (s : Session) (value : Given) : Given :=
  match src s value with
  | .ok text => .text text
  | .error _ => value

def inputs (s : Session) (value : Given) : Except Fault (List Given) :=
  (Argument.items (Argument.oneDependency value)).map (·.map (input s))

/-- The outputs in an argument, each seen from the build directory. -/
def outs (s : Session) (value : Given) : Except Fault (List String) := do
  (← Argument.items value).mapM (out s)

/-- The outputs of a declaration, or a single one; there has to be one. -/
def outputs (s : Session) (here : Option Location) (value : Given) : Except Fault (String × List String) := do
  match ← outs s (Argument.onePath value) with
  | [] => throw (.configuration .noOutputs here)
  | first :: rest => return (first, rest)

def givenTexts (texts : List String) : Given :=
  .list (texts.map .text)

/-- A place seen from the source directory, which is also what is meant if none was given. -/
def sourcePlace (s : Session) (value : Given) : Except Fault Given :=
  match value with
  | .null => .ok (.path s.sourceDir)
  | value => (src s value).map .text

/-- A place seen from the build directory, if one was given. -/
def outPlace? (s : Session) (value : Given) : Except Fault Given :=
  match value with
  | .null => .ok .null
  | value => (out s value).map .text

/-- The commands of a declaration, which gives them in exactly one of two ways. -/
def commandList (here : Option Location) (command commands : Given) : Except Fault Given :=
  match command, commands with
  | .null, .null => .error (.configuration .commandChoice here)
  | .null, commands => if commands.isGiven then (Argument.items commands).map .list else .ok (.list [])
  | command, .null => .ok (.list [command])
  | _, _ => .error (.configuration .commandChoice here)

def commandTarget (s : Session) (here : Option Location) (b : Bound TargetId) : Except Fault Target := do
  let commands ← commandList here (b.get "command") (b.get "commands")
  let (first, rest) ← outputs s here (b.get "outputs")
  let dependencies ← inputs s (b.getMany "dependencies")
  let cwd ← sourcePlace s (b.get "cwd")
  let depfile ← outPlace? s (b.get "depfile")
  let implicitInputs ← inputs s (b.getMany "implicit_inputs")
  let orderOnlyInputs ← inputs s (b.getMany "order_only_inputs")
  let implicitOutputs ← outs s (b.getMany "implicit_outputs")
  Target.assembleRecipe s.graph {
      outputs := givenTexts (first :: rest)
      inputs := .list dependencies
      implicitInputs := .list implicitInputs
      implicitOutputs := givenTexts implicitOutputs
      orderOnlyInputs := .list orderOnlyInputs
      metadata := b.get "metadata"
      partition := b.get "partition"
      definedAt := here } {
      commands := commands
      cwd := cwd
      depfile := depfile
      env := b.get "env"
      pool := b.get "pool" }

def checkCopied (g : Graph) (here : Option Location) (source : Given) : Except Fault Unit :=
  match source with
  | .target t =>
    let count := (g.node t).outputs.length
    if count = 1 then .ok () else .error (.configuration (.copiedOutputs (g.node t).name count) here)
  | _ => .ok ()

def copyTarget (s : Session) (here : Option Location) (b : Bound TargetId) : Except Fault Target := do
  checkCopied s.graph here (b.get "src")
  let (dest, _) ← outputs s here (b.get "dest")
  Target.assembleCopy s.graph {
    outputs := givenTexts [dest]
    inputs := .list [input s (b.get "src")]
    implicitInputs := .list []
    implicitOutputs := .list []
    orderOnlyInputs := .list []
    metadata := b.get "metadata"
    partition := b.get "partition"
    definedAt := here }

/-- Flags from the configuration: many, a single one, or none. -/
def configFlags (s : Session) (key : String) : Except Fault (List Given) :=
  match (Config.get? s.config key).getD .null with
  | .null => .ok []
  | value => (Argument.texts s.graph (Argument.oneText value)).map (·.map .text)

def configCompiler (s : Session) : Given :=
  (Config.get? s.config "toolchain.cc").getD (.text "cc")

/-- The linker that the configuration names; the compiler if it names none. -/
def configLinker (s : Session) : Given :=
  (Config.get? s.config "toolchain.ld").getD (configCompiler s)

def firstGiven (value default : Given) : Given :=
  if value.isGiven then value else default

def compilerTarget (s : Session) (here : Option Location) (rule : String) (inputList : List Given)
    (compiler : Given) (flags : List Given) (b : Bound TargetId) : Except Fault Target := do
  let (output, _) ← outputs s here (b.get "output")
  let compiler ← Argument.text s.graph compiler
  let flags ← flags.mapM (Argument.text s.graph)
  let root ← sourcePlace s (b.get "root")
  let implicitInputs ← inputs s (b.getMany "implicit_inputs")
  let orderOnlyInputs ← inputs s (b.getMany "order_only_inputs")
  Target.assembleCompilation s.graph {
      outputs := givenTexts [output]
      inputs := .list (inputList.map (input s))
      implicitInputs := .list implicitInputs
      implicitOutputs := .list []
      orderOnlyInputs := .list orderOnlyInputs
      metadata := b.get "metadata"
      partition := b.get "partition"
      definedAt := here } {
      rule := .text rule
      compiler := .text compiler
      flags := givenTexts flags
      root := root }

/-- A target that compiles one source; the flags of the configuration come first. -/
def compileTarget (s : Session) (here : Option Location) (b : Bound TargetId) : Except Fault Target := do
  match b.get "source", b.get "objects" with
  | .null, _ => throw (.configuration .compileSources here)
  | source, .null =>
    let first ← configFlags s "toolchain.cflags"
    let own ← Argument.items (b.getMany "flags")
    compilerTarget s here "compile" [source] (firstGiven (b.get "compiler") (configCompiler s)) (first ++ own) b
  | _, _ => throw (.configuration .compileSources here)

/-- The objects of a link declaration, none if none were given. -/
def linkObjects (s : Session) (value : Given) : Except Fault (List Given) :=
  match value with
  | .null => .ok []
  | value => inputs s value

/-- A target that links objects; the flags of the configuration come last. -/
def linkTarget (s : Session) (here : Option Location) (b : Bound TargetId) : Except Fault Target := do
  let objects ← linkObjects s (b.get "objects")
  match objects, b.get "source" with
  | [], _ => throw (.configuration .linkObjects here)
  | objects, .null =>
    let own ← Argument.items (b.getMany "flags")
    let last ← configFlags s "toolchain.ldflags"
    compilerTarget s here "link" objects (firstGiven (b.get "compiler") (configLinker s)) (own ++ last) b
  | _, _ => throw (.configuration .linkObjects here)

/-- The metadata of a target at a field, which has to be a key. -/
def fieldOf? (g : Graph) (source : Target) (field : Given) : Except Fault (Option (Key × Given)) :=
  (Argument.entryKey g field).map fun key => (source.metadata.get? key).map (key, ·)

/-- The metadata of a target at some fields, each of which it has to have. -/
def inheritedFields (g : Graph) (here : Option Location) (group : Given) (source : Target) :
    List Given → Except Fault (Record TargetId)
  | [] => .ok []
  | field :: rest => do
    match ← fieldOf? g source field, g.shown? group with
    | none, some shownGroup =>
      throw (g.refusal field here fun shownField => .inheritsMissing shownGroup shownField source.name)
    | none, none => throw Value.unwritable
    | some entry, _ => return Table.insertAll [entry] (← inheritedFields g here group source rest)

/-- The metadata that a group takes over from the only target in it. -/
def inherited (g : Graph) (here : Option Location) (group : Given) (fields dependencies : List Given) :
    Except Fault (Record TargetId) :=
  match fields, dependencies with
  | [], _ => .ok []
  | fields, [.target t] => inheritedFields g here group (g.node t) fields
  | _, dependencies =>
    .error (g.refusal group here fun shownGroup => .inheritsFromMany shownGroup dependencies.length)

/-- The name of a group in a scope: an open project makes it a text. -/
def qualified (g : Graph) (scope : Scope) (name : Given) : Except Fault Given :=
  if scope.project = "" then .ok name
  else (Argument.text g name).map fun text => .text (scope.qualify text)

/-- A named group, whose name belongs to the open project. -/
def groupTarget (s : Session) (here : Option Location) (b : Bound TargetId) : Except Fault Target := do
  let fields ← Argument.items (Argument.oneText (b.getMany "inherit_metadata"))
  let name ← qualified s.graph s.scopes.current (b.get "name")
  let metadata ← inherited s.graph here name fields b.rest
  Target.assembleGroup s.graph {
    outputs := .list [name]
    inputs := .list (b.rest.map (input s))
    implicitInputs := .list []
    implicitOutputs := .list []
    orderOnlyInputs := .list []
    metadata := .record metadata
    partition := b.get "partition"
    definedAt := here }

/-- Registers a target and attaches it to its tags. -/
def add (here : Option Location) (t : Target) (tags : Given) : Change TargetId := do
  let id ← Graph.allocate t
  Graph.register id
  Graph.attachGiven (.target id) (Argument.oneText tags) here
  return id

/-- The keywords of every declaration of a compiler run. -/
def compilerKeywords : List String :=
  ["source", "objects", "compiler", "flags", "root", "tags", "implicit_inputs", "order_only_inputs", "metadata",
    "partition"]

inductive Kind where
  | command
  | copy
  | compile
  | link
  | group
deriving DecidableEq, Repr

def Kind.signature : Kind → Signature
  | .command =>
    ⟨["outputs", "dependencies"], ["outputs"],
      ["command", "commands", "cwd", "depfile", "pool", "env", "tags", "implicit_inputs", "order_only_inputs",
        "implicit_outputs", "metadata", "partition"], false⟩
  | .copy => ⟨["dest", "src"], ["dest", "src"], ["tags", "metadata", "partition"], false⟩
  | .compile => ⟨["output"], ["output"], compilerKeywords, false⟩
  | .link => ⟨["output"], ["output"], compilerKeywords, false⟩
  | .group => ⟨["name"], ["name"], ["inherit_metadata", "tags", "partition"], true⟩

def Kind.target (kind : Kind) (s : Session) (here : Option Location) (b : Bound TargetId) : Except Fault Target :=
  match kind with
  | .command => commandTarget s here b
  | .copy => copyTarget s here b
  | .compile => compileTarget s here b
  | .link => linkTarget s here b
  | .group => groupTarget s here b

end Declare

def Pass.declare (kind : Declare.Kind) (here : Option Location) (args : Arguments TargetId) : Pass TargetId := do
  match kind.signature.bind? args with
  | none => throw .typeMismatch
  | some b =>
    let t ← (kind.target (← get) here b : Except Fault Target)
    Pass.onGraph (Declare.add here t (b.getMany "tags"))

end BuildTree
