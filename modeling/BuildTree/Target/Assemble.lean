import BuildTree.Arguments.Reading

/-!
# Making targets

A target is made from arguments that are read in a fixed order, so that the first one that does not fit decides
what is reported: outputs, the dependencies, the metadata, and then what belongs to the action. What is kept as it was
given always fits. A target that is made is not registered yet.
-/

namespace BuildTree

structure TargetParts where
  outputs : Given
  inputs : Given
  implicitInputs : Given
  implicitOutputs : Given
  orderOnlyInputs : Given
  metadata : Given
  partition : Given
  definedAt : Option Location

structure RecipeParts where
  commands : Given
  cwd : Given
  depfile : Given
  env : Given
  pool : Given

structure CompilationParts where
  rule : Given
  compiler : Given
  flags : Given
  root : Given

namespace Target

/-- Reads the parts of a target and leaves its action open; `kind` is the word for it in messages. -/
def assemble (g : Graph) (kind : String) (p : TargetParts) : Except Fault (Action → Target) := do
  match ← Argument.texts g (Argument.onePath p.outputs) with
  | [] => throw (.configuration (.withoutOutputs kind) p.definedAt)
  | name :: otherOutputs =>
    let inputs ← Argument.dependencies g p.inputs
    let implicitInputs ← Argument.dependencies g p.implicitInputs
    let implicitOutputs ← Argument.texts g p.implicitOutputs
    let orderOnlyInputs ← Argument.dependencies g p.orderOnlyInputs
    let metadata ← Argument.table g p.metadata
    return fun action => {
      action := action
      name := name
      otherOutputs := otherOutputs
      inputs := inputs
      implicitInputs := implicitInputs
      implicitOutputs := implicitOutputs
      orderOnlyInputs := orderOnlyInputs
      metadata := metadata
      partition := p.partition
      definedAt := p.definedAt }

def assemblePlain (g : Graph) (p : TargetParts) : Except Fault Target := do
  return (← assemble g "Target" p) .nothing

def assembleGroup (g : Graph) (p : TargetParts) : Except Fault Target := do
  return (← assemble g "AliasTarget" p) .group

def assembleCopy (g : Graph) (p : TargetParts) : Except Fault Target := do
  return (← assemble g "CopyTarget" p) .copy

def givenText (g : Graph) (value : Given) : Except Fault (Option String) :=
  match value with
  | .null => .ok none
  | value => (Argument.text g value).map some

/-- A target that runs commands, at least one. -/
def assembleRecipe (g : Graph) (p : TargetParts) (r : RecipeParts) : Except Fault Target := do
  let target ← assemble g "CommandTarget" p
  if !r.commands.isGiven then throw (.configuration (.noCommands (target .nothing).name) p.definedAt)
  let commands ← Argument.commands g r.commands
  let cwd ← Argument.text g r.cwd
  let depfile ← givenText g r.depfile
  let env ← Argument.textTable g r.env
  return target (.run {
    commands := commands
    cwd := cwd
    depfile := depfile
    env := env
    pool := r.pool })

def assembleCompilation (g : Graph) (p : TargetParts) (c : CompilationParts) : Except Fault Target := do
  let target ← assemble g "CompileTarget" p
  let flags ← Argument.texts g c.flags
  let root ← Argument.text g c.root
  return target (.compile {
    rule := c.rule
    compiler := c.compiler
    flags := flags
    root := root })

def assemblePass (g : Graph) (outputs command : Given) : Except Fault Target := do
  let target ← assemble g "ReconfigureTarget" {
    outputs := outputs
    inputs := .list []
    implicitInputs := .list []
    implicitOutputs := .list []
    orderOnlyInputs := .list []
    metadata := .null
    partition := .null
    definedAt := some passLocation }
  return target (.reconfigure (← Argument.items command))

end Target
end BuildTree
