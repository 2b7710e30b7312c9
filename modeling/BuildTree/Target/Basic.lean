import BuildTree.Fault
import BuildTree.Table
import BuildTree.Text.ShellWord
import BuildTree.Value.Text

/-!
# Targets

A target is one build step: what it does, what it makes and what it needs. It always has a first output, which
is its name in messages. Dependencies are literal paths or other targets; a target stands for its outputs, which
are looked up only when the build is written. The partition, the pool, the rule, the compiler and the command of the
configure pass are kept as they were given; whether they can be used is found out when the build is written.
-/

namespace BuildTree

/-- The place of a target among all those made so far. -/
structure TargetId where
  index : Nat
deriving DecidableEq, Repr, Inhabited

abbrev Given :=
  Value TargetId

inductive Dependency where
  | target (t : TargetId)
  | path (p : String)
deriving DecidableEq, Repr, Inhabited

/-- A command: a line for the shell, or arguments that are quoted one by one. -/
inductive Command where
  | line (text : String)
  | arguments (args : List String)
deriving DecidableEq, Repr, Inhabited

def Command.shellLine : Command → String
  | .line text => text
  | .arguments args => Text.shellLine args

structure Recipe where
  commands : List Command
  cwd : String
  depfile : Option String
  env : Table String
  pool : Given
deriving Inhabited

/-- A run of a compiler: over one source, or over objects to link. -/
structure Compilation where
  rule : Given
  compiler : Given
  flags : List String
  root : String
deriving Inhabited

inductive Action where
  | nothing
  | group
  | run (recipe : Recipe)
  | compile (compilation : Compilation)
  | copy
  | reconfigure (command : List Given)
deriving Inhabited

def Action.rule : Action → Given
  | .nothing => .text "phony"
  | .group => .text "phony"
  | .run _ => .text "command"
  | .compile c => c.rule
  | .copy => .text "copy"
  | .reconfigure _ => .text "reconfigure"

def Action.kind : Action → String
  | .nothing => "Target"
  | .group => "AliasTarget"
  | .run _ => "CommandTarget"
  | .compile _ => "CompileTarget"
  | .copy => "CopyTarget"
  | .reconfigure _ => "ReconfigureTarget"

structure Target where
  action : Action
  name : String
  otherOutputs : List String
  inputs : List Dependency
  implicitInputs : List Dependency
  implicitOutputs : List String
  orderOnlyInputs : List Dependency
  metadata : Record TargetId
  partition : Given
  definedAt : Option Location
deriving Inhabited

namespace Target

/-- The outputs that the rule is told about, the first of them the name. -/
def outputs (t : Target) : List String :=
  t.name :: t.otherOutputs

def allOutputs (t : Target) : List String :=
  t.outputs ++ t.implicitOutputs

def describe (t : Target) : String :=
  t.action.kind ++ "(" ++ Text.quoted t.name ++ ")"

def isPass (t : Target) : Bool :=
  match t.action with
  | .reconfigure _ => true
  | _ => false

def isGroup (t : Target) : Bool :=
  match t.action with
  | .group => true
  | _ => false

def emptyGroup (name : String) (definedAt : Option Location) : Target where
  action := .group
  name := name
  otherOutputs := []
  inputs := []
  implicitInputs := []
  implicitOutputs := []
  orderOnlyInputs := []
  metadata := []
  partition := .null
  definedAt := definedAt

/-- Where the target for the configure pass is declared: in no script. -/
def passLocation : Location :=
  .line "<kiln>" (some 0)

/-- A target for the configure pass, which makes these files by a command. -/
def pass (name : String) (otherOutputs : List String) (command : List Given) : Target where
  action := .reconfigure command
  name := name
  otherOutputs := otherOutputs
  inputs := []
  implicitInputs := []
  implicitOutputs := []
  orderOnlyInputs := []
  metadata := []
  partition := .null
  definedAt := some passLocation

/-- The target with a dependency on a path, once. -/
def addInputPath (path : String) (t : Target) : Target :=
  if t.inputs.contains (.path path) then t else { t with inputs := t.inputs ++ [.path path] }

def addOutput (output : String) (t : Target) : Target :=
  if t.outputs.contains output then t else { t with otherOutputs := t.otherOutputs ++ [output] }

end Target
end BuildTree
