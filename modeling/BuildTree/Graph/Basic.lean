import BuildTree.Path.Normal
import BuildTree.Target.Basic
import BuildTree.Value.Table

/-!
# The build graph

The graph holds every target made so far, in an arena, and which of them are registered, in order. An output
belongs to at most one registered target; files that the configure pass writes belong to the target that stands
for the pass, under their place in the build directory. What is named by something else than a text can be told by
the pass to be written too, and no target makes it. Groups are indexed by name. A tag is a group that is
made on first use; the tag `all` is there from the start.
-/

namespace BuildTree

inductive PoolDepth where
  | whole (n : Int)
  | fraction (x : Float)
  | yes

/-- The depth as a statement writes it, if it has a text. -/
def PoolDepth.text? : PoolDepth → Option String
  | .whole n => Text.writeInteger? n
  | .fraction x => some (Decimal.floatText "inf" "nan" x)
  | .yes => some "True"

structure Graph where
  nodes : Array Target
  targets : List TargetId
  claims : Table TargetId
  otherClaims : ValueTable TargetId TargetId
  named : Table TargetId
  tags : Table TargetId
  pools : ValueTable TargetId PoolDepth
  pass : Option TargetId
  buildDir : Option String
deriving Inhabited

/-- A change of the graph that can be refused. -/
abbrev Change (α : Type) :=
  ExceptT Fault (StateM Graph) α

namespace Graph

/-- What the names of tag groups begin with. -/
def tagPrefix : String :=
  "tags/"

/-- The tag that everything built by default is attached to. -/
def defaultTag : String :=
  "all"

def isConsole : Given → Bool
  | .text name => name = "console"
  | _ => false

def node (g : Graph) (t : TargetId) : Target :=
  g.nodes[t.index]?.getD default

def describe (g : Graph) (t : TargetId) : String :=
  (g.node t).describe

/-- A value where a text is wanted, if it has one. -/
def text? (g : Graph) (value : Given) : Option String :=
  value.text? g.describe

/-- The text of a value, nothing if it has none. -/
def text (g : Graph) (value : Given) : String :=
  value.toText g.describe

def shown? (g : Graph) (value : Given) : Option String :=
  value.literal? g.describe

/-- A value as a message shows it, nothing if it has no text. -/
def shown (g : Graph) (value : Given) : String :=
  value.literal g.describe

def refusal (g : Graph) (value : Given) (location : Option Location) (say : String → Rejection) : Fault :=
  match g.shown? value with
  | some shown => .configuration (say shown) location
  | none => Value.unwritable

def isRouted (g : Graph) (t : TargetId) : Bool :=
  match (g.node t).partition with
  | .null => false
  | _ => true

def partitions (g : Graph) : List Given :=
  ((g.targets.filter g.isRouted).map fun t => (g.node t).partition).foldl
    (fun seen p => if seen.any (·.same p) then seen else seen ++ [p]) []

/-- The place of a file that the pass writes: a relative name is seen from the build directory. -/
def generatedPath (g : Graph) (name : String) : String :=
  match g.buildDir with
  | none => name
  | some dir => if Path.isAbsoluteText name then name else Path.normalize (Path.joinText dir name)

def partitionFile (g : Graph) (p : Given) : String :=
  g.text p ++ ".ninja"

/-- Whom a message names as the owner of an output. -/
def owner (g : Graph) (t : TargetId) : Owner :=
  if (g.node t).isPass then .pass
  else match (g.node t).definedAt with
    | some l => .declared l
    | none => .unknown

/-- The first output that belongs to another target than the one allowed. -/
def firstTaken (g : Graph) (allowed : Option TargetId) : List String → Option (String × TargetId)
  | [] => none
  | output :: rest => match g.claims.get? output with
    | none => g.firstTaken allowed rest
    | some t => if some t = allowed then g.firstTaken allowed rest else some (output, t)

/-- Refuses outputs of which one belongs to another target than the one allowed. -/
def checkUnclaimed (g : Graph) (outputs : List String) (location : Option Location)
    (allowed : Option TargetId) : Except Fault Unit :=
  match g.firstTaken allowed outputs with
  | none => .ok ()
  | some (output, t) => .error (.configuration (.duplicateOutput (Text.quoted output) (g.owner t)) location)

/-- The outputs that the targets of dependencies have, and their paths, in order. -/
def resolve (g : Graph) (deps : List Dependency) : List String :=
  deps.flatMap fun
    | .target t => (g.node t).outputs
    | .path p => [p]

def group? (g : Graph) (name : String) : Option TargetId :=
  g.named.get? name

def modifyNode (g : Graph) (t : TargetId) (f : Target → Target) : Graph :=
  { g with nodes := g.nodes.modify t.index f }

def blank (buildDir : Option String) : Graph :=
  ⟨#[], [], [], [], [], [], [], none, buildDir⟩

end Graph
end BuildTree
