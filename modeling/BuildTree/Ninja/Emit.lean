import BuildTree.Graph.Basic
import BuildTree.Ninja.Rule

/-!
# Writing the build graph

The graph becomes one file of rules, one file for each partition in order of first use, and the root file, which
comes last. Every registered target is a statement in the file of its partition. The root file goes on with the
statement of the configure pass, with `clean` and `help`, and with the default goal.

A target that cannot be written makes the whole build fail: its rule is unknown, its pool was never declared, a value
would need a second line or has no text, or what was given as rule or pool cannot be one at all.
-/

namespace BuildTree.Ninja

inductive Obstacle where
  | unknownRule (shown : String)
  | undeclaredPool (shown : String)
  | lineBreak (key : String)
  | unwritable
  | misfit
deriving DecidableEq, Repr

def Obstacle.fault (target : String) (location : Option Location) : Obstacle → Fault
  | .unknownRule shown => .serialization target ("unsupported rule " ++ shown) location
  | .undeclaredPool shown => .serialization target ("pool " ++ shown ++ " was never declared") location
  | .lineBreak key => .serialization target ("variable " ++ Text.quoted key ++ " contains a newline") location
  | .unwritable => .serialization target Text.tooLongToWrite location
  | .misfit => .misfitTarget target location

def Obstacle.about (g : Graph) (value : Given) (say : String → Obstacle) : Obstacle :=
  ((g.shown? value).map say).getD .unwritable

inductive EmitFault where
  | badPartition (shown : String)
  | misfitPartition
  | unwritable
  | target (name : String) (obstacle : Obstacle) (location : Option Location)
  | ownLineBreak (key : String)
  | passWithoutCommand
deriving DecidableEq, Repr

def EmitFault.fault : EmitFault → Fault
  | .badPartition shown =>
    .serialization ("partition " ++ shown) "partition names must be plain file stems" none
  | .misfitPartition => .typeMismatch
  | .unwritable => Value.unwritable
  | .target name obstacle location => obstacle.fault name location
  | .ownLineBreak key => .invalidValue ("variable " ++ Text.quoted key ++ " contains a newline")
  | .passWithoutCommand => .missingAttribute

def EmitFault.written (text? : Option String) : Except EmitFault String :=
  match text? with
  | some text => .ok text
  | none => .error .unwritable

def EmitFault.target? : EmitFault → Option String
  | .target name _ _ => some name
  | _ => none

def buildFile : String :=
  "build.ninja"

def rulesFile : String :=
  "rules.ninja"

/-- The first binding whose value does not fit on one line. -/
def firstBroken (bindings : List Binding) : Option String :=
  (bindings.find? fun b => b.value.toList.contains '\n').map (·.key)

/-- A statement, unless a value does not fit on one line. -/
def Statement.checked (s : Statement) : Except Obstacle Statement :=
  match firstBroken s.bindings with
  | none => .ok s
  | some key => .error (.lineBreak key)

/-- The assignment of environment variables in front of a command. -/
def exportLine (env : Table String) : String :=
  "export " ++ String.intercalate " " (env.map fun (key, value) => key ++ "=" ++ Text.shellWord value) ++ " &&"

/-- The pool of a command, which has to be declared unless it is the console. -/
def poolInUse (g : Graph) (pool : Given) : Except Obstacle (Option Given) :=
  if !pool.isGiven then .ok none
  else if !pool.isKey then .error .misfit
  else if Graph.isConsole pool || g.pools.has pool then .ok (some pool)
  else .error (.about g pool .undeclaredPool)

/-- The bindings of a command that stand in front of its pool. -/
def bindingsBeforePool (r : Recipe) : List Binding :=
  let depfile := match r.depfile with
    | some file => if file = "" then [] else [Binding.mk "depfile" file]
    | none => []
  ⟨"cwd", Text.shellWord r.cwd⟩
    :: (if r.env.isEmpty then [] else [⟨"env", exportLine r.env⟩])
    ++ [⟨"cmd", String.intercalate " && " (r.commands.map Command.shellLine)⟩]
    ++ depfile

/-- The bindings of a command. A pool that is no text cannot be written; a line break in front of it is found
first. -/
def recipeBindings (g : Graph) (name : String) (r : Recipe) : Except Obstacle (List Binding) := do
  let front := bindingsBeforePool r
  let last : Binding := ⟨"desc", "CMD " ++ name⟩
  match ← poolInUse g r.pool with
  | none => return front ++ [last]
  | some (.text pool) => return front ++ [⟨"pool", pool⟩, last]
  | some _ => throw (((firstBroken front).map Obstacle.lineBreak).getD .misfit)

def actionBindings (g : Graph) (t : Target) : Except Obstacle (List Binding) :=
  match t.action with
  | .run r => recipeBindings g t.name r
  | .compile c => match g.text? c.compiler with
    | some compiler => .ok [
      ⟨"compiler", Text.shellWord compiler⟩,
      ⟨"flags", Text.shellLine c.flags⟩,
      ⟨"root", Text.shellWord c.root⟩]
    | none => .error .unwritable
  | _ => .ok []

/-- The rule that a statement names, which has to be known. -/
def knownRule (g : Graph) (rule : Given) : Except Obstacle String :=
  match rule with
  | .text name => if isKnownRule name then .ok name else .error (.about g rule .unknownRule)
  | rule => .error (if rule.isKey then .about g rule .unknownRule else .misfit)

def targetStatement (g : Graph) (t : Target) : Except Obstacle Statement := do
  let rule ← knownRule g t.action.rule
  let bindings ← actionBindings g t
  Statement.checked {
    outputs := t.outputs
    implicitOutputs := t.implicitOutputs
    rule := rule
    inputs := g.resolve t.inputs
    implicitInputs := g.resolve t.implicitInputs
    orderOnlyInputs := g.resolve t.orderOnlyInputs
    bindings := bindings }

/-- The targets of a partition, in the order of registration. -/
def partitionTargets (g : Graph) (p : Given) : List Target :=
  (g.targets.map g.node).filter (·.partition.same p)

/-- The statements of targets; the first one that fails decides. -/
def targetStatements (g : Graph) : List Target → Except EmitFault (List Statement)
  | [] => .ok []
  | t :: rest => do
    let first ← (targetStatement g t).mapError fun obstacle => .target t.name obstacle t.definedAt
    let others ← targetStatements g rest
    return first :: others

def buildItems (s : Statement) : List Item :=
  [.build s, .blank]

def header (title : String) : List Item :=
  [.comment "This file is generated by kiln; do not edit.", .comment title, .blank]

def poolTexts (g : Graph) : ValueTable TargetId PoolDepth → Except EmitFault (List (String × String))
  | [] => .ok []
  | (name, depth) :: rest => do
    let name ← EmitFault.written (g.text? name)
    let depth ← EmitFault.written depth.text?
    return (name, depth) :: (← poolTexts g rest)

/-- The file of rules for pools with these names and depths. -/
def rulesFileItems (interpreter : String) (pools : List (String × String)) : List Item :=
  header "Rules shared by every build file."
    ++ [.assign ⟨"python", escapeValue (Text.shellWord interpreter)⟩,
        .assign ⟨"copy", "$python -m kiln.util.commands copy"⟩,
        .assign ⟨"rewrite_depfile", "$python -m kiln.util.commands rewrite-depfile"⟩,
        .blank]
    ++ pools.flatMap (fun (name, depth) => [.pool name depth, .blank])
    ++ rules.flatMap fun (name, bindings) => [.rule name bindings, .blank]

def rulesItems (g : Graph) (interpreter : String) : Except EmitFault (List Item) := do
  return rulesFileItems interpreter (← poolTexts g g.pools)

def partitionItems (g : Graph) (p : Given) : Except EmitFault (List Item) := do
  let statements ← targetStatements g (partitionTargets g p)
  return header ("Partition " ++ g.shown p ++ ".") ++ statements.flatMap buildItems

/-- The statement of the configure pass: its outputs and the files of the partitions from its inputs. -/
def passStatement (g : Graph) (t : Target) (command : List String) (partitions : List Given) : Statement where
  outputs := partitions.foldl (fun outputs p =>
    let file := g.partitionFile p
    if outputs.contains file then outputs else outputs ++ [file]) t.outputs
  implicitOutputs := []
  rule := "reconfigure"
  inputs := g.resolve t.inputs
  implicitInputs := []
  orderOnlyInputs := []
  bindings := [
    ⟨"reconfigure_command", Text.shellLine command⟩,
    ⟨"pool", "console"⟩]

def cleanStatement : Statement :=
  ⟨["clean"], [], "clean", [], [], [], [⟨"pool", "console"⟩]⟩

/-- The goals that `help` lists, in the order of their names. -/
def goals (g : Graph) : List String :=
  g.named.keys.mergeSort fun a b => !(b < a)

def helpCommand (g : Graph) : String :=
  let lines := "Goals:" :: (goals g).map ("  " ++ ·) ++ ["  clean", "  help"]
  String.intercalate " && " (lines.map fun line => "echo " ++ Text.shellWord line)

def helpStatement (g : Graph) : Statement :=
  ⟨["help"], [], "help", [], [], [], [⟨"help_command", helpCommand g⟩, ⟨"pool", "console"⟩]⟩

/-- A statement that is not about a registered target. -/
def ownStatement (s : Statement) : Except EmitFault Statement :=
  match firstBroken s.bindings with
  | none => .ok s
  | some key => .error (.ownLineBreak key)

def passStatements (g : Graph) (partitions : List Given) : Except EmitFault (List Statement) :=
  match g.pass with
  | none => .ok []
  | some t => match (g.node t).action with
    | .reconfigure command => do
      let words ← command.mapM fun word => EmitFault.written (g.text? word)
      return [← ownStatement (passStatement g (g.node t) words partitions)]
    | _ => .error .passWithoutCommand

def rootItems (g : Graph) (partitions : List Given) : Except EmitFault (List Item) := do
  let statements ← targetStatements g (partitionTargets g .null)
  let pass ← passStatements g partitions
  let help ← ownStatement (helpStatement g)
  return header "Root build file."
    ++ [.assign ⟨"ninja_required_version", "1.5"⟩, .assign ⟨"builddir", "."⟩, .blank,
        .include rulesFile]
    ++ partitions.map (fun p => Item.include (escapePath (g.text p) ++ ".ninja"))
    ++ [.blank]
    ++ (statements ++ pass ++ [cleanStatement, help]).flatMap buildItems
    ++ [.goal (Graph.tagPrefix ++ Graph.defaultTag)]

/-- Whether a slash is in what names a partition: a character of a text, an item of a list or a key of a record. -/
def holdsSlash : Given → Except EmitFault Bool
  | .text name => .ok (name.toList.contains '/')
  | .list items => .ok (items.any (·.same (.text "/")))
  | .record entries => .ok (Table.has entries "/")
  | _ => .error .misfitPartition

/-- The fault of a partition that cannot have a file of its own. -/
def EmitFault.partition (g : Graph) (p : Given) : EmitFault :=
  ((g.shown? p).map .badPartition).getD .unwritable

/-- Refuses a partition that cannot have a file of its own. -/
def checkPartition (g : Graph) (p : Given) : Except EmitFault Unit := do
  if !p.isGiven then throw (.partition g p)
  if ← holdsSlash p then throw (.partition g p)
  let name ← EmitFault.written (g.text? p)
  if [buildFile, rulesFile].contains (name ++ ".ninja") then throw (.partition g p)

/-- Refuses partitions of which one cannot have a file of its own; the first one decides. -/
def checkPartitions (g : Graph) : List Given → Except EmitFault Unit
  | [] => .ok ()
  | p :: rest => do
    checkPartition g p
    checkPartitions g rest

/-- The files so far with those of partitions; the first one that fails decides. Of two partitions with one text the
later one is written. -/
def addPartitionFiles (g : Graph) (files : Table (List Item)) :
    List Given → Except EmitFault (Table (List Item))
  | [] => .ok files
  | p :: rest => do
    let items ← partitionItems g p
    addPartitionFiles g (files.insert (g.partitionFile p) items) rest

/-- The files of a graph as items, in the order they are written. -/
def emitItems (g : Graph) (interpreter : String) : Except EmitFault (Table (List Item)) := do
  let partitions := g.partitions
  checkPartitions g partitions
  let rules ← rulesItems g interpreter
  let files ← addPartitionFiles g [(rulesFile, rules)] partitions
  let root ← rootItems g partitions
  return files.insert buildFile root

/-- The files of a graph as texts, in the order they are written. -/
def emit (g : Graph) (interpreter : String) : Except EmitFault (Table String) := do
  let files ← emitItems g interpreter
  return files.map fun (name, items) => (name, render items)

end BuildTree.Ninja
