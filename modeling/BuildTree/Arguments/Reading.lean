import BuildTree.Arguments.Signature
import BuildTree.Graph.Basic

/-!
# Reading arguments

What an argument has to be and what it then means. A text goes where several texts are wanted as its characters,
a record as its keys; a value that cannot be gone through does not fit. Almost every value has a text, so almost
every value can be a flag or a part of a command; only targets and paths can be depended on. Where a value has to be
shown to say what is wrong with it and has no text, that is what is said.
-/

namespace BuildTree.Argument

def items (value : Given) : Except Fault (List Given) :=
  match value.items? with
  | some items => .ok items
  | none => .error .typeMismatch

def written (text? : Option String) : Except Fault String :=
  match text? with
  | some text => .ok text
  | none => .error Value.unwritable

def text (g : Graph) (value : Given) : Except Fault String :=
  written (g.text? value)

def texts (g : Graph) (value : Given) : Except Fault (List String) := do
  (← items value).mapM (text g)

/-- Whether an argument is a single path. -/
def isPathLike : Given → Bool
  | .text _ => true
  | .path _ => true
  | _ => false

def isDependencyLike : Given → Bool
  | .text _ => true
  | .path _ => true
  | .target _ => true
  | .targetDependency _ => true
  | .pathDependency _ => true
  | _ => false

/-- A single path stands for itself where several are wanted. -/
def onePath (value : Given) : Given :=
  if isPathLike value then .list [value] else value

def oneDependency (value : Given) : Given :=
  if isDependencyLike value then .list [value] else value

def oneText : Given → Given
  | .text s => .list [.text s]
  | value => value

def path : Given → Except Fault Path
  | .text s => .ok (Path.ofString s)
  | .path p => .ok p
  | _ => .error .typeMismatch

/-- An argument as a text that nothing else stands for. -/
def exactText : Given → Except Fault String
  | .text s => .ok s
  | _ => .error .typeMismatch

def dependency (g : Graph) : Given → Except Fault Dependency
  | .target t => .ok (.target t)
  | .targetDependency t => .ok (.target t)
  | .text s => .ok (.path s)
  | .path p => .ok (.path p.toString)
  | .pathDependency p => .ok (.path p)
  | value => .error (g.refusal value none .notADependency)

def dependencies (g : Graph) (value : Given) : Except Fault (List Dependency) := do
  (← items value).mapM (dependency g)

/-- The dependencies before the first value that is none, and what is wrong with that one. -/
def leadingDependencies (g : Graph) : List Given → List Dependency × Except Fault Unit
  | [] => ([], .ok ())
  | value :: rest => match dependency g value with
    | .error fault => ([], .error fault)
    | .ok dep =>
      let (deps, outcome) := leadingDependencies g rest
      (dep :: deps, outcome)

/-- The texts before the first value that is no text, and what is wrong with that one. -/
def leadingTexts : List Given → List String × Except Fault Unit
  | [] => ([], .ok ())
  | .text s :: rest =>
    let (texts, outcome) := leadingTexts rest
    (s :: texts, outcome)
  | _ :: _ => ([], .error .typeMismatch)

def entryKey (g : Graph) (value : Given) : Except Fault Key :=
  if !value.isKey then .error .typeMismatch
  else match value with
    | .text s => .ok (.text s)
    | .null => .ok .null
    | .int i => .ok (.int i)
    | .other kind shown => .ok (.other kind shown)
    | value => .ok (.other value.kindName (g.text value))

/-- A value as an entry: two values, the first of them the key. -/
def entry (g : Graph) (place : Nat) (value : Given) : Except Fault (Key × Given) := do
  match ← items value with
  | [key, content] => return (← entryKey g key, content)
  | parts => throw (.invalidValue ("dictionary update sequence element #" ++ toString place ++ " has length "
      ++ toString parts.length ++ "; 2 is required"))

/-- Values as entries, counted from a place. -/
def entriesFrom (g : Graph) : Nat → List Given → Except Fault (List (Key × Given))
  | _, [] => .ok []
  | place, value :: rest => do
    let first ← entry g place value
    return first :: (← entriesFrom g (place + 1) rest)

/-- An argument as a table: a record, or a sequence of entries. -/
def table (g : Graph) (value : Given) : Except Fault (Record TargetId) :=
  if !value.isGiven then .ok []
  else match value with
    | .record entries => .ok entries
    | value => do return Table.insertAll [] (← entriesFrom g 0 (← items value))

def textTable (g : Graph) (value : Given) : Except Fault (Table String) :=
  if !value.isGiven then .ok []
  else match value with
    | .record entries => entries.mapM fun (key, content) => do
      return (← written key.text?, ← text g content)
    | _ => .error .missingAttribute

/-- An argument as a command: a line, or arguments. -/
def command (g : Graph) : Given → Except Fault Command
  | .text s => .ok (.line s)
  | value => (texts g value).map .arguments

def commands (g : Graph) (value : Given) : Except Fault (List Command) := do
  (← items value).mapM (command g)

def depth : Given → Except Fault PoolDepth
  | .int n => .ok (.whole n)
  | .float x => .ok (.fraction x)
  | .bool true => .ok .yes
  | .bool false => .ok (.whole 0)
  | _ => .error .typeMismatch

end BuildTree.Argument
