import BuildTree.Pattern.Compile
import BuildTree.Value.Basic

/-!
# Resolving values

A value as it is written names targets and spells patterns. Resolving it looks the names up and reads the patterns,
from the front to the back, and the first one that fails decides. What a transform is made from is resolved when the
transform is applied: until then a transform that cannot be resolved stands for one that fails.
-/

namespace BuildTree.Value
variable {ρ σ : Type}

def checkedPattern (source : String) (ignoreCase : Bool) : Except Fault (Value σ) :=
  (Pattern.compile source ignoreCase).map fun _ => .pattern source ignoreCase

/-- A transform made from values that may have failed to be found. -/
def deferred {α : Type} (make : α → Transform σ) (made : Except Fault α) : Transform σ :=
  match made with
  | .ok parts => make parts
  | .error fault => .fail fault

mutual

/-- The value with its references looked up and its patterns read. -/
def resolve (lookUp : ρ → Except Fault σ) : Value ρ → Except Fault (Value σ)
  | .null => .ok .null
  | .bool b => .ok (.bool b)
  | .int i => .ok (.int i)
  | .float x => .ok (.float x)
  | .text s => .ok (.text s)
  | .list items => (resolveItems lookUp items).map .list
  | .record entries => (resolveEntries lookUp entries).map .record
  | .path p => .ok (.path p)
  | .target t => (lookUp t).map .target
  | .targetDependency t => (lookUp t).map .targetDependency
  | .pathDependency p => .ok (.pathDependency p)
  | .pattern source ignoreCase => checkedPattern source ignoreCase
  | .location l => .ok (.location l)
  | .other kind shown => .ok (.other kind shown)
  | .again isRecord => .ok (.again isRecord)
  | .transform f => .ok (.transform (resolveTransform lookUp f))

def resolveItems (lookUp : ρ → Except Fault σ) : List (Value ρ) → Except Fault (List (Value σ))
  | [] => .ok []
  | item :: rest => do
    let item ← resolve lookUp item
    return item :: (← resolveItems lookUp rest)

def resolveEntries (lookUp : ρ → Except Fault σ) :
    List (Key × Value ρ) → Except Fault (List (Key × Value σ))
  | [] => .ok []
  | (key, value) :: rest => do
    let value ← resolve lookUp value
    return (key, value) :: (← resolveEntries lookUp rest)

/-- The transform that is resolved when it is applied. -/
def resolveTransform (lookUp : ρ → Except Fault σ) : Transform ρ → Transform σ
  | .append items => deferred .append (resolveItems lookUp items)
  | .const value => deferred .const (resolve lookUp value)
  | .keep => .keep
  | .wrap => .wrap
  | .kind => .kind
  | .fail fault => .fail fault

end

end BuildTree.Value
