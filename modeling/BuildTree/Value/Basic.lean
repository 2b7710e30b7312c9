import BuildTree.Fault
import BuildTree.Path.Basic
import BuildTree.Table

/-!
# Values

Scripts pass values and the configuration holds them: plain data as in a JSON document, paths, and the things a
script may name besides. `ρ` is what a target is referred to by: the name a script has bound it to, or its
place in the build graph.

A record has texts as keys where it comes from a document; in a script anything that can be looked up can be a key. A
list or record that holds itself has a mark at the place where it stands again.

A transform stands for a function of the value that was there before. What it is made from is looked at only when
it is applied, so a transform that cannot be applied is a value like any other until then.
-/

namespace BuildTree

/-- What a record can have as a key. Of numbers these are the whole ones; of what JSON has no form for, a key tells its
kind and how it is shown. -/
inductive Key where
  | text (s : String)
  | null
  | int (i : Int)
  | other (kind shown : String)
deriving DecidableEq, Repr

instance : Coe String Key := ⟨.text⟩

mutual

inductive Value (ρ : Type) where
  | null
  | bool (b : Bool)
  | int (i : Int)
  | float (x : Float)
  | text (s : String)
  | list (items : List (Value ρ))
  | record (entries : List (Key × Value ρ))
  | path (p : Path)
  | target (t : ρ)
  | targetDependency (t : ρ)
  | pathDependency (p : String)
  | pattern (source : String) (ignoreCase : Bool)
  | location (l : Location)
  | other (kind shown : String)
  | again (isRecord : Bool)
  | transform (f : Transform ρ)

/-- A function of the value that was there before. -/
inductive Transform (ρ : Type) where
  | append (items : List (Value ρ))
  | const (value : Value ρ)
  | keep
  | wrap
  | kind
  | fail (fault : Fault)

end

abbrev Record (ρ : Type) :=
  Table (Value ρ) Key

def Key.value {ρ : Type} : Key → Value ρ
  | .text s => .text s
  | .null => .null
  | .int i => .int i
  | .other kind shown => .other kind shown

namespace Value
variable {ρ σ : Type}

instance : Inhabited (Value ρ) := ⟨.null⟩

/-- Whether a value counts as given: nothing, zero and what is empty do not. -/
def isGiven : Value ρ → Bool
  | .null => false
  | .bool b => b
  | .int i => i ≠ 0
  | .float x => !(x == 0.0)
  | .text s => s ≠ ""
  | .list items => !items.isEmpty
  | .record entries => !entries.isEmpty
  | _ => true

/-- The values met when going through a value: characters of a text, items of a list, keys of a record. -/
def items? : Value ρ → Option (List (Value ρ))
  | .text s => some (s.toList.map fun c => .text (String.ofList [c]))
  | .list items => some items
  | .record entries => some (entries.map fun entry => entry.1.value)
  | _ => none

def kindName : Value ρ → String
  | .bool _ => "bool"
  | .int _ => "int"
  | .float _ => "float"
  | .text _ => "str"
  | .list _ => "list"
  | .record _ => "record"
  | .path _ => "path"
  | .again isRecord => if isRecord then "record" else "list"
  | _ => "null"

end Value

/-- What a transform makes of the value that was there before, unless it fails. -/
def Transform.apply {ρ : Type} (before : Value ρ) : Transform ρ → Except Fault (Value ρ)
  | .append items => match before with
    | .list old => .ok (.list (old ++ items))
    | _ => .ok (.list items)
  | .const value => .ok value
  | .keep => .ok before
  | .wrap => .ok (.record [("was", before)])
  | .kind => .ok (.text before.kindName)
  | .fail fault => .error fault

end BuildTree
