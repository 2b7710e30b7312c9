/-!
# Source locations

Where in a script something was declared, so that a message can point there.
-/

namespace BuildTree

/-- A line of a file, which may be left open, or a place that only has a name. -/
inductive Location where
  | line (file : String) (number : Option Int)
  | named (text : String)
deriving DecidableEq, Repr, Inhabited

namespace Location

def numberText : Option Int → String
  | some n => toString n
  | none => "None"

protected def toString : Location → String
  | .line file number => file ++ ":" ++ numberText number
  | .named text => text

instance : ToString Location := ⟨Location.toString⟩

/-- A text with its location in front, if it has one. -/
def before (l : Option Location) (text : String) : String :=
  match l with
  | some l => l.toString ++ ": " ++ text
  | none => text

end Location
end BuildTree
