import BuildTree.Value.Resolve

/-!
# Arguments and signatures

Arguments are given by place or by name. A signature says which names there are, which of them have a place, and
which have to be given. Arguments that fit are bound to names; there is no reading of arguments that do not fit.
-/

namespace BuildTree
variable {ρ : Type}

structure Arguments (ρ : Type) where
  positional : List (Value ρ)
  named : Table (Value ρ)

/-- The arguments that something can be called with. -/
structure Signature where
  positional : List String
  required : List String
  keywords : List String
  takesRest : Bool

/-- Arguments by their names, and those beyond the last place. -/
structure Bound (ρ : Type) where
  given : Table (Value ρ)
  rest : List (Value ρ)

def Value.resolveNamed {σ : Type} (lookUp : ρ → Except Fault σ) :
    Table (Value ρ) → Except Fault (Table (Value σ))
  | [] => .ok []
  | (name, value) :: rest => do
    let value ← Value.resolve lookUp value
    return (name, value) :: (← resolveNamed lookUp rest)

/-- The arguments with their values resolved, those with a place first. -/
def Arguments.resolve {σ : Type} (lookUp : ρ → Except Fault σ) (args : Arguments ρ) :
    Except Fault (Arguments σ) := do
  let positional ← Value.resolveItems lookUp args.positional
  let named ← Value.resolveNamed lookUp args.named
  return ⟨positional, named⟩

namespace Signature

/-- A signature whose places all have to be filled. -/
def places (names : List String) : Signature :=
  ⟨names, names, [], false⟩

/-- Whether arguments fit: none too many, none given twice, no unknown name, none missing. -/
def fits (s : Signature) (args : Arguments ρ) : Bool :=
  let filled := s.positional.take args.positional.length
  (s.takesRest || args.positional.length ≤ s.positional.length)
    && args.named.all (fun entry =>
      (s.positional.contains entry.1 || s.keywords.contains entry.1) && !filled.contains entry.1)
    && s.required.all fun name => filled.contains name || Table.has args.named name

/-- The arguments bound to their names, if they fit. -/
def bind? (s : Signature) (args : Arguments ρ) : Option (Bound ρ) :=
  if s.fits args then
    some ⟨s.positional.zip args.positional ++ args.named, args.positional.drop s.positional.length⟩
  else none

end Signature

namespace Bound

/-- The argument of a name, nothing if it was not given. -/
def get (b : Bound ρ) (name : String) : Value ρ :=
  (b.given.get? name).getD .null

/-- The argument of a name that stands for many, none of them if it was not given. -/
def getMany (b : Bound ρ) (name : String) : Value ρ :=
  (b.given.get? name).getD (.list [])

end Bound
end BuildTree
