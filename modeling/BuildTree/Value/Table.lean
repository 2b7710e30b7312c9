import BuildTree.Value.Same

/-!
# Tables keyed by values

A table of values with what they stand for, in order of insertion. Values that are the same are one key, in the
spelling that came first.
-/

namespace BuildTree

/-- Values with what they stand for, in order of insertion. -/
abbrev ValueTable (ρ α : Type) :=
  List (Value ρ × α)

namespace ValueTable
variable {ρ α : Type} [DecidableEq ρ]

def get? : ValueTable ρ α → Value ρ → Option α
  | [], _ => none
  | (k, v) :: rest, key => if k.same key then some v else get? rest key

def has (table : ValueTable ρ α) (key : Value ρ) : Bool :=
  (table.get? key).isSome

def insert (key : Value ρ) (value : α) : ValueTable ρ α → ValueTable ρ α
  | [] => [(key, value)]
  | (k, v) :: rest => if k.same key then (k, value) :: rest else (k, v) :: insert key value rest

end ValueTable
end BuildTree
