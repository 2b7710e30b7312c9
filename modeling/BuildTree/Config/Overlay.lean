import BuildTree.Value.Basic

/-!
# Overlaying configuration values

A delta is laid over a value. Two records are overlaid key by key: keys of the value keep their place, new keys
follow in the order of the delta. Anything else in the delta replaces what was there. A transform is applied to
the value at its place, or to nothing where there is none; a delta inside a list is plain data.

What it means to call a transform is left open, so that it can be said which calls are made. The program applies it.
-/

namespace BuildTree.Config
variable {ρ : Type}

section Calls
variable {m : Type → Type} [Monad m] (call : Value ρ → Transform ρ → m (Value ρ))

mutual

/-- A delta where there is no value: its transforms are called with nothing. -/
def settleWith : Value ρ → m (Value ρ)
  | .transform f => call .null f
  | .record entries => do return .record (← settleEntriesWith [] entries)
  | value => pure value

def settleEntriesWith (table : Record ρ) : List (Key × Value ρ) → m (Record ρ)
  | [] => pure table
  | (key, delta) :: rest => do
    let value ← settleWith delta
    settleEntriesWith (table.insert key value) rest

end

mutual

/-- A delta laid over a value. -/
def overlayWith (base : Value ρ) : Value ρ → m (Value ρ)
  | .transform f => call base f
  | .record entries => match base with
    | .record table => do return .record (← overlayEntriesWith table entries)
    | _ => settleWith call (.record entries)
  | value => pure value

/-- The entries of a delta laid over a table, from the first to the last. -/
def overlayEntriesWith (table : Record ρ) : List (Key × Value ρ) → m (Record ρ)
  | [] => pure table
  | (key, delta) :: rest => do
    let value ← match table.get? key with
      | some old => overlayWith old delta
      | none => settleWith call delta
    overlayEntriesWith (table.insert key value) rest

end

end Calls

/-- A delta where there is no value: its transforms are applied to nothing. -/
def settle : Value ρ → Except Fault (Value ρ) :=
  settleWith Transform.apply

/-- A delta laid over a value: its transforms are applied to what was there. -/
def overlay : Value ρ → Value ρ → Except Fault (Value ρ) :=
  overlayWith Transform.apply

end BuildTree.Config
