import BuildTree.Pattern.Token
import BuildTree.Pattern.Width

/-!
# Repetitions in patterns

A repetition is applied to the item before it. What stands in braces is a repetition only if it is counts; a group
without a number and without flags is one item as long as its row is read, and afterwards a part of the row.
-/

namespace BuildTree.Pattern

inductive RowItem where
  | part (node : Node)
  | bare (body : List Node)

def RowItem.parts : RowItem → List Node
  | .part node => [node]
  | .bare body => body

/-- The row that items are, the last one first. -/
def rowOfItems (items : List RowItem) : List Node :=
  items.reverse.flatMap RowItem.parts

/-- The count that digits spell, none if there are no digits. -/
def countOf (ds : List Char) : Reader (Option Nat) :=
  if ds.isEmpty then return none
  else if Text.digitLimit < ds.length then throw (.tooManyDigits ds.length)
  else if repeatBound ≤ decimalValue ds then throw .tooManyRepeats
  else return some (decimalValue ds)

/-- The counts of a repetition in braces, after the opening one; none if it is no repetition. -/
def readCounts (fuel : Nat) : Reader (Option (Nat × Option Nat)) := do
  let start ← get
  let low ← takeChars Char.isDigit fuel
  let high ← if ← accept ',' then takeChars Char.isDigit fuel else pure low
  if !(← accept '\x7d') then
    set start
    return none
  else
    let least := (← countOf low).getD 0
    let most ← countOf high
    match most with
    | some n => if n < least then throw (.at .reversedCounts start.position)
    | none => pure ()
    return some (least, most)

/-- How the repetition just read chooses between going on and stopping. -/
def readGreed : Reader Greed := do
  if ← accept '?' then return .lazy
  if ← accept '+' then return .possessive
  return .greedy

/-- Applies a repetition to the last item read, the first of `items`. -/
def applyRepeat (start least : Nat) (most : Option Nat) (items : List RowItem) : Reader (List RowItem) :=
  match items with
  | [] => throw (.at .nothingToRepeat start)
  | .part (.anchor _ _) :: _ => throw (.at .nothingToRepeat start)
  | .part (.repeat _ _ _ _) :: _ => throw (.at .multipleRepeat start)
  | item :: rest => do
    let greed ← readGreed
    return .part (.repeat least most greed item.parts) :: rest

end BuildTree.Pattern
