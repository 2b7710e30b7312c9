/-!
# Sets of code points by run lengths

A set of code points is written as the lengths of its runs: the code points outside it, then those inside,
and so on in turn. What follows the last run written belongs to the run after it.
-/

namespace BuildTree.Text

/-- Whether a code point lies in the set; `inside` says on which side the first run is. -/
def runSide : List Nat → Nat → Bool → Bool
  | [], _, inside => inside
  | n :: rest, c, inside => if c < n then inside else runSide rest (c - n) (!inside)

/-- Membership in the set of code points with these runs, the first one being outside. -/
def inRuns (runs : List Nat) (c : Nat) : Bool :=
  runSide runs c false

/-- How far into its run a code point lies; `inside` says on which side the first run is. -/
def runPlace : List Nat → Nat → Bool → Option Nat
  | [], c, inside => if inside then some c else none
  | n :: rest, c, inside =>
    if c < n then (if inside then some c else none) else runPlace rest (c - n) (!inside)

/-- How far into its run a member of the set with these runs lies, the first run being outside. -/
def placeInRun (runs : List Nat) (c : Nat) : Option Nat :=
  runPlace runs c false

/-- Whether a stretch of code points meets the set; `inside` says on which side the first run is. No run after the
first one may be empty. -/
def runMeets : List Nat → Nat → Nat → Bool → Bool
  | [], _, _, inside => inside
  | n :: rest, low, high, inside =>
    if low < n then inside || n ≤ high else runMeets rest (low - n) (high - n) (!inside)

/-- Whether some code point from `low` to `high` is in the set with these runs, the first one being outside. -/
def meetsRuns (runs : List Nat) (low high : Nat) : Bool :=
  runMeets runs low high false

end BuildTree.Text
